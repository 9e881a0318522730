import KernelStats.Proofs.Session.Records

/-!
# What a failed call leaves

A call can fail before it has touched anything, at a lookup that finds nothing, or at a read. Of the first
nothing is left, and of the others no more than a count on the chain. Only a lookup has done something
worth keeping by the time its read fails: it has met a kstat, which gets an object then and there.
-/

namespace KernelStats

/-- A failure by which a call has not come to an answer: the token is closed, the kstat is not a named one, or
its records are not to be had. -/
def Failure.Answerless (f : Failure) : Prop :=
  f.code = .closedToken ∨ f.code = .typeMismatch ∨ f.code = .readFailure

namespace Session

/-- All is as it was, but for the counters of lookups and of the reads of one kstat. -/
structure Spares (s s' : Session) (lookups : Nat) (id : RecordId) (reads : Nat) : Prop where
  chain : s'.kernel.chain = s.kernel.chain.counting lookups id reads
  handle : s'.handle = s.handle
  cache : s'.cache = s.cache
  kstats : s'.kstats = s.kstats

/-- What a call leaves if it fails without an answer: nothing, or the count of a read. -/
def Withdraws {α : Type} (s : Session) (id : RecordId) (outcome : Session × Except Failure α) : Prop :=
  ∀ f, outcome.2 = .error f → f.Answerless →
    (∃ events, outcome.1 = s.report events) ∨ f.code = .readFailure ∧ s.Spares outcome.1 0 id 1

variable {s : Session} {k : KStatId} {id : RecordId} {f : Failure}

/-! ### Calls on objects -/

theorem spares_refresh (hs : s.Sound) (hk : s.StandsFor k id) (hbad : s.readErrno k ≠ 0) :
    s.Spares (s.refresh k).1 0 id 1 where
  chain := by
    rw [kernel_refresh, hk.record]
    refine Handle.chain_read_of_failed hs.intact ?_
    rw [← hk.record]
    exact hbad
  handle := (handle_refresh s k).trans (Handle.read_of_failed hbad).1
  cache := cache_refresh s k
  kstats := by
    rw [refresh_eq, if_neg hbad]
    rfl

theorem withdraws_refresh (hs : s.Sound) (hk : s.StandsFor k id) : s.Withdraws id (s.refresh k) := by
  intro f hf _
  obtain ⟨hbad, rfl⟩ := refresh_of_error hf
  exact .inr ⟨rfl, spares_refresh hs hk hbad⟩

theorem withdraws_prepare (hs : s.Sound) (hk : s.StandsFor k id) : s.Withdraws id (s.prepare k) := by
  intro f hf _
  rcases prepare_of_error hf with ⟨hsame, -⟩ | ⟨hbad, hread, rfl⟩
  · refine .inl ⟨[], ?_⟩
    rw [hsame, report, List.append_nil]
  · rw [hread]
    exact .inr ⟨rfl, spares_refresh hs hk hbad⟩

theorem withdraws_statistic (hs : s.Sound) (hk : s.StandsFor k id) (name : Bytes) :
    s.Withdraws id (s.statistic k name) := by
  intro f hf hanswerless
  cases hready : (s.prepare k).2 with
  | error g =>
    rw [statistic_of_error hready] at hf ⊢
    cases hf
    exact withdraws_prepare hs hk _ hready hanswerless
  | ok _ =>
    -- what is not found, or of an unknown type, is an answer
    rw [statistic_of_ok hready, result_answer] at hf
    split at hf
    · cases hf
      rcases hanswerless with hcode | hcode | hcode <;> cases hcode
    · obtain ⟨-, rfl⟩ := Record.decode_eq_error_iff.1 hf
      rcases hanswerless with hcode | hcode | hcode <;> cases hcode

/-- After a read that went well there are as many records as the header counts, so there is no gap. -/
theorem code_of_statistics (hs : s.Sound) (hk : s.StandsFor k id)
    (hnames : (s.kstat k).identity.type = .named → s.handle.Names s.kernel id)
    (hdata : (s.header k).hasData = false) (hready : (s.prepare k).2 = .ok ())
    (hf : (s.statistics k).2 = .error f) : f.code = .unknownDataType := by
  have htype := named_of_prepare hk hready
  rw [(moves_prepare hk).advances.identity hk] at htype
  have hload := (prepare_eq_load htype).2.2.1 hready
  obtain ⟨hloaded, hrecords, hheader⟩ := loaded_prepare hs hk hnames hready
  rw [header, hk.record] at hdata
  rw [hk.record, Handle.load_of_no_data hdata] at hload
  rw [Handle.load_of_no_data hdata] at hrecords hheader
  obtain ⟨-, hcount, hthere⟩ := Handle.loaded_of_read hs.intact (hnames htype) hload
  rw [(statistics_of_loaded hready hloaded).1] at hf
  refine hloaded.code_of_statistics ?_ hf
  rw [hrecords, hheader, hcount, hthere, UInt32.toNat_ofNat']
  exact Nat.mod_le _ _

theorem withdraws_statistics (hs : s.Sound) (hk : s.StandsFor k id)
    (hnames : (s.kstat k).identity.type = .named → s.handle.Names s.kernel id) :
    s.Withdraws id (s.statistics k) := by
  intro f hf hanswerless
  cases hready : (s.prepare k).2 with
  | error g =>
    rw [statistics_of_error hready] at hf ⊢
    cases hf
    exact withdraws_prepare hs hk _ hready hanswerless
  | ok _ =>
    cases hdata : (s.header k).hasData with
    | true =>
      have htype := named_of_prepare hk hready
      rw [(moves_prepare hk).advances.identity hk] at htype
      rw [statistics_of_ok hready, prepare_of_data htype hdata, answer_eq]
      exact .inl ⟨_, rfl⟩
    | false =>
      have hcode := code_of_statistics hs hk hnames hdata hready hf
      rcases hanswerless with hother | hother | hother <;> cases hcode.symm.trans hother

/-! ### Failed reads and later calls -/

/-- Where only counters have moved, an object whose kstat cannot be read answers as before. -/
theorem Spares.answers {s' : Session} {lookups reads : Nat} {counted : RecordId}
    (h : s.Spares s' lookups counted reads) (hs : s.Sound) (hk : s.StandsFor k id)
    (hnames : (s.kstat k).identity.type = .named → s.handle.Names s.kernel id)
    (hbad : s.readErrno k ≠ 0) :
    (∀ name, (s'.statistic k name).2 = (s.statistic k name).2) ∧ (s'.statistics k).2 = (s.statistics k).2 := by
  have hunread : s'.kernel.chain.unread = s.kernel.chain.unread := by
    rw [h.chain, Chain.unread_counting]
  have hsame : SameFor k s s' := .of_unread h.handle hunread h.kstats
  by_cases hloaded : (s.kstat k).identity.type = .named ∧ (s.header k).hasData = true
  · have hloaded : s.Loaded k := ⟨hloaded.1, hloaded.2, by rw [hk.record]; exact hnames hloaded.1⟩
    exact ⟨hsame.statistic hloaded, hsame.statistics hloaded⟩
  · -- it was not ready before, and for the same reason it is not ready now
    suffices hfails : ∃ f, (s.prepare k).2 = .error f ∧ (s'.prepare k).2 = .error f by
      obtain ⟨f, hbefore, hafter⟩ := hfails
      refine ⟨fun name => ?_, ?_⟩
      · rw [statistic_of_error hbefore, statistic_of_error hafter]
      · rw [statistics_of_error hbefore, statistics_of_error hafter]
    by_cases htype : (s.kstat k).identity.type = .named
    · have hdata : (s.header k).hasData = false := by simpa [htype] using hloaded
      have herrno : s'.readErrno k = s.readErrno k := by
        rw [readErrno, readErrno, hsame.kstat, hsame.handle, Handle.errno_read hs.intact,
          Handle.errno_read hs.intact, Chain.readErrno_congr hunread]
      rw [prepare_of_no_data htype hdata, prepare_of_no_data (hsame.kstat ▸ htype) (hsame.header ▸ hdata),
        result_refresh, result_refresh, herrno, if_neg hbad, if_neg hbad, hsame.kstat]
      exact ⟨_, rfl, rfl⟩
    · rw [prepare_of_unnamed htype, prepare_of_unnamed (hsame.kstat ▸ htype), hsame.kstat]
      exact ⟨_, rfl, rfl⟩

/-! ### Lookups -/

/-- What a lookup leaves that was the first to meet a kstat, and could not read it. -/
structure Meets (s s' : Session) (id : RecordId) : Prop where
  chain : s'.kernel.chain = s.kernel.chain.counting 1 id 1
  handle : s'.handle = s.handle
  cache : s'.cache = (s.cache.insert id s.kstats.length).1
  kstats : s'.kstats = s.kstats ++ [KStat.ofHeader s.token id (s.handle.header s.kernel id)]

theorem spares_searched (s : Session) (q : Query) (id : RecordId) : s.Spares (s.searched q) 1 id 0 where
  chain := by
    rw [Chain.counting_none]
    exact Handle.chain_lookup s.kernel s.handle q
  handle := rfl
  cache := rfl
  kstats := rfl

theorem lookup_of_unread (hs : s.Sound) {q : Query} (hfound : (s.handle.lookup s.kernel q).2 = .ok id)
    (hf : (s.lookup q).2 = .error f) :
    f.code = .readFailure ∧
      match s.cache.find? id with
      | some _ => s.Spares (s.lookup q).1 1 id 1
      | none => s.Meets (s.lookup q).1 id := by
  have hsound : (s.matched q id).1.Sound := sound_intern (sound_searched hs q) id
  have hstands := standsFor_matched hs q id
  have hsearched : (s.searched q).kernel.chain = { s.kernel.chain with lookups := s.kernel.chain.lookups + 1 } :=
    Handle.chain_lookup s.kernel s.handle q
  rw [lookup_of_ok hfound] at hf ⊢
  obtain ⟨g, hg⟩ : ∃ g, ((s.matched q id).1.refresh (s.matched q id).2).2 = .error g := by
    cases hread : ((s.matched q id).1.refresh (s.matched q id).2).2 with
    | error g => exact ⟨g, rfl⟩
    | ok _ =>
      rw [hread] at hf
      cases hf
  obtain ⟨hbad, rfl⟩ := refresh_of_error hg
  obtain ⟨hchain, hhandle, hcache, hkstats⟩ := spares_refresh hsound hstands hbad
  rw [hg] at hf
  cases hf
  have hkernel : (s.matched q id).1.kernel = (s.searched q).kernel := kernel_intern (s.searched q) id
  have hkept : (s.matched q id).1.handle = s.handle := handle_intern (s.searched q) id
  rw [hkernel, hsearched] at hchain
  refine ⟨rfl, ?_⟩
  cases hfind : s.cache.find? id with
  | some k =>
    have hmatched : s.matched q id = (s.searched q, k) := intern_of_find? hfind
    exact ⟨hchain, hhandle.trans hkept, hcache.trans (by rw [hmatched]; rfl), hkstats.trans (by rw [hmatched]; rfl)⟩
  | none =>
    have hmatched := intern_of_none (s := s.searched q) hfind
    have hheader : (s.searched q).handle.header (s.searched q).kernel id = s.handle.header s.kernel id := by
      refine Handle.header_congr ?_ s.handle id
      rw [hsearched]
      rfl
    rw [hheader] at hmatched
    refine ⟨hchain, hhandle.trans hkept, hcache.trans ?_, hkstats.trans ?_⟩
    · rw [matched, hmatched]
      rfl
    · rw [matched, hmatched]
      rfl

end Session

end KernelStats
