import KernelStats.Proofs.Handle.Records
import KernelStats.Proofs.Record.Listing
import KernelStats.Proofs.Session.Labels

/-!
# Loaded objects

Once a kstat is loaded, what its object answers depends on the records that the handle has for it and on
the count in its header alone. A call first gets its object ready, which is a load of the kstat, and then
answers from what the load has left, and so does the call after it.
-/

namespace KernelStats

namespace Session

def records (s : Session) (k : KStatId) : List Record := s.handle.records s.kernel (s.kstat k).record

/-- An object whose statistics can be asked for without a read. -/
structure Loaded (s : Session) (k : KStatId) : Prop where
  type : (s.kstat k).identity.type = .named
  data : (s.header k).hasData = true
  names : s.handle.Names s.kernel (s.kstat k).record

variable {s s' : Session} {k : KStatId} {id : RecordId}

theorem Loaded.prepare (h : s.Loaded k) : s.prepare k = (s, .ok ()) := prepare_of_data h.type h.data

theorem Loaded.statistic (h : s.Loaded k) (name : Bytes) :
    (s.statistic k name).2 =
      Record.statistic k (s.kstat k).identity (s.records k) (s.handle.key name) name := by
  have hready : (s.prepare k).2 = .ok () := by rw [h.prepare]
  rw [statistic_of_ok hready, h.prepare]
  simp only [result_answer, Handle.record?_eq h.names]
  rfl

theorem Loaded.statistics (h : s.Loaded k) :
    (s.statistics k).2 =
      Record.statistics k (s.kstat k).identity (s.records k) (s.header k).ndata.toNat := by
  have hready : (s.prepare k).2 = .ok () := by rw [h.prepare]
  rw [statistics_of_ok hready, h.prepare]
  simp only [result_answer]
  apply collect_congr
  intro index _ hindex
  rw [Nat.zero_add] at hindex
  rw [statisticAt, Handle.recordAt?_eq h.names hindex]
  rfl

theorem Loaded.code_of_statistics (h : s.Loaded k) (hle : (s.header k).ndata.toNat ≤ (s.records k).length)
    {f : Failure} (hf : (s.statistics k).2 = .error f) : f.code = .unknownDataType := by
  rw [h.statistics] at hf
  obtain ⟨index, hfirst⟩ := Record.statistics_eq_error_iff.1 hf
  exact hfirst.code.2.trans (if_pos (Nat.lt_of_lt_of_le hfirst.counted hle))

section

variable (htallies : (s.header k).ndata.toNat = (s.records k).length)

include htallies

theorem Loaded.statistic_of_statistics (h : s.Loaded k) {many : List Statistic}
    (hmany : (s.statistics k).2 = .ok many) (name : Bytes) :
    (s.statistic k name).2 = Statistic.first (s.kstat k).identity many (s.handle.key name) name := by
  rw [h.statistics, htallies] at hmany
  rw [h.statistic, Record.statistic_of_statistics hmany]

theorem Loaded.statistics_of_unknown (h : s.Loaded k) {name : Bytes} {f : Failure}
    (hone : (s.statistic k name).2 = .error f) (hcode : f.code = .unknownDataType) :
    ∃ g, (s.statistics k).2 = .error g ∧ g.code = .unknownDataType := by
  rw [h.statistic] at hone
  rw [h.statistics, htallies]
  exact Record.statistics_of_unknown hone hcode

end

/-- What gets an object ready is a load of its kstat. -/
theorem prepare_eq_load (htype : (s.kstat k).identity.type = .named) :
    (s.prepare k).1.kernel = (s.handle.load s.kernel (s.kstat k).record).1 ∧
      (s.prepare k).1.handle = (s.handle.load s.kernel (s.kstat k).record).2.1 ∧
      ((s.prepare k).2 = .ok () ↔ (s.handle.load s.kernel (s.kstat k).record).2.2 = 0) := by
  cases hdata : (s.header k).hasData with
  | true =>
    rw [prepare_of_data htype hdata, Handle.load_of_data hdata]
    exact ⟨rfl, rfl, iff_of_true rfl rfl⟩
  | false =>
    rw [prepare_of_no_data htype hdata, Handle.load_of_no_data hdata]
    refine ⟨kernel_refresh s k, handle_refresh s k, ?_⟩
    rw [result_refresh]
    by_cases hgood : s.readErrno k = 0
    · rw [if_pos hgood]
      exact iff_of_true rfl hgood
    · rw [if_neg hgood]
      exact iff_of_false nofun hgood

theorem loaded_prepare (hs : s.Sound) (hk : s.StandsFor k id)
    (hnames : (s.kstat k).identity.type = .named → s.handle.Names s.kernel id)
    (hready : (s.prepare k).2 = .ok ()) :
    (s.prepare k).1.Loaded k ∧
      (s.prepare k).1.records k = (s.handle.load s.kernel id).2.1.records (s.handle.load s.kernel id).1 id ∧
      (s.prepare k).1.header k = (s.handle.load s.kernel id).2.1.header (s.handle.load s.kernel id).1 id := by
  have hadvances := (moves_prepare hk).advances
  have hrecord : ((s.prepare k).1.kstat k).record = id := (hadvances.standsFor hk).record
  have htype := named_of_prepare hk hready
  have hnamed := htype
  rw [hadvances.identity hk] at hnamed
  obtain ⟨hkernel, hhandle, hload⟩ := prepare_eq_load hnamed
  rw [hk.record] at hkernel hhandle hload
  rw [records, header, hrecord, hkernel, hhandle]
  refine ⟨⟨htype, ?_, ?_⟩, rfl, rfl⟩
  · rw [header, hrecord, hkernel, hhandle]
    exact Handle.hasData_load hs.intact (hnames hnamed) (hload.1 hready)
  · rw [hrecord, hkernel, hhandle]
    exact Handle.names_load (hnames hnamed)

/-! ### Objects that look the same -/

/-- What an object answers from has not changed between two sessions. -/
structure SameFor (k : KStatId) (s s' : Session) : Prop where
  handle : s'.handle = s.handle
  kstat : s'.kstat k = s.kstat k
  header : s'.header k = s.header k
  records : s'.records k = s.records k
  identities : s'.handle.identities s'.kernel = s.handle.identities s.kernel

theorem SameFor.of_unread (hhandle : s'.handle = s.handle)
    (hchain : s'.kernel.chain.unread = s.kernel.chain.unread) (hkstats : s'.kstats = s.kstats) :
    SameFor k s s' := by
  have hkstat : s'.kstat k = s.kstat k := by rw [Session.kstat, Session.kstat, hkstats]
  refine ⟨hhandle, hkstat, ?_, ?_, ?_⟩
  · rw [Session.header, Session.header, hhandle, hkstat, Handle.header_congr hchain]
  · rw [Session.records, Session.records, hhandle, hkstat, Handle.records_congr hchain]
  · rw [hhandle, Handle.identities_of_unread hchain]

theorem SameFor.loaded (h : SameFor k s s') (hloaded : s.Loaded k) : s'.Loaded k where
  type := by
    rw [h.kstat]
    exact hloaded.type
  data := by
    rw [h.header]
    exact hloaded.data
  names := by
    rw [h.kstat, h.handle]
    intro hlibrary
    have hsame := h.identities
    rw [h.handle] at hsame
    rw [Handle.identity?, hsame]
    exact hloaded.names hlibrary

theorem SameFor.statistic (h : SameFor k s s') (hloaded : s.Loaded k) (name : Bytes) :
    (s'.statistic k name).2 = (s.statistic k name).2 := by
  rw [(h.loaded hloaded).statistic, hloaded.statistic, h.kstat, h.records, h.handle]

theorem SameFor.statistics (h : SameFor k s s') (hloaded : s.Loaded k) :
    (s'.statistics k).2 = (s.statistics k).2 := by
  rw [(h.loaded hloaded).statistics, hloaded.statistics, h.kstat, h.records, h.header]

/-- A call that finds its object ready has the answer of the loaded object, and leaves it alone. -/
theorem statistics_of_loaded (hready : (s.prepare k).2 = .ok ()) (hloaded : (s.prepare k).1.Loaded k) :
    (s.statistics k).2 = ((s.prepare k).1.statistics k).2 ∧
      SameFor k (s.prepare k).1 { (s.statistics k).1 with log := [] } := by
  have hagain : ((s.prepare k).1.prepare k).2 = .ok () := by rw [hloaded.prepare]
  rw [statistics_of_ok hready, statistics_of_ok hagain, hloaded.prepare]
  simp only [answer_eq]
  exact ⟨trivial, .of_unread rfl rfl rfl⟩

theorem statistic_of_loaded (hready : (s.prepare k).2 = .ok ()) (hloaded : (s.prepare k).1.Loaded k)
    (name : Bytes) :
    (s.statistic k name).2 = ((s.prepare k).1.statistic k name).2 ∧
      SameFor k (s.prepare k).1 { (s.statistic k name).1 with log := [] } := by
  have hagain : ((s.prepare k).1.prepare k).2 = .ok () := by rw [hloaded.prepare]
  rw [statistic_of_ok hready, statistic_of_ok hagain, hloaded.prepare]
  simp only [answer_eq]
  exact ⟨trivial, .of_unread rfl (congrArg Chain.unread (Handle.chain_record? _ _ _ _)) rfl⟩

/-- An object answers from what the load of its kstat leaves. -/
theorem statistics_of_load (hs : s.Sound) (hk : s.StandsFor k id) (hnames : s.handle.Names s.kernel id)
    (htype : (s.kstat k).identity.type = .named) (hload : (s.handle.load s.kernel id).2.2 = 0) :
    (s.statistics k).2 = Record.statistics k (s.kstat k).identity
      ((s.handle.load s.kernel id).2.1.records (s.handle.load s.kernel id).1 id)
      ((s.handle.load s.kernel id).2.1.header (s.handle.load s.kernel id).1 id).ndata.toNat := by
  have hready : (s.prepare k).2 = .ok () := by
    rw [(prepare_eq_load htype).2.2, hk.record]
    exact hload
  obtain ⟨hloaded, hrecords, hheader⟩ := loaded_prepare hs hk (fun _ => hnames) hready
  rw [(statistics_of_loaded hready hloaded).1, hloaded.statistics, hrecords, hheader,
    (moves_prepare hk).advances.identity hk]

/-! ### One call after the other -/

/-- An object does not get ready because it is not a named one, or because its kstat cannot be read. -/
theorem prepare_of_error {f : Failure} (h : (s.prepare k).2 = .error f) :
    ((s.prepare k).1 = s ∧ f = .notNamed (s.kstat k).identity) ∨
      (s.readErrno k ≠ 0 ∧ (s.prepare k).1 = (s.refresh k).1 ∧
        f = .unreadable (s.kstat k).identity (s.readErrno k)) := by
  by_cases htype : (s.kstat k).identity.type = .named
  · cases hdata : (s.header k).hasData with
    | true =>
      rw [prepare_of_data htype hdata] at h
      cases h
    | false =>
      rw [prepare_of_no_data htype hdata] at h ⊢
      obtain ⟨hbad, rfl⟩ := refresh_of_error h
      exact .inr ⟨hbad, rfl, rfl⟩
  · rw [prepare_of_unnamed htype] at h ⊢
    cases h
    exact .inl ⟨rfl, rfl⟩

theorem key_prepare (s : Session) (k : KStatId) : (s.prepare k).1.handle.key = s.handle.key := by
  rcases s.prepare_cases k with ⟨r, hnone⟩ | hread
  · rw [hnone]
  · rw [hread, handle_refresh]
    exact Handle.key_of_facility (Handle.facility_read _ _ _)

section

variable (hloads : (s.prepare k).2 = .ok () → (s.prepare k).1.Loaded k)
  (htallies : (s.prepare k).2 = .ok () →
    ((s.prepare k).1.header k).ndata.toNat = ((s.prepare k).1.records k).length)

include hloads htallies

/-- Right after a list, one statistic is the first of its name in the list. -/
theorem statistic_after_statistics (hk : s.StandsFor k id) {many : List Statistic}
    (hmany : (s.statistics k).2 = .ok many) (name : Bytes) :
    (({ (s.statistics k).1 with log := [] } : Session).statistic k name).2 =
      Statistic.first (s.kstat k).identity many (s.handle.key name) name := by
  cases hready : (s.prepare k).2 with
  | error f =>
    rw [statistics_of_error hready] at hmany
    cases hmany
  | ok _ =>
    have hloaded := hloads hready
    obtain ⟨hresult, hsame⟩ := statistics_of_loaded hready hloaded
    rw [hresult] at hmany
    rw [hsame.statistic hloaded, hloaded.statistic_of_statistics (htallies hready) hmany, key_prepare,
      (moves_prepare hk).advances.identity hk]

theorem statistics_after_unknown {name : Bytes} {f : Failure} (hone : (s.statistic k name).2 = .error f)
    (hcode : f.code = .unknownDataType) :
    ∃ g, (({ (s.statistic k name).1 with log := [] } : Session).statistics k).2 = .error g ∧
      g.code = .unknownDataType := by
  cases hready : (s.prepare k).2 with
  | error g =>
    rw [statistic_of_error hready] at hone
    cases hone
    rcases prepare_of_error hready with ⟨-, rfl⟩ | ⟨-, -, rfl⟩
    · cases hcode
    · cases hcode
  | ok _ =>
    have hloaded := hloads hready
    obtain ⟨hresult, hsame⟩ := statistic_of_loaded hready hloaded name
    rw [hresult] at hone
    rw [hsame.statistics hloaded]
    exact hloaded.statistics_of_unknown (htallies hready) hone hcode

end

end Session

end KernelStats
