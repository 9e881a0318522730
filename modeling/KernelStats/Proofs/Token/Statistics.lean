import KernelStats.Chain.Sample
import KernelStats.Proofs.Session.Records
import KernelStats.Proofs.Token.OneRead

/-!
# All statistics, and one of them

The statistics of a kstat are asked for all at once or one by name. All at once it is all or nothing: the
header says how many there are, and the first position below that number at which there is no record, or
one of an unknown type, makes a failure of the whole list. By name the same records are searched, so that
the two ways agree as soon as the header counts what is there. That is so after every read that went well,
but an edit of the chain may part the two for a live token.
-/

namespace KernelStats

theorem Session.Backed.tallies {s : Session} {past : List Moment} {k : KStatId} {id : RecordId}
    (h : s.Backed past) (hk : s.StandsFor k id) (hdata : (s.header k).hasData = true)
    (hfew : (s.records k).length < UInt32.size) :
    (s.header k).ndata.toNat = (s.records k).length := by
  rw [h.hasData_eq hk] at hdata
  obtain ⟨reading, hlast⟩ := Option.isSome_iff_exists.1 hdata
  rw [Session.records, hk.record, h.records_eq hk hlast] at hfew ⊢
  rw [h.ndata_eq hk hlast, Reading.counted_eq hfew]

namespace Client

def handle? (c : Client) (t : TokenId) : Option Handle := c.tokens[t]?.bind Token.handle

section

variable {c : Client} {t : TokenId} {s : Session} {k : KStatId} {kstat : KStat} {handle : Handle}

theorem exists_session?_of_handle? (hhandle : c.handle? t = some handle) :
    ∃ s, c.session? t = some s ∧ s.handle = handle := by
  obtain ⟨token, htoken, hopen⟩ := Option.bind_eq_some_iff.1 hhandle
  exact ⟨_, session?_eq_some_iff.2 ⟨token, handle, htoken, hopen, rfl⟩, rfl⟩

/-- To a library handle an object of a named kstat stands for a named kstat, after every run. -/
theorem names_run (kernel : Kernel) (requests : List Request)
    (hs : (run { kernel } requests).session? t = some s) {id : RecordId} (hk : s.StandsFor k id)
    (htype : (s.kstat k).identity.type = .named) : s.handle.Names s.kernel id := by
  intro hlibrary
  exact (backed_run kernel requests hs hlibrary).names hk htype hlibrary

theorem result_settle (hs : c.session? t = some s) {id : RecordId} (hk : s.StandsFor k id) {s' : Session}
    (hmoves : s.Moves s') :
    (∀ name, ((c.settle t s').statistic k name).result =
      (({ s' with log := [] } : Session).statistic k name).2) ∧
    ((c.settle t s').statistics k).result = (({ s' with log := [] } : Session).statistics k).2 := by
  have hs' := session?_settle hs (hmoves.advances.token.trans (token_of_session? hs))
  have hstands := hmoves.advances.standsFor hk
  have hk' : (c.settle t s').kstat? k = some (s'.kstat k) := hstands.getElem?
  have htoken : (s'.kstat k).token = t :=
    hstands.token.trans (hmoves.advances.token.trans (token_of_session? hs))
  exact ⟨result_statistic hs' hk' htoken, result_statistics hs' hk' htoken⟩

end

/-- **A list is complete or it is a failure.** Once the kstat of an object is loaded, the object lists as many
statistics as the header counts, each from the record at its position, or it fails. It fails at the first
position that is counted and has no record, or one of an unknown type, whatever comes behind it. -/
theorem statistics_complete (kernel : Kernel) (requests : List Request) {k : KStatId} {kstat : KStat}
    {handle : Handle} (hk : (run { kernel } requests).kstat? k = some kstat)
    (hopen : (run { kernel } requests).handle? kstat.token = some handle)
    (htype : kstat.identity.type = .named)
    (hload : (handle.load (run { kernel } requests).kernel kstat.record).2.2 = 0) :
    let now := run { kernel } requests
    let loaded := handle.load now.kernel kstat.record
    let count := (loaded.2.1.header loaded.1 kstat.record).ndata.toNat
    let records := loaded.2.1.records loaded.1 kstat.record
    (∀ many, (now.statistics k).result = .ok many ↔ many.length = count ∧
      ∀ i < count, ∃ r one, records[i]? = some r ∧ many[i]? = some one ∧
        r.decode (some (k, kstat.identity)) = .ok one) ∧
    ((∃ many, (now.statistics k).result = .ok many) ↔
      count ≤ records.length ∧ ∀ r ∈ records.take count, r.type.code ∈ DataType.knownCodes) ∧
    ∀ f, (now.statistics k).result = .error f ↔
      ∃ i, Record.FirstFault kstat.identity records count i f ∧ i ≤ records.length ∧
        f.code = if i < records.length then .unknownDataType else .readFailure := by
  intro now loaded count records
  obtain ⟨s, hs, rfl⟩ := exists_session?_of_handle? hopen
  have hstands := standsFor_of_kstat? hs hk rfl
  have hsound := ((WellFormed.start kernel).run requests).sound hs
  have hkernel : s.kernel = now.kernel := kernel_of_session? hs
  obtain rfl := kstat_of_kstat? hs hk
  have hresult : (now.statistics k).result = Record.statistics k (s.kstat k).identity records count := by
    rw [result_statistics hs hk rfl]
    rw [← hkernel] at hload
    have hanswer := Session.statistics_of_load hsound hstands (names_run kernel requests hs hstands htype)
      htype hload
    rwa [hkernel] at hanswer
  simp only [hresult]
  refine ⟨fun many => Record.statistics_eq_ok_iff, Record.exists_statistics_iff, fun f => ?_⟩
  rw [Record.statistics_eq_error_iff]
  refine exists_congr fun i => ⟨fun hfirst => ⟨hfirst, hfirst.code⟩, fun hfirst => hfirst.1⟩

/-- A record of an unknown type is what the list fails with, though the header counts behind the end. -/
theorem statistics_complete_despite_edits :
    let requests : List Request :=
      [.openToken (some .live), .lookup 0 ⟨[], Query.anyInstance, []⟩,
        .edit (.amend 0 { ndata := some 9 }), .edit (.retype 0 2 ⟨7⟩)]
    let now := run { kernel := { chain := Chain.sample } } requests
    ∃ f, (now.statistics 0).result = .error f ∧ f.code = .unknownDataType := by
  intro requests now
  obtain ⟨kstat, hk, hopen, htype, hrecord⟩ : ∃ kstat, now.kstat? 0 = some kstat ∧
      now.handle? kstat.token = some .live ∧ kstat.identity.type = .named ∧ kstat.record = .ofIndex 0 :=
    ⟨_, rfl, by decide, by decide, by decide⟩
  have hload : (Handle.live.load now.kernel kstat.record).2.2 = 0 := by
    rw [hrecord]
    decide
  obtain ⟨r, hr, hcode⟩ : ∃ r, (Handle.live.records now.kernel (.ofIndex 0))[2]? = some r ∧
      r.type.code ∉ DataType.knownCodes := ⟨_, rfl, by decide⟩
  obtain ⟨-, hcomplete, hfails⟩ := statistics_complete { chain := Chain.sample } requests hk hopen htype hload
  rw [hrecord] at hcomplete hfails
  cases hresult : (now.statistics 0).result with
  | ok many => exact absurd (hcomplete.1 ⟨many, hresult⟩).1 (by decide)
  | error f =>
    obtain ⟨i, hfirst, -, hf⟩ := (hfails f).1 hresult
    have hle : i ≤ 2 := Nat.le_of_not_lt fun hlt => hfirst.first 2 hlt _ (.unknown hr hcode)
    exact ⟨f, rfl, hf.trans (if_pos (Nat.lt_of_le_of_lt hle (by decide)))⟩

/-- Asked for all its statistics and then for one, or for one and then for all, an object does not contradict
itself. Of the name of the one, the handle compares what `key` leaves of it. -/
structure Agrees (key : Bytes → Bytes) (c : Client) (k : KStatId) : Prop where
  found : ∀ many, (c.statistics k).result = .ok many → ∀ name one,
    many.find? (fun one => one.name = key name) = some one →
    ((c.statistics k).client.statistic k name).result = .ok one
  absent : ∀ many, (c.statistics k).result = .ok many → ∀ name,
    many.find? (fun one => one.name = key name) = none →
    ∃ f, ((c.statistics k).client.statistic k name).result = .error f ∧
      f.code = .lookupFailure ∧ f.errno = .noEntry
  unknown : ∀ name f, (c.statistic k name).result = .error f → f.code = .unknownDataType →
    ∃ g, ((c.statistic k name).client.statistics k).result = .error g ∧ g.code = .unknownDataType

theorem agrees_of_tallies {c : Client} {s : Session} {k : KStatId} {kstat : KStat}
    (hk : c.kstat? k = some kstat) (hs : c.session? kstat.token = some s)
    (hloads : (s.prepare k).2 = .ok () → (s.prepare k).1.Loaded k)
    (htallies : (s.prepare k).2 = .ok () →
      ((s.prepare k).1.header k).ndata.toNat = ((s.prepare k).1.records k).length) :
    c.Agrees s.handle.key k := by
  have hstands := standsFor_of_kstat? hs hk rfl
  have hmany : c.statistics k =
      { client := c.settle kstat.token (s.statistics k).1
        result := (s.statistics k).2
        log := (s.statistics k).1.log } := by
    rw [statistics, onKStat_of_kstat? hk, onOpen_of_session? hs]
  have hone : ∀ name, c.statistic k name =
      { client := c.settle kstat.token (s.statistic k name).1
        result := (s.statistic k name).2
        log := (s.statistic k name).1.log } := by
    intro name
    rw [statistic, onKStat_of_kstat? hk, onOpen_of_session? hs]
  have hfirst : ∀ many, (c.statistics k).result = .ok many → ∀ name,
      ((c.statistics k).client.statistic k name).result =
        Statistic.first (s.kstat k).identity many (s.handle.key name) name := by
    intro many hok name
    rw [hmany] at hok ⊢
    rw [(result_settle hs hstands (Session.moves_statistics hstands)).1,
      Session.statistic_after_statistics hloads htallies hstands hok]
  refine ⟨fun many hok name one hfind => ?_, fun many hok name hfind => ?_, fun name f hf hcode => ?_⟩
  · rw [hfirst many hok, Statistic.first, hfind]
  · rw [hfirst many hok, Statistic.first, hfind]
    exact ⟨_, rfl, rfl, rfl⟩
  · rw [hone] at hf ⊢
    rw [(result_settle hs hstands (Session.moves_statistic hstands name)).2]
    exact Session.statistics_after_unknown hloads htallies hf hcode

/-- **One statistic agrees with all of them.** What an object of a library token answers for a name right after
a list is the first of that name in the list, names being compared as far as a name field goes, and there is
none if the list has none; and after a statistic of an unknown type there is no list. For a live token the
same holds with whole names, as long as the header counts the records that are there, and it counts them
after every read that went well. A header counts in 32 bits. -/
theorem one_agrees_with_all (kernel : Kernel) (requests : List Request) {k : KStatId} {kstat : KStat}
    {handle : Handle} (hk : (run { kernel } requests).kstat? k = some kstat)
    (hopen : (run { kernel } requests).handle? kstat.token = some handle) :
    let now := run { kernel } requests
    let loaded := handle.load now.kernel kstat.record
    (handle.facility = .library → (loaded.2.1.records loaded.1 kstat.record).length < UInt32.size →
      now.Agrees (Bytes.bounded nameSize) k) ∧
    (handle.facility = .live → loaded.2.1.Tallies loaded.1 kstat.record → now.Agrees id k) ∧
    (handle.facility = .live → ∀ id, (handle.read now.kernel id).2.2 = 0 →
      (now.kernel.chain.recordsOf id).length < UInt32.size →
      (handle.read now.kernel id).2.1.Tallies (handle.read now.kernel id).1 id) := by
  intro now loaded
  obtain ⟨s, hs, rfl⟩ := exists_session?_of_handle? hopen
  have hstands := standsFor_of_kstat? hs hk rfl
  have hsound := ((WellFormed.start kernel).run requests).sound hs
  have hkernel : s.kernel = now.kernel := kernel_of_session? hs
  have hprepared := fun hready =>
    Session.loaded_prepare hsound hstands (names_run kernel requests hs hstands) hready
  rw [hkernel] at hprepared
  refine ⟨fun hlibrary hfew => ?_, fun hlive htallies => ?_, fun hlive id hgood hfew => ?_⟩
  · rw [← Handle.key_of_library hlibrary]
    refine agrees_of_tallies hk hs (fun hready => (hprepared hready).1) fun hready => ?_
    obtain ⟨hloaded, hrecords, -⟩ := hprepared hready
    have hbacked := (backed_run kernel requests hs hlibrary).plays (Session.plays_prepare hstands)
    refine hbacked.tallies ((Session.moves_prepare hstands).advances.standsFor hstands) hloaded.data ?_
    rw [hrecords]
    exact hfew
  · rw [← Handle.key_of_live hlive]
    refine agrees_of_tallies hk hs (fun hready => (hprepared hready).1) fun hready => ?_
    obtain ⟨-, hrecords, hheader⟩ := hprepared hready
    rw [hrecords, hheader]
    exact htallies
  · exact Handle.tallies_of_read hsound.intact (fun hlibrary => nomatch hlive.symm.trans hlibrary) hgood hfew

/-- What stands behind a NUL in a name is looked at by a live token only. -/
theorem one_agrees_with_all_on_sample :
    let any : Query := ⟨[], Query.anyInstance, []⟩
    let requests : List Request :=
      [.openToken (some .library), .openToken (some .live), .lookup 0 any, .lookup 1 any]
    let now := run { kernel := { chain := Chain.sample } } requests
    let name := utf8 "idle" ++ [0, 1]
    (now.Agrees (Bytes.bounded nameSize) 0 ∧
      ((now.statistics 0).client.statistic 0 name).result.toOption.map Statistic.uint = some 4242) ∧
    (now.Agrees id 1 ∧ ((now.statistics 1).client.statistic 1 name).result.toOption = none) := by
  intro any requests now name
  obtain ⟨copied, copy, hcopied, hcopy, hlibrary, hfew⟩ : ∃ kstat handle, now.kstat? 0 = some kstat ∧
      now.handle? kstat.token = some handle ∧ handle.facility = .library ∧
      ((handle.load now.kernel kstat.record).2.1.records (handle.load now.kernel kstat.record).1
        kstat.record).length < UInt32.size := ⟨_, _, rfl, by rfl, by rfl, by decide⟩
  obtain ⟨shared, hshared, hlive, htallies⟩ : ∃ kstat, now.kstat? 1 = some kstat ∧
      now.handle? kstat.token = some .live ∧
      (Handle.live.load now.kernel kstat.record).2.1.Tallies (Handle.live.load now.kernel kstat.record).1
        kstat.record := ⟨_, rfl, by rfl, by unfold Handle.Tallies; decide⟩
  obtain ⟨hcopies, -, -⟩ := one_agrees_with_all { chain := Chain.sample } requests hcopied hcopy
  obtain ⟨-, hshares, -⟩ := one_agrees_with_all { chain := Chain.sample } requests hshared hlive
  exact ⟨⟨hcopies hlibrary hfew, by decide⟩, hshares rfl htallies, by decide⟩

end Client

end KernelStats
