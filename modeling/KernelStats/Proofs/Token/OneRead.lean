import KernelStats.Chain.Sample
import KernelStats.Proofs.Session.Answers

/-!
# Values come from one read

What a token of the system library hands out as statistics is what its latest reading of the kstat
brought, and nothing else: no list mixes two readings, and nothing that happens between two readings
shows. The history of a token is the list of its `moments`, and a call adds those that it goes through
itself, so a read that is made inside a call counts as the latest one.
-/

namespace KernelStats

namespace Client

def facility? (c : Client) (t : TokenId) : Option Facility :=
  (c.tokens[t]?.bind Token.handle).map Handle.facility

section

variable {c c' : Client} {t : TokenId} {s : Session} {r : Request} {who : Option TokenId}

theorem facility?_eq_some_iff {f : Facility} :
    c.facility? t = some f ↔ ∃ s, c.session? t = some s ∧ s.handle.facility = f := by
  unfold facility?
  constructor
  · intro hf
    obtain ⟨handle, hhandle, rfl⟩ := Option.map_eq_some_iff.1 hf
    obtain ⟨token, htoken, hopen⟩ := Option.bind_eq_some_iff.1 hhandle
    exact ⟨_, session?_eq_some_iff.2 ⟨token, handle, htoken, hopen, rfl⟩, rfl⟩
  · rintro ⟨s, hs, rfl⟩
    obtain ⟨token, handle, htoken, hopen, rfl⟩ := session?_eq_some_iff.1 hs
    rw [htoken, Option.bind_some, hopen, Option.map_some]

theorem kstat_of_kstat? (hs : c.session? t = some s) {k : KStatId} {kstat : KStat}
    (hk : c.kstat? k = some kstat) : s.kstat k = kstat := by
  have hk : s.kstats[k]? = some kstat := (kstats_of_session? hs).symm ▸ hk
  simp [Session.kstat, List.getD, hk]

/-! ### One request -/

/-- The copy of a library token remembers the readings of the token, after every run. -/
theorem backed_run (kernel : Kernel) (requests : List Request)
    (hs : (run { kernel } requests).session? t = some s) (hlibrary : s.handle.facility = .library) :
    s.Backed (gather (moments t) { kernel } requests) := by
  have hsound := ((WellFormed.start kernel).run requests).sound hs
  suffices hties : s.Remembers (gather (moments t) { kernel } requests) ∧ s.Labelled id from
    ⟨hsound, hlibrary, hties.1, hties.2⟩
  revert hlibrary
  refine session_induction (P := fun _ _ => True)
    (fun s past => s.handle.facility = .library → s.Remembers past ∧ s.Labelled id)
    ?_ ?_ ?_ (fun _ _ hties => hties) kernel (along_of_forall_mem (P := fun _ => True) fun _ _ => trivial) hs
  · intro c f handle hc _ hhandle ht hfacility
    refine ⟨?_, Session.labelled_of_unused fun kstat hkstat => ?_⟩
    · rcases Facility.handle_openHandle hhandle with ⟨-, hlive⟩ | ⟨-, hcopy⟩
      · exact Session.remembers_of_live hlive []
      · exact Session.remembers_of_ofChain hcopy
    · exact Nat.ne_of_lt (ht ▸ hc.owned kstat hkstat)
  · intro c r s s' past hc _ hmeanwhile _ _ hties hfacility
    rw [hmeanwhile.handle] at hfacility
    obtain ⟨hremembers, hlabelled⟩ := hties hfacility
    refine ⟨fun control hcontrol => hremembers control (hmeanwhile.handle ▸ hcontrol), ?_⟩
    refine hlabelled.meanwhile hmeanwhile fun id i hi => ⟨i, ?_, rfl⟩
    rw [hmeanwhile.identity?_library hfacility, hi]
  · intro c r m past hc _ _ hsound hadmits hties hfacility
    rw [Session.facility_act] at hfacility
    obtain ⟨hremembers, hlabelled⟩ := hties hfacility
    exact ⟨hremembers.act hsound m.action, hlabelled.act hadmits⟩

theorem served_of_values (hc : c.WellFormed) (hs : c.session? t = some s) (hr : c.addressee r = some t)
    {one : Statistic} (hone : one ∈ (c.perform r).result.values) : c.perform r = c.served t s r := by
  have hnone : ∀ (u : TokenId) (answer : Outcome Reply), answer.result.values = [] →
      (c.withToken u answer).result.values = [] := by
    intro u answer hnothing
    exact withToken_ind (fun o => o.result.values = []) hnothing rfl
  refine perform_of_session? hc hs hr ?_ ?_
  · rintro rfl
    rw [perform, hnone t _ rfl] at hone
    cases hone
  · rintro rfl
    rw [perform, hnone t _ rfl] at hone
    cases hone

theorem explains_perform (hc : c.WellFormed) (hs : c.session? t = some s) {past : List Moment}
    (hbacked : s.Backed past) (hr : c.addressee r = some t) {one : Statistic}
    (hone : one ∈ (c.perform r).result.values) :
    (c.perform r).client.kstats = (s.serve r).1.kstats ∧
      (s.serve r).1.Explains (past ++ c.moments t r) one := by
  have hserved := served_of_values hc hs hr hone
  rw [hserved] at hone ⊢
  rw [moments_of_session? hs hr]
  exact ⟨rfl, hbacked.explains_serve (fun k hk => standsFor_of_addressee hs hr hk) hone⟩

theorem result_statistic (hs : c.session? t = some s) {k : KStatId} {kstat : KStat}
    (hk : c.kstat? k = some kstat) (htoken : kstat.token = t) (name : Bytes) :
    (c.statistic k name).result = (s.statistic k name).2 := by
  rw [statistic, onKStat_of_kstat? hk, htoken, onOpen_of_session? hs]

theorem result_statistics (hs : c.session? t = some s) {k : KStatId} {kstat : KStat}
    (hk : c.kstat? k = some kstat) (htoken : kstat.token = t) :
    (c.statistics k).result = (s.statistics k).2 := by
  rw [statistics, onKStat_of_kstat? hk, htoken, onOpen_of_session? hs]

theorem answers_of_latest (kernel : Kernel) (requests : List Request)
    (hlibrary : (run { kernel } requests).facility? t = some .library) {k : KStatId} {kstat : KStat}
    (hk : (run { kernel } requests).kstat? k = some kstat) (htoken : kstat.token = t)
    (htype : kstat.identity.type = .named) {reading : Reading}
    (hlast : latest (gather (moments t) { kernel } requests) kstat.record = some reading) :
    (∀ name, ((run { kernel } requests).statistic k name).result = reading.statistic k kstat.identity name) ∧
      ((run { kernel } requests).statistics k).result = reading.statistics k kstat.identity := by
  obtain ⟨s, hs, hfacility⟩ := facility?_eq_some_iff.1 hlibrary
  have hbacked := backed_run kernel requests hs hfacility
  have hstands := standsFor_of_kstat? hs hk htoken
  obtain rfl := kstat_of_kstat? hs hk
  constructor
  · intro name
    rw [result_statistic hs hk htoken, hbacked.statistic_of_latest hstands hlast htype]
  · rw [result_statistics hs hk htoken, hbacked.statistics_of_latest hstands hlast htype]

end

/-- **Values come from one read.** Every statistic that a library token hands out means a record that
the chain had for the kstat at the latest read that went well, and a list means all records of that one
read, in order. As long as the token does not read its kstat again with success, an object that was read once
gives the same answers, whatever is done to the chain, by other tokens, or in vain. -/
theorem values_of_one_read (kernel : Kernel) (requests : List Request) (t : TokenId)
    (hlibrary : (run { kernel } requests).facility? t = some .library) :
    let now := run { kernel } requests
    let past := gather (moments t) { kernel } requests
    (∀ r, now.addressee r = some t → ∀ one ∈ (now.perform r).result.values,
      ∃ k kstat reading record, one.parent = some k ∧
        (now.perform r).client.kstat? k = some kstat ∧ kstat.token = t ∧
        latest (past ++ now.moments t r) kstat.record = some reading ∧
        record ∈ reading.records ∧ record.decode (some (k, kstat.identity)) = .ok one) ∧
    (∀ k kstat many, now.kstat? k = some kstat → kstat.token = t → (now.statistics k).result = .ok many →
      ∃ reading, latest (past ++ now.moments t (.statistics k)) kstat.record = some reading ∧
        List.Forall₂ (fun record one => record.decode (some (k, kstat.identity)) = .ok one)
          reading.counted many ∧
        (reading.records.length < UInt32.size → reading.counted = reading.records)) ∧
    (∀ k kstat reading later, now.kstat? k = some kstat → kstat.token = t →
      kstat.identity.type = .named → latest past kstat.record = some reading →
      (now.run later).facility? t = some .library →
      (∀ other ∈ readings (now.gather (moments t) later), other.record ≠ kstat.record) →
      (∀ name, ((now.run later).statistic k name).result = reading.statistic k kstat.identity name) ∧
      ((now.run later).statistics k).result = reading.statistics k kstat.identity) := by
  intro now past
  have hnow : now.WellFormed := (WellFormed.start kernel).run requests
  obtain ⟨s, hs, hfacility⟩ := facility?_eq_some_iff.1 hlibrary
  have hbacked : s.Backed past := backed_run kernel requests hs hfacility
  refine ⟨fun r hr one hone => ?_, fun k kstat many hk htoken hmany => ?_,
    fun k kstat reading later hk htoken htype hlast hlater hunread => ?_⟩
  · obtain ⟨hkstats, k, id, reading, record, hparent, hstands, hlast, hrecord, hdecode⟩ :=
      explains_perform hnow hs hbacked hr hone
    have hkept := hstands.getElem?
    rw [← hkstats] at hkept
    have hmoves := Session.moves_serve (hnow.sound hs) fun k hk => standsFor_of_addressee hs hr hk
    have hserved : (s.serve r).1.token = t := hmoves.advances.token.trans (token_of_session? hs)
    refine ⟨k, _, reading, record, hparent, hkept, ?_, ?_, hrecord, hdecode⟩
    · exact (Session.StandsFor.token hstands).trans hserved
    · rw [Session.StandsFor.record hstands, hlast]
  · have hstands := standsFor_of_kstat? hs hk htoken
    have hr : now.addressee (.statistics k) = some t := by
      rw [addressee, hk, Option.map_some, htoken]
    rw [result_statistics hs hk htoken] at hmany
    obtain ⟨reading, hlast, hanswer⟩ := hbacked.statistics_ok hstands hmany
    rw [moments_of_session? hs hr]
    rw [kstat_of_kstat? hs hk] at hanswer
    exact ⟨reading, hlast, Reading.statistics_eq_ok_iff.1 hanswer, Reading.counted_eq⟩
  · obtain ⟨after, hafter, hbecomes⟩ := becomes_run hnow later hk
    have hrun : now.run later = run { kernel } (requests ++ later) := (run_append _ requests later).symm
    have hkept : latest (gather (moments t) { kernel } (requests ++ later)) after.record = some reading := by
      rw [gather_append, hbecomes.record, latest_append_of_unread hunread, hlast]
    rw [hrun] at hafter hlater ⊢
    rw [← hbecomes.identity] at htype ⊢
    exact answers_of_latest kernel (requests ++ later) hlater hafter (hbecomes.token.trans htoken) htype hkept

/-- Neither a record that is gone nor a read that fails nor the read of another kstat shows in what was
read before. -/
theorem values_of_one_read_despite_edits :
    let requests : List Request := [.openToken (some .library), .lookup 0 ⟨[], Query.anyInstance, []⟩]
    let now := run { kernel := { chain := Chain.sample } } requests
    let later : List Request :=
      [.edit (.popRecord 0), .edit (.amend 0 { readErrno := some 5 }), .refresh 0,
        .lookup 0 ⟨utf8 "link", Query.anyInstance, []⟩]
    now.facility? 0 = some .library ∧
      (readings (now.gather (moments 0) later)).map Reading.record = [.ofIndex 3] ∧
      ((now.run later).statistics 0).result = (now.statistics 0).result := by
  intro requests now later
  have hlibrary : now.facility? 0 = some .library := by decide
  obtain ⟨kstat, hk, htoken, hrecord, htype⟩ : ∃ kstat, now.kstat? 0 = some kstat ∧ kstat.token = 0 ∧
      kstat.record = .ofIndex 0 ∧ kstat.identity.type = .named := ⟨_, rfl, by decide, by decide, by decide⟩
  obtain ⟨reading, hlast⟩ : ∃ reading, latest (gather (moments 0) { kernel := { chain := Chain.sample } }
      requests) kstat.record = some reading := by
    rw [hrecord]
    exact Option.isSome_iff_exists.1 (by decide)
  have hreadings : (readings (now.gather (moments 0) later)).map Reading.record = [.ofIndex 3] := by decide
  have hunread : ∀ other ∈ readings (now.gather (moments 0) later), other.record ≠ kstat.record := by
    intro other hother
    have hlink : other.record ∈ [RecordId.ofIndex 3] := hreadings ▸ List.mem_map_of_mem hother
    rw [List.mem_singleton.1 hlink, hrecord]
    decide
  obtain ⟨-, -, hanswers⟩ := values_of_one_read { chain := Chain.sample } requests 0 hlibrary
  have hbefore := hanswers 0 kstat reading [] hk htoken htype hlast hlibrary fun _ hother => (nomatch hother)
  have hafter := hanswers 0 kstat reading later hk htoken htype hlast (by decide) hunread
  exact ⟨hlibrary, hreadings, hafter.2.trans hbefore.2.symm⟩

end Client

end KernelStats
