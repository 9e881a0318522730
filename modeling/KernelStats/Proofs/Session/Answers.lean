import KernelStats.Proofs.Handle.Records
import KernelStats.Proofs.Session.Labels
import KernelStats.Proofs.Session.Readings

/-!
# Answers from a reading

What a library token hands out as the statistics of a kstat is computed from one reading: the first
record of the name that is asked for, or all records that the header counts, in their order. The
answers are defined here on readings alone, and the calls are shown to give just these. A header
counts in 32 bits, so it counts all records of a reading that has fewer than that.
-/

namespace KernelStats

namespace Reading

def counted (r : Reading) : List Record := r.records.take (UInt32.ofNat r.records.length).toNat

def statistic (r : Reading) (k : KStatId) (i : Identity) (name : Bytes) : Except Failure Statistic :=
  match r.records.find? fun record => Bytes.agree nameSize record.name.bytes name with
  | none => .error (.noStatistic name i)
  | some record => record.decode (some (k, i))

def statistics (r : Reading) (k : KStatId) (i : Identity) : Except Failure (List Statistic) :=
  r.counted.mapM (Record.decode (some (k, i)))

theorem length_counted (r : Reading) : r.counted.length = (UInt32.ofNat r.records.length).toNat := by
  have hle : (UInt32.ofNat r.records.length).toNat ≤ r.records.length := by
    rw [UInt32.toNat_ofNat']
    exact Nat.mod_le _ _
  exact List.length_take_of_le hle

theorem counted_eq {r : Reading} (hlength : r.records.length < UInt32.size) : r.counted = r.records := by
  unfold counted
  rw [UInt32.toNat_ofNat_of_lt' hlength, List.take_length]

theorem decode_of_statistic {r : Reading} {k : KStatId} {i : Identity} {name : Bytes} {s : Statistic}
    (h : r.statistic k i name = .ok s) : ∃ record ∈ r.records, record.decode (some (k, i)) = .ok s := by
  unfold statistic at h
  split at h
  · cases h
  · next record hfind => exact ⟨record, List.mem_of_find?_eq_some hfind, h⟩

theorem statistics_eq_ok_iff {r : Reading} {k : KStatId} {i : Identity} {many : List Statistic} :
    r.statistics k i = .ok many ↔
      List.Forall₂ (fun record s => record.decode (some (k, i)) = .ok s) r.counted many := by
  unfold statistics
  generalize r.counted = records
  induction records generalizing many with
  | nil => cases many <;> simp [pure, Except.pure]
  | cons record rest ih =>
    rw [List.mapM_cons]
    cases hfirst : record.decode (some (k, i)) with
    | error f => cases many <;> simp [bind, Except.bind, hfirst]
    | ok s =>
      cases hrest : rest.mapM (Record.decode (some (k, i))) with
      | error f => cases many <;> simp [bind, Except.bind, ← ih, hfirst, hrest]
      | ok others => cases many <;> simp [bind, Except.bind, pure, Except.pure, ← ih, hfirst, hrest]

theorem decode_of_statistics {r : Reading} {k : KStatId} {i : Identity} {many : List Statistic}
    (h : r.statistics k i = .ok many) {s : Statistic} (hs : s ∈ many) :
    ∃ record ∈ r.records, record.decode (some (k, i)) = .ok s := by
  have hmatched := statistics_eq_ok_iff.1 h
  obtain ⟨index, hindex⟩ := List.getElem?_of_mem hs
  rcases getElem?_of_forall₂ hmatched index with ⟨-, hnone⟩ | ⟨record, s', hrecord, hs', hdecode⟩
  · rw [hindex] at hnone
    cases hnone
  · rw [hindex] at hs'
    cases hs'
    exact ⟨record, List.mem_of_mem_take (List.mem_of_getElem? hrecord), hdecode⟩

end Reading

def Reply.values : Reply → List Statistic
  | .statistic (.ok one) => [one]
  | .statistics (.ok many) => many
  | _ => []

namespace Session

/-- A library session whose copy remembers the readings of the past, and whose labels are true. -/
structure Backed (s : Session) (past : List Moment) : Prop where
  sound : s.Sound
  library : s.handle.facility = .library
  remembers : s.Remembers past
  labelled : s.Labelled id

/-- A statistic means a record of the latest reading of the kstat that its object stands for. -/
def Explains (s : Session) (past : List Moment) (one : Statistic) : Prop :=
  ∃ k id reading record, one.parent = some k ∧ s.StandsFor k id ∧ latest past id = some reading ∧
    record ∈ reading.records ∧ record.decode (some (k, (s.kstat k).identity)) = .ok one

namespace Backed

variable {s : Session} {past : List Moment} {k : KStatId} {id : RecordId} {reading : Reading}

theorem act (h : s.Backed past) {a : Action} (ha : s.Admits a) : (s.act a).Backed (past ++ [⟨s, a⟩]) where
  sound := ha.move.sound h.sound
  library := (s.facility_act a).trans h.library
  remembers := h.remembers.act h.sound a
  labelled := h.labelled.act ha

theorem plays {s' : Session} {actions : List Action} (h : s.Backed past) (hplays : s.Plays actions s') :
    s'.Backed (past ++ s.moments actions) :=
  hplays.induction Backed h.sound (fun _ _ _ _ ha hm => hm.act ha) h

theorem item (h : s.Backed past) (hk : s.StandsFor k id) :
    ∃ control item, s.handle = .library (some control) ∧ control.item? id = some item ∧
      item.Holds (latest past id) ∧ item.header.toIdentity = (s.kstat k).identity := by
  obtain ⟨i, hi, hlabel⟩ := h.labelled k id hk
  obtain ⟨control, hhandle⟩ := exists_control h.sound h.library
  rw [identity?, hhandle, Handle.identity?, Handle.identities, RecordId.map_get?] at hi
  obtain ⟨item, hitem, rfl⟩ := Option.map_eq_some_iff.1 hi
  exact ⟨control, item, hhandle, hitem, h.remembers control hhandle id item hitem, hlabel.symm⟩

/-- A kstat has data if and only if it was read. -/
theorem hasData_eq (h : s.Backed past) (hk : s.StandsFor k id) :
    (s.header k).hasData = (latest past id).isSome := by
  obtain ⟨control, item, hhandle, hitem, hholds, -⟩ := h.item hk
  unfold header
  rw [hhandle, hk.record]
  simp only [Handle.header, hitem, Option.map_some, Option.getD_some, Control.Item.header, hholds.data,
    Option.isSome_map]

theorem ndata_eq (h : s.Backed past) (hk : s.StandsFor k id) (hlast : latest past id = some reading) :
    (s.header k).ndata.toNat = reading.counted.length := by
  obtain ⟨control, item, hhandle, hitem, hholds, -⟩ := h.item hk
  unfold header
  rw [hhandle, hk.record, Reading.length_counted, ← hholds.ndata reading hlast]
  simp only [Handle.header, hitem, Option.map_some, Option.getD_some, Control.Item.header]

theorem records_eq (h : s.Backed past) (hk : s.StandsFor k id) (hlast : latest past id = some reading) :
    s.handle.records s.kernel id = reading.records := by
  obtain ⟨control, item, hhandle, hitem, hholds, -⟩ := h.item hk
  rw [hhandle]
  simp only [Handle.records, hitem, Option.bind_some, hholds.data, hlast, Option.map_some, Option.getD_some]

theorem names (h : s.Backed past) (hk : s.StandsFor k id) (htype : (s.kstat k).identity.type = .named) :
    s.handle.Names s.kernel id := by
  intro _
  obtain ⟨i, hi, hlabel⟩ := h.labelled k id hk
  obtain rfl : (s.kstat k).identity = i := hlabel
  exact ⟨_, hi, htype⟩

theorem record?_eq (h : s.Backed past) (hk : s.StandsFor k id) (hlast : latest past id = some reading)
    (htype : (s.kstat k).identity.type = .named) (name : Bytes) :
    (s.handle.record? s.kernel (s.kstat k).record name).2 =
      reading.records.find? fun record => Bytes.agree nameSize record.name.bytes name := by
  rw [hk.record, Handle.record?_eq (h.names hk htype), h.records_eq hk hlast, Handle.key_of_library h.library]
  exact congrArg reading.records.find? (funext fun record => (record.name.agree_bytes name).symm)

theorem recordAt?_eq (h : s.Backed past) (hk : s.StandsFor k id) (hlast : latest past id = some reading)
    (htype : (s.kstat k).identity.type = .named) {index : Nat} {record : Record}
    (hrecord : reading.counted[index]? = some record) :
    s.handle.recordAt? s.kernel (s.kstat k).record index = some record := by
  have hlt : index < reading.counted.length := (List.getElem?_eq_some_iff.1 hrecord).1
  have hcounted : index < (s.handle.header s.kernel id).ndata.toNat := by
    rwa [← h.ndata_eq hk hlast, header, hk.record] at hlt
  rw [reading.length_counted] at hlt
  rw [hk.record, Handle.recordAt?_eq (h.names hk htype) hcounted, h.records_eq hk hlast, ← hrecord,
    Reading.counted, List.getElem?_take_of_lt hlt]

theorem prepare_of_latest (h : s.Backed past) (hk : s.StandsFor k id) (hlast : latest past id = some reading)
    (htype : (s.kstat k).identity.type = .named) : s.prepare k = (s, .ok ()) := by
  apply prepare_of_data htype
  rw [h.hasData_eq hk, hlast]
  rfl

/-- An object is only ready when its kstat was read. -/
theorem latest_of_prepare (h : s.Backed past) (hk : s.StandsFor k id) (hready : (s.prepare k).2 = .ok ()) :
    ∃ reading, latest (past ++ s.moments (s.prepareScript k)) id = some reading := by
  have hafter := h.plays (plays_prepare hk)
  apply Option.isSome_iff_exists.1
  rw [← hafter.hasData_eq ((moves_prepare hk).advances.standsFor hk)]
  have htype := named_of_prepare hk hready
  rw [(moves_prepare hk).advances.identity hk] at htype
  cases hdata : (s.header k).hasData with
  | true => rw [prepare_of_data htype hdata, hdata]
  | false =>
    -- the read went well, so it brought data
    have hread := prepare_of_no_data htype hdata
    have hplays : s.Plays [.refresh k] (s.prepare k).1 := by
      rw [hread]
      exact .single (a := .refresh k) ⟨id, hk⟩
    have hgood : s.readErrno k = 0 := by
      by_contra hbad
      rw [hread, refresh_eq, if_neg hbad] at hready
      cases hready
    rw [(h.plays hplays).hasData_eq ((moves_prepare hk).advances.standsFor hk)]
    have hreading := Moment.reading?_refresh hgood
    rw [moments, moments, latest_concat_of_reading hreading, if_pos hk.record]
    rfl

/-! ### What the calls answer -/

/-- Once a kstat was read, its latest reading alone decides what a statistic of it is. -/
theorem statistic_of_latest (h : s.Backed past) (hk : s.StandsFor k id)
    (hlast : latest past id = some reading) (htype : (s.kstat k).identity.type = .named) (name : Bytes) :
    (s.statistic k name).2 = reading.statistic k (s.kstat k).identity name := by
  have hready := h.prepare_of_latest hk hlast htype
  rw [statistic_of_ok (by rw [hready]), hready]
  simp only [result_answer, h.record?_eq hk hlast htype]
  rfl

theorem statistics_of_latest (h : s.Backed past) (hk : s.StandsFor k id)
    (hlast : latest past id = some reading) (htype : (s.kstat k).identity.type = .named) :
    (s.statistics k).2 = reading.statistics k (s.kstat k).identity := by
  have hready := h.prepare_of_latest hk hlast htype
  rw [statistics_of_ok (by rw [hready]), hready]
  simp only [result_answer, h.ndata_eq hk hlast]
  apply collect_eq_mapM
  intro i record hrecord
  rw [Nat.zero_add, statisticAt, h.recordAt?_eq hk hlast htype hrecord]
  rfl

/-- An object that is ready was read before, and asking again would change nothing. -/
theorem ready (h : s.Backed past) (hk : s.StandsFor k id) (hready : (s.prepare k).2 = .ok ()) :
    ∃ reading, latest (past ++ s.moments (s.prepareScript k)) id = some reading ∧
      (s.prepare k).1.Backed (past ++ s.moments (s.prepareScript k)) ∧
      (s.prepare k).1.prepare k = ((s.prepare k).1, .ok ()) := by
  obtain ⟨reading, hlast⟩ := h.latest_of_prepare hk hready
  have hafter := h.plays (plays_prepare hk)
  have hk' := (moves_prepare hk).advances.standsFor hk
  exact ⟨reading, hlast, hafter, hafter.prepare_of_latest hk' hlast (named_of_prepare hk hready)⟩

theorem statistic_ok (h : s.Backed past) (hk : s.StandsFor k id) {name : Bytes} {one : Statistic}
    (hok : (s.statistic k name).2 = .ok one) :
    ∃ reading, latest (past ++ s.moments (s.statisticScript k name)) id = some reading ∧
      reading.statistic k (s.kstat k).identity name = .ok one := by
  cases hready : (s.prepare k).2 with
  | error f =>
    rw [statistic_of_error hready] at hok
    cases hok
  | ok _ =>
    obtain ⟨reading, hlast, hafter, hagain⟩ := h.ready hk hready
    have hk' := (moves_prepare hk).advances.standsFor hk
    refine ⟨reading, ?_, ?_⟩
    · rw [statisticScript, hready, (plays_prepare hk).latest_append rfl, hlast]
    · rw [← (moves_prepare hk).advances.identity hk,
        ← hafter.statistic_of_latest hk' hlast (named_of_prepare hk hready) name, ← hok,
        statistic_of_ok hready, statistic_of_ok (by rw [hagain]), hagain]

theorem statistics_ok (h : s.Backed past) (hk : s.StandsFor k id) {many : List Statistic}
    (hok : (s.statistics k).2 = .ok many) :
    ∃ reading, latest (past ++ s.moments (s.statisticsScript k)) id = some reading ∧
      reading.statistics k (s.kstat k).identity = .ok many := by
  cases hready : (s.prepare k).2 with
  | error f =>
    rw [statistics_of_error hready] at hok
    cases hok
  | ok _ =>
    obtain ⟨reading, hlast, hafter, hagain⟩ := h.ready hk hready
    have hk' := (moves_prepare hk).advances.standsFor hk
    refine ⟨reading, ?_, ?_⟩
    · rw [statisticsScript, hready, (plays_prepare hk).latest_append rfl, hlast]
    · rw [← (moves_prepare hk).advances.identity hk,
        ← hafter.statistics_of_latest hk' hlast (named_of_prepare hk hready), ← hok,
        statistics_of_ok hready, statistics_of_ok (by rw [hagain]), hagain]

theorem explains_statistic (h : s.Backed past) (hk : s.StandsFor k id) {name : Bytes} {one : Statistic}
    (hok : (s.statistic k name).2 = .ok one) :
    (s.statistic k name).1.Explains (past ++ s.moments (s.statisticScript k name)) one := by
  obtain ⟨reading, hlast, hfound⟩ := h.statistic_ok hk hok
  obtain ⟨record, hrecord, hdecode⟩ := Reading.decode_of_statistic hfound
  have hadvances := (moves_statistic hk name).advances
  rw [← hadvances.identity hk] at hdecode
  exact ⟨k, id, reading, record, parent_statistic hok, hadvances.standsFor hk, hlast, hrecord, hdecode⟩

theorem explains_statistics (h : s.Backed past) (hk : s.StandsFor k id) {many : List Statistic}
    (hok : (s.statistics k).2 = .ok many) {one : Statistic} (hone : one ∈ many) :
    (s.statistics k).1.Explains (past ++ s.moments (s.statisticsScript k)) one := by
  obtain ⟨reading, hlast, hfound⟩ := h.statistics_ok hk hok
  obtain ⟨record, hrecord, hdecode⟩ := Reading.decode_of_statistics hfound hone
  have hadvances := (moves_statistics hk).advances
  rw [← hadvances.identity hk] at hdecode
  exact ⟨k, id, reading, record, parent_statistics hok hone, hadvances.standsFor hk, hlast, hrecord, hdecode⟩

theorem explains_lookupStatistic (h : s.Backed past) {q : Query} {name : Bytes} {one : Statistic}
    (hok : (s.lookupStatistic q name).2 = .ok one) :
    (s.lookupStatistic q name).1.Explains (past ++ s.moments (s.lookupStatisticScript q name)) one := by
  cases hfound : (s.lookup q).2 with
  | error f =>
    rw [lookupStatistic_of_error hfound] at hok
    cases hok
  | ok k =>
    -- the lookup is a call of its own, and the statistic is asked of what it leads to
    have hplays := plays_lookup h.sound q
    obtain ⟨id, -, hk⟩ := standsFor_lookup h.sound hfound
    rw [lookupStatistic_of_ok hfound] at hok ⊢
    rw [lookupStatisticScript, hfound, hplays.moments_append, ← List.append_assoc]
    exact (h.plays hplays).explains_statistic hk hok

/-- Whatever a call hands out is explained by the latest reading of its kstat. -/
theorem explains_serve (h : s.Backed past) {r : Request}
    (hr : ∀ k, r.object? = some k → ∃ id, s.StandsFor k id) {one : Statistic}
    (hone : one ∈ (s.serve r).2.values) :
    (s.serve r).1.Explains (past ++ s.moments (s.script r)) one := by
  cases r with
  | statistic k name =>
    obtain ⟨id, hk⟩ := hr k rfl
    cases hok : (s.statistic k name).2 with
    | error f => simp [serve, hok, Reply.values] at hone
    | ok found =>
      obtain rfl : one = found := by simpa [serve, hok, Reply.values] using hone
      exact h.explains_statistic hk hok
  | statistics k =>
    obtain ⟨id, hk⟩ := hr k rfl
    cases hok : (s.statistics k).2 with
    | error f => simp [serve, hok, Reply.values] at hone
    | ok found =>
      have hmem : one ∈ found := by simpa [serve, hok, Reply.values] using hone
      exact h.explains_statistics hk hok hmem
  | lookupStatistic t q name =>
    cases hok : (s.lookupStatistic q name).2 with
    | error f => simp [serve, hok, Reply.values] at hone
    | ok found =>
      obtain rfl : one = found := by simpa [serve, hok, Reply.values] using hone
      exact h.explains_lookupStatistic hok
  | _ => cases hone

end Backed

end Session

end KernelStats
