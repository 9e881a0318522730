import KernelStats.Proofs.Lists
import KernelStats.Proofs.Record.Layout
import KernelStats.Proofs.Session.Collect

/-!
# Statistics from a list of records

A handle that has a list of records for a kstat gives one statistic as the first record of the name, and all
of them as the records by position, as far as the header counts. A list of statistics is complete, or the
first position at which something is wrong decides how it fails.
-/

namespace KernelStats

def Statistic.first (i : Identity) (many : List Statistic) (key name : Bytes) : Except Failure Statistic :=
  match many.find? fun one => one.name = key with
  | none => .error (.noStatistic name i)
  | some one => .ok one

namespace Record

variable {k : KStatId} {i : Identity} {records : List Record} {count index : Nat} {f : Failure}

/-- The statistic that a list of records has under a name, of which `key` is compared. -/
def statistic (k : KStatId) (i : Identity) (records : List Record) (key name : Bytes) :
    Except Failure Statistic :=
  match records.find? fun r => r.name.text = key with
  | none => .error (.noStatistic name i)
  | some r => r.decode (some (k, i))

def statisticAt (k : KStatId) (i : Identity) (records : List Record) (count index : Nat) :
    Except Failure Statistic :=
  match records[index]? with
  | none => .error (.missing index count i)
  | some r => r.decode (some (k, i))

/-- What may be wrong at a position of a list of records: it is behind the end of the list, or the data type
of the record there is unknown. -/
inductive Fault (i : Identity) (records : List Record) (count : Nat) : Nat → Failure → Prop where
  | missing {index : Nat} (hindex : records.length ≤ index) :
    Fault i records count index (.missing index count i)
  | unknown {index : Nat} {r : Record} (hr : records[index]? = some r)
      (hcode : r.type.code ∉ DataType.knownCodes) :
    Fault i records count index (.unknownDataType (Statistic.label (some i) r.name.text) r.type)

theorem statisticAt_eq_error_iff : statisticAt k i records count index = .error f ↔ Fault i records count index f := by
  unfold statisticAt
  constructor
  · intro hwrong
    cases hr : records[index]? with
    | none =>
      rw [hr] at hwrong
      cases hwrong
      exact .missing (List.getElem?_eq_none_iff.1 hr)
    | some r =>
      rw [hr] at hwrong
      obtain ⟨hcode, rfl⟩ := decode_eq_error_iff.1 hwrong
      exact .unknown hr hcode
  · intro hfault
    cases hfault with
    | missing hindex => rw [List.getElem?_eq_none hindex]
    | unknown hr hcode =>
      rw [hr]
      exact decode_eq_error_iff.2 ⟨hcode, rfl⟩

theorem statisticAt_eq_ok_iff {one : Statistic} : statisticAt k i records count index = .ok one ↔
    ∃ r, records[index]? = some r ∧ r.decode (some (k, i)) = .ok one := by
  unfold statisticAt
  cases records[index]? with
  | none => simp
  | some r => simp

/-- The statistics of a list of records that is said to have `count` of them. -/
def statistics (k : KStatId) (i : Identity) (records : List Record) (count : Nat) :
    Except Failure (List Statistic) :=
  Session.collect (statisticAt k i records count) count 0

theorem statistics_eq_ok_iff {many : List Statistic} :
    statistics k i records count = .ok many ↔ many.length = count ∧
      ∀ index < count, ∃ r one, records[index]? = some r ∧ many[index]? = some one ∧
        r.decode (some (k, i)) = .ok one := by
  simp only [statistics, Session.collect_eq_ok_iff, Nat.zero_add, statisticAt_eq_ok_iff]
  refine and_congr_right fun _ => forall₂_congr fun index _ => ?_
  constructor
  · rintro ⟨one, ⟨r, hr, hdecode⟩, hone⟩
    exact ⟨r, one, hr, hone, hdecode⟩
  · rintro ⟨r, one, hr, hone, hdecode⟩
    exact ⟨one, ⟨r, hr, hdecode⟩, hone⟩

/-- The first position at which something is wrong. -/
structure FirstFault (i : Identity) (records : List Record) (count index : Nat) (f : Failure) : Prop where
  counted : index < count
  fault : Fault i records count index f
  first : ∀ earlier < index, ∀ g, ¬Fault i records count earlier g

theorem statistics_eq_error_iff :
    statistics k i records count = .error f ↔ ∃ index, FirstFault i records count index f := by
  simp only [statistics, Session.collect_eq_error_iff, Nat.zero_add, statisticAt_eq_error_iff]
  refine exists_congr fun index => ?_
  have hgood : ∀ earlier, (∃ a, statisticAt k i records count earlier = .ok a) ↔
      ∀ g, ¬Fault i records count earlier g := by
    intro earlier
    simp only [← statisticAt_eq_error_iff (k := k)]
    cases statisticAt k i records count earlier with
    | ok a => simp
    | error g => simp
  simp only [hgood]
  constructor
  · rintro ⟨hcounted, hfault, hfirst⟩
    exact ⟨hcounted, hfault, hfirst⟩
  · rintro ⟨hcounted, hfault, hfirst⟩
    exact ⟨hcounted, hfault, hfirst⟩

/-- The records end before the first fault or there, and this alone decides what kind of failure it is. -/
theorem FirstFault.code (h : FirstFault i records count index f) :
    index ≤ records.length ∧ f.code = if index < records.length then .unknownDataType else .readFailure := by
  obtain ⟨-, hfault, hfirst⟩ := h
  cases hfault with
  | missing hindex =>
    refine ⟨Nat.le_of_not_lt fun hlt => ?_, (if_neg (Nat.not_lt.2 hindex)).symm⟩
    exact hfirst records.length hlt _ (.missing (Nat.le_refl _))
  | unknown hr _ =>
    have hlt := (List.getElem?_eq_some_iff.1 hr).1
    exact ⟨Nat.le_of_lt hlt, (if_pos hlt).symm⟩

theorem exists_statistics_iff : (∃ many, statistics k i records count = .ok many) ↔
    count ≤ records.length ∧ ∀ r ∈ records.take count, r.type.code ∈ DataType.knownCodes := by
  constructor
  · rintro ⟨many, hmany⟩
    obtain ⟨-, hall⟩ := statistics_eq_ok_iff.1 hmany
    refine ⟨Nat.le_of_not_lt fun hlt => ?_, fun r hr => ?_⟩
    · obtain ⟨r, -, hr, -⟩ := hall records.length hlt
      rw [List.getElem?_eq_none (Nat.le_refl _)] at hr
      cases hr
    · obtain ⟨index, hindex⟩ := List.getElem?_of_mem hr
      have hlt : index < count := by
        have hlt := (List.getElem?_eq_some_iff.1 hindex).1
        rw [List.length_take] at hlt
        omega
      rw [List.getElem?_take_of_lt hlt] at hindex
      obtain ⟨r', one, hr', -, hdecode⟩ := hall index hlt
      cases hindex.symm.trans hr'
      by_contra hcode
      cases hdecode.symm.trans (decode_eq_error_iff.2 ⟨hcode, rfl⟩)
  · rintro ⟨hcount, hknown⟩
    cases hmany : statistics k i records count with
    | ok many => exact ⟨many, rfl⟩
    | error f =>
      obtain ⟨index, hcounted, hfault, -⟩ := statistics_eq_error_iff.1 hmany
      cases hfault with
      | missing hindex => exact absurd (Nat.lt_of_lt_of_le hcounted hcount) (Nat.not_lt.2 hindex)
      | unknown hr hcode =>
        rw [← List.getElem?_take_of_lt hcounted] at hr
        exact absurd (hknown _ (List.mem_of_getElem? hr)) hcode

/-! ### One statistic and all of them -/

/-- What a list of statistics has under a name is what the records have under it. -/
theorem statistic_of_statistics {many : List Statistic} (hmany : statistics k i records records.length = .ok many)
    (key name : Bytes) : statistic k i records key name = Statistic.first i many key name := by
  have hmatched : List.Forall₂ (fun r one => r.decode (some (k, i)) = .ok one) records many := by
    obtain ⟨hlength, hall⟩ := statistics_eq_ok_iff.1 hmany
    refine List.forall₂_iff_get.2 ⟨hlength.symm, fun index hr hone => ?_⟩
    obtain ⟨r, one, hr', hone', hdecode⟩ := hall index hr
    obtain ⟨_, rfl⟩ := List.getElem?_eq_some_iff.1 hr'
    obtain ⟨_, rfl⟩ := List.getElem?_eq_some_iff.1 hone'
    exact hdecode
  have hnames : ∀ (r : Record) one, r.decode (some (k, i)) = .ok one →
      decide (r.name.text = key) = decide (one.name = key) := by
    intro r one hdecode
    obtain ⟨value, -, rfl⟩ := decode_eq_ok_iff.1 hdecode
    rw [(Statistic.eq_ofValue_iff.1 rfl).1]
  unfold statistic Statistic.first
  rcases find?_of_forall₂ hmatched hnames with ⟨hr, hone⟩ | ⟨r, one, hr, hone, hdecode⟩
  · rw [hr, hone]
  · rw [hr, hone]
    exact hdecode

theorem statistics_of_unknown {key name : Bytes} (hone : statistic k i records key name = .error f)
    (hcode : f.code = .unknownDataType) :
    ∃ g, statistics k i records records.length = .error g ∧ g.code = .unknownDataType := by
  obtain ⟨r, hr, hunknown⟩ : ∃ r ∈ records, r.type.code ∉ DataType.knownCodes := by
    unfold statistic at hone
    cases hfind : records.find? fun r => r.name.text = key with
    | none =>
      rw [hfind] at hone
      cases hone
      cases hcode
    | some r =>
      rw [hfind] at hone
      exact ⟨r, List.mem_of_find?_eq_some hfind, (decode_eq_error_iff.1 hone).1⟩
  cases hmany : statistics k i records records.length with
  | ok many =>
    obtain ⟨-, hknown⟩ := exists_statistics_iff.1 ⟨many, hmany⟩
    rw [List.take_length] at hknown
    exact absurd (hknown r hr) hunknown
  | error g =>
    obtain ⟨index, hfirst⟩ := statistics_eq_error_iff.1 hmany
    exact ⟨g, rfl, hfirst.code.2.trans (if_pos hfirst.counted)⟩

end Record

end KernelStats
