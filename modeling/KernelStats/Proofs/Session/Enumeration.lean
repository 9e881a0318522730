import KernelStats.Proofs.Session.Labels
import Mathlib.Data.List.Nodup

/-!
# Enumerations

An enumeration goes from id to id, as the handle tells it the next one, and takes an object for each. The
walk is finite, because ids only go up and stop at the last kstat. Of the session it changes the cache, the
list of objects and the log. Objects that are there are handed out as they are, and the others are made
from the headers of now, in the order of the walk.
-/

namespace KernelStats

theorem Handle.nodup_walk (k : Kernel) (h : Handle) : (h.walk k).Nodup := by
  rw [walk_eq]
  refine List.nodup_range.map fun i j hij => ?_
  simpa [RecordId.ofIndex] using hij

namespace Session

/-! ### The walk, turn by turn -/

/-- A walk over the handle's chain: an id gets its object, and then the handle is asked for the next id. -/
inductive Visits : Session → Option RecordId → Session → List KStatId → Prop where
  | done (s : Session) : Visits s none s []
  | step {s s' : Session} {id : RecordId} {ks : List KStatId}
      (hrest : (s.intern id).1.Visits ((s.intern id).1.handle.next? (s.intern id).1.kernel id) s' ks) :
      Visits s (some id) s' ((s.intern id).2 :: ks)

variable {s s' : Session} {k : KStatId}

theorem next?_intern (s : Session) (id other : RecordId) :
    (s.intern id).1.handle.next? (s.intern id).1.kernel other = s.handle.next? s.kernel other := by
  rw [handle_intern, kernel_intern]

theorem visits_walk (s : Session) (id : RecordId) :
    s.Visits (some id) (s.internAll (id.walk (s.handle.length s.kernel))).1
      (s.internAll (id.walk (s.handle.length s.kernel))).2 := by
  generalize hlength : s.handle.length s.kernel = length
  -- the recursion of the walk itself; interning an id does not move its end
  fun_induction id.walk length generalizing s with
  | case1 id next hnext ih =>
    have hkept : (s.intern id).1.handle.length (s.intern id).1.kernel = length := by
      rw [handle_intern, kernel_intern, hlength]
    have hturn : (s.intern id).1.handle.next? (s.intern id).1.kernel id = some next := by
      rw [next?_intern, Handle.next?, hlength, hnext]
    refine .step ?_
    rw [hturn]
    exact ih (s.intern id).1 hkept
  | case2 id hnext =>
    have hturn : (s.intern id).1.handle.next? (s.intern id).1.kernel id = none := by
      rw [next?_intern, Handle.next?, hlength, hnext]
    refine .step ?_
    rw [hturn]
    exact .done _

theorem visits_all (s : Session) : s.Visits (s.handle.head? s.kernel) s.all.1 s.all.2 := by
  unfold all Handle.walk
  cases s.handle.head? s.kernel with
  | none => exact .done s
  | some first => exact s.visits_walk first

/-- There is one way only to walk. -/
theorem Visits.unique {start : Option RecordId} {ks : List KStatId} (h : s.Visits start s' ks)
    {s'' : Session} {ks' : List KStatId} (h' : s.Visits start s'' ks') : s'' = s' ∧ ks' = ks := by
  induction h generalizing s'' ks' with
  | done s =>
    cases h'
    exact ⟨rfl, rfl⟩
  | step _ ih =>
    cases h' with
    | step hrest' =>
      obtain ⟨rfl, rfl⟩ := ih hrest'
      exact ⟨rfl, rfl⟩

/-! ### What is handed out -/

theorem find?_intern_of_ne {id other : RecordId} (hne : other ≠ id) :
    (s.intern id).1.cache.find? other = s.cache.find? other := by
  cases hfind : s.cache.find? id with
  | some k => rw [intern_of_find? hfind]
  | none =>
    rw [intern_of_none hfind]
    exact Cache.find?_insert_of_ne hne s.cache s.kstats.length

theorem kernel_internAll (s : Session) (ids : List RecordId) : (s.internAll ids).1.kernel = s.kernel := by
  induction ids generalizing s with
  | nil => rfl
  | cons id ids ih => rw [internAll_cons, ih, kernel_intern]

theorem handle_internAll (s : Session) (ids : List RecordId) : (s.internAll ids).1.handle = s.handle := by
  induction ids generalizing s with
  | nil => rfl
  | cons id ids ih => rw [internAll_cons, ih, handle_intern]

theorem find?_internAll_of_not_mem {ids : List RecordId} {other : RecordId} (hother : other ∉ ids) :
    (s.internAll ids).1.cache.find? other = s.cache.find? other := by
  induction ids generalizing s with
  | nil => rfl
  | cons id ids ih =>
    obtain ⟨hne, hrest⟩ := not_or.1 (hother ∘ List.mem_cons.2)
    rw [internAll_cons, ih hrest, find?_intern_of_ne hne]

def fresh (s : Session) (id : RecordId) : KStat := KStat.ofHeader s.token id (s.handle.header s.kernel id)

theorem kstats_internAll {ids : List RecordId} (hnodup : ids.Nodup) :
    (s.internAll ids).1.kstats =
      s.kstats ++ (ids.filter fun id => (s.cache.find? id).isNone).map s.fresh := by
  induction ids generalizing s with
  | nil => exact (List.append_nil _).symm
  | cons id ids ih =>
    obtain ⟨hnew, hrest⟩ := List.nodup_cons.1 hnodup
    have hfresh : (s.intern id).1.fresh = s.fresh := by
      funext other
      rw [fresh, fresh, token_intern, handle_intern, kernel_intern]
    -- the first id is none of the others, so its object does not count for them
    have hothers : (ids.filter fun other => ((s.intern id).1.cache.find? other).isNone) =
        ids.filter fun other => (s.cache.find? other).isNone := by
      apply List.filter_congr
      intro other hother
      have hne : other ≠ id := by
        rintro rfl
        exact hnew hother
      rw [find?_intern_of_ne hne]
    rw [internAll_cons, ih hrest, hfresh, hothers, List.filter_cons]
    cases hfind : s.cache.find? id with
    | some k =>
      rw [intern_of_find? hfind]
      rfl
    | none =>
      rw [intern_of_none hfind]
      show (s.kstats ++ [s.fresh id]) ++ _ = _
      rw [List.append_assoc]
      rfl

theorem kstat_internAll {ids : List RecordId} (hnodup : ids.Nodup) {id : RecordId}
    (hk : (s.internAll ids).1.StandsFor k id) (hnew : s.kstats.length ≤ k) :
    (s.internAll ids).1.kstat k = s.fresh id := by
  have hget := hk.getElem?
  rw [kstats_internAll hnodup, List.getElem?_append_right hnew, List.getElem?_map] at hget
  obtain ⟨other, -, hother⟩ := Option.map_eq_some_iff.1 hget
  have hrecord := hk.record
  rw [← hother] at hrecord ⊢
  exact congrArg s.fresh hrecord

/-- An object that was there before an enumeration stood for its kstat then. -/
theorem StandsFor.of_all {k : KStatId} {id : RecordId} (hk : s.all.1.StandsFor k id)
    (hlt : k < s.kstats.length) : s.StandsFor k id := by
  have hadvances := s.moves_all.advances
  unfold StandsFor at hk
  rwa [hadvances.token, hadvances.kstats.origins hlt] at hk

/-- What an enumeration does to a session. -/
structure Enumerates (s s' : Session) (ks : List KStatId) : Prop where
  token : s'.token = s.token
  kernel : s'.kernel = s.kernel
  handle : s'.handle = s.handle
  listed : List.Forall₂ (fun id k => s'.StandsFor k id ∧ s'.cache.find? id = some k) (s.handle.walk s.kernel) ks
  cached : ∀ id ∈ s.handle.walk s.kernel, ∀ k, s.cache.find? id = some k → s'.cache.find? id = some k
  made : ∀ id k, s.cache.find? id = none → s'.cache.find? id = some k →
    s.kstats.length ≤ k ∧ s'.kstat k = s.fresh id
  others : ∀ id, id ∉ s.handle.walk s.kernel → s'.cache.find? id = s.cache.find? id
  kstats : s'.kstats =
    s.kstats ++ ((s.handle.walk s.kernel).filter fun id => (s.cache.find? id).isNone).map s.fresh

theorem enumerates_all (hs : s.Sound) : s.Enumerates s.all.1 s.all.2 := by
  have hwalk := s.handle.nodup_walk s.kernel
  have hafter : s.all.1.Sound := s.moves_all.sound hs
  have hadvances := s.moves_all.advances
  have hfind : ∀ {id k}, s.all.1.cache.find? id = some k ↔ s.all.1.StandsFor k id := fun {id k} =>
    hafter.indexed.find?_iff id k
  refine ⟨hadvances.token, s.kernel_internAll _, s.handle_internAll _, ?_, fun id _ k hk => ?_,
    fun id k hnone hk => ?_, fun id hid => find?_internAll_of_not_mem hid, kstats_internAll hwalk⟩
  · have hlisted : List.Forall₂ (fun id k => s.all.1.StandsFor k id) (s.handle.walk s.kernel) s.all.2 :=
      standsFor_internAll hs fun _ hid => hid
    exact hlisted.imp fun id k hk => ⟨hk, hfind.2 hk⟩
  · exact hfind.2 (hadvances.standsFor ((hs.indexed.find?_iff id k).1 hk))
  · have hk := hfind.1 hk
    have hnew : s.kstats.length ≤ k := by
      -- an older object would have been cached
      by_contra hlt
      rw [(hs.indexed.find?_iff id k).2 (hk.of_all (Nat.lt_of_not_le hlt))] at hnone
      cases hnone
    exact ⟨hnew, kstat_internAll hwalk hk hnew⟩

theorem Enumerates.nodup {ks : List KStatId} (h : s.Enumerates s' ks) : ks.Nodup := by
  have hrecords : List.Forall₂ (fun id k => id = (s'.kstat k).record) (s.handle.walk s.kernel) ks :=
    h.listed.imp fun id k hk => hk.1.record.symm
  rw [← List.forall₂_map_right_iff, List.forall₂_eq_eq_eq] at hrecords
  apply List.Nodup.of_map fun k => (s'.kstat k).record
  exact hrecords ▸ s.handle.nodup_walk s.kernel

end Session

end KernelStats
