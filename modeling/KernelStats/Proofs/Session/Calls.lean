import KernelStats.Proofs.Session.Collect
import KernelStats.Proofs.Session.Moves
import Mathlib.Data.List.Forall2

/-!
# The calls as moves

Each call on a session is a sequence of moves. Beside that stands what a call does to the cache, which
only enumerations and lookups extend, and what the objects in its result stand for: the objects of an
enumeration for the ids of the walk, one by one, that of a lookup for the id that the handle found, and
the parent of a statistic is the object that it was asked of.
-/

namespace KernelStats

theorem Record.parent_decode {k : KStatId} {i : Identity} {r : Record} {statistic : Statistic}
    (h : r.decode (some (k, i)) = .ok statistic) : statistic.parent = some k := by
  unfold Record.decode at h
  split at h
  · next value _ =>
    cases h
    cases value <;> rfl
  · cases h

namespace Session

/-! ### Enumerations -/

theorem internAll_cons (s : Session) (id : RecordId) (ids : List RecordId) :
    s.internAll (id :: ids) =
      (((s.intern id).1.internAll ids).1, (s.intern id).2 :: ((s.intern id).1.internAll ids).2) := rfl

theorem moves_internAll {s : Session} {ids : List RecordId}
    (hids : ∀ id ∈ ids, id ∈ s.handle.walk s.kernel) : s.Moves (s.internAll ids).1 := by
  induction ids generalizing s with
  | nil => exact .refl
  | cons id ids ih =>
    have hfirst : s.Move (s.intern id).1 := .intern (hids id List.mem_cons_self)
    refine .head hfirst (ih fun other hother => ?_)
    rw [handle_intern, kernel_intern]
    exact hids other (List.mem_cons_of_mem _ hother)

theorem moves_all (s : Session) : s.Moves s.all.1 := moves_internAll fun _ hid => hid

theorem mem_keys_intern (s : Session) (id other : RecordId) :
    other ∈ (s.intern id).1.cache.keys ↔ other ∈ s.cache.keys ∨ other = id := by
  cases h : s.cache.find? id with
  | some k =>
    rw [intern_of_find? h]
    refine ⟨.inl, fun hor => hor.elim (fun hmem => hmem) ?_⟩
    rintro rfl
    simp [Cache.mem_keys, h]
  | none =>
    rw [intern_of_none h]
    simp [report, Cache.keys_insert_of_none h]

theorem mem_keys_internAll (s : Session) (ids : List RecordId) (other : RecordId) :
    other ∈ (s.internAll ids).1.cache.keys ↔ other ∈ s.cache.keys ∨ other ∈ ids := by
  induction ids generalizing s with
  | nil => simp [internAll]
  | cons id ids ih =>
    rw [internAll_cons, ih, mem_keys_intern, List.mem_cons, or_assoc]

theorem standsFor_internAll {s : Session} (hs : s.Sound) {ids : List RecordId}
    (hids : ∀ id ∈ ids, id ∈ s.handle.walk s.kernel) :
    List.Forall₂ (fun id k => (s.internAll ids).1.StandsFor k id) ids (s.internAll ids).2 := by
  induction ids generalizing s with
  | nil => exact .nil
  | cons id ids ih =>
    have hrest : ∀ other ∈ ids, other ∈ (s.intern id).1.handle.walk (s.intern id).1.kernel := by
      intro other hother
      rw [handle_intern, kernel_intern]
      exact hids other (List.mem_cons_of_mem _ hother)
    exact .cons ((moves_internAll hrest).advances.standsFor (standsFor_intern hs id))
      (ih (sound_intern hs id) hrest)

/-! ### Lookups -/

theorem lookup_of_error {s : Session} {q : Query} {e : Errno}
    (h : (s.handle.lookup s.kernel q).2 = .error e) :
    s.lookup q = (s.searched q, .error (.noKStat q e)) := by
  unfold lookup searched
  split
  · next kernel errno hlookup =>
    rw [hlookup] at h
    cases h
    rw [hlookup]
  · next kernel id hlookup =>
    rw [hlookup] at h
    cases h

/-- The session in which a lookup reads the kstat that it found, and the object of that kstat. -/
def matched (s : Session) (q : Query) (id : RecordId) : Session × KStatId := (s.searched q).intern id

theorem lookup_of_ok {s : Session} {q : Query} {id : RecordId}
    (h : (s.handle.lookup s.kernel q).2 = .ok id) :
    s.lookup q =
      (((s.matched q id).1.refresh (s.matched q id).2).1,
        ((s.matched q id).1.refresh (s.matched q id).2).2.map fun _ => (s.matched q id).2) := by
  unfold lookup matched searched
  split
  · next kernel errno hlookup =>
    rw [hlookup] at h
    cases h
  · next kernel found hlookup =>
    rw [hlookup] at h
    cases h
    rw [hlookup]
    simp only
    split
    · next hread => rw [hread]; rfl
    · next hread => rw [hread]; rfl

theorem sound_searched {s : Session} (hs : s.Sound) (q : Query) : (s.searched q).Sound :=
  (Move.search s q).sound hs

theorem mem_walk_searched {s : Session} {q : Query} {id : RecordId}
    (h : (s.handle.lookup s.kernel q).2 = .ok id) :
    id ∈ (s.searched q).handle.walk (s.searched q).kernel := by
  have hwalk : s.handle.walk (s.searched q).kernel = s.handle.walk s.kernel := by
    have hlength : s.handle.length (s.searched q).kernel = s.handle.length s.kernel := by
      cases hhandle : s.handle with
      | live => simp [searched, Handle.length, hhandle, Chain.length]
      | library control => cases control <;> rfl
    rw [Handle.walk_eq, Handle.walk_eq, hlength]
  exact hwalk ▸ Handle.mem_walk_of_lookup h

theorem moves_matched {s : Session} {q : Query} {id : RecordId}
    (h : (s.handle.lookup s.kernel q).2 = .ok id) : s.Moves (s.matched q id).1 :=
  .tail (.single (.search s q)) (.intern (mem_walk_searched h))

theorem standsFor_matched {s : Session} (hs : s.Sound) (q : Query) (id : RecordId) :
    (s.matched q id).1.StandsFor (s.matched q id).2 id :=
  standsFor_intern (sound_searched hs q) id

theorem moves_lookup {s : Session} (hs : s.Sound) (q : Query) : s.Moves (s.lookup q).1 := by
  cases h : (s.handle.lookup s.kernel q).2 with
  | error e =>
    rw [lookup_of_error h]
    exact .single (.search s q)
  | ok id =>
    rw [lookup_of_ok h]
    exact (moves_matched h).tail (.refresh (standsFor_matched hs q id))

/-- What a lookup hands out stands for what the handle found. -/
theorem standsFor_lookup {s : Session} (hs : s.Sound) {q : Query} {k : KStatId}
    (hfound : (s.lookup q).2 = .ok k) :
    ∃ id, (s.handle.lookup s.kernel q).2 = .ok id ∧ (s.lookup q).1.StandsFor k id := by
  cases h : (s.handle.lookup s.kernel q).2 with
  | error e =>
    rw [lookup_of_error h] at hfound
    cases hfound
  | ok id =>
    rw [lookup_of_ok h] at hfound ⊢
    have hk : (s.matched q id).2 = k := by
      cases hread : ((s.matched q id).1.refresh (s.matched q id).2).2 with
      | error f => rw [hread] at hfound; cases hfound
      | ok _ => rw [hread] at hfound; cases hfound; rfl
    subst hk
    have hstands := standsFor_matched hs q id
    exact ⟨id, rfl, (Move.refresh hstands).advances.standsFor hstands⟩

theorem mem_keys_lookup (s : Session) (q : Query) (other : RecordId) :
    other ∈ (s.lookup q).1.cache.keys ↔
      other ∈ s.cache.keys ∨ (s.handle.lookup s.kernel q).2 = .ok other := by
  cases h : (s.handle.lookup s.kernel q).2 with
  | error e =>
    rw [lookup_of_error h]
    simp [searched]
  | ok id =>
    rw [lookup_of_ok h, cache_refresh, matched, mem_keys_intern]
    simp [searched, eq_comm]

/-! ### Statistics -/

theorem moves_answer {α : Type} (s : Session) (r : Except Failure α) : s.Moves (s.answer r).1 := by
  cases r with
  | ok a => exact .refl
  | error f => exact .single (.report s f.alarms)

@[simp] theorem result_answer {α : Type} (s : Session) (r : Except Failure α) :
    (s.answer r).2 = r := by
  cases r <;> rfl

@[simp] theorem cache_answer {α : Type} (s : Session) (r : Except Failure α) :
    (s.answer r).1.cache = s.cache := by
  cases r <;> rfl

section

variable {s : Session} {k : KStatId} {id : RecordId}

theorem prepare_cases (s : Session) (k : KStatId) :
    (∃ r, s.prepare k = (s, r)) ∨ s.prepare k = s.refresh k := by
  unfold prepare
  split
  · split
    · exact .inl ⟨_, rfl⟩
    · exact .inr rfl
  · exact .inl ⟨_, rfl⟩

theorem moves_prepare (hk : s.StandsFor k id) : s.Moves (s.prepare k).1 := by
  rcases s.prepare_cases k with ⟨r, hnone⟩ | hread
  · rw [hnone]
  · rw [hread]
    exact .single (.refresh hk)

theorem named_of_prepare (hk : s.StandsFor k id) (hready : (s.prepare k).2 = .ok ()) :
    ((s.prepare k).1.kstat k).identity.type = .named := by
  rw [(moves_prepare hk).advances.identity hk]
  by_contra htype
  rw [prepare, if_neg htype] at hready
  cases hready

@[simp] theorem cache_prepare (s : Session) (k : KStatId) : (s.prepare k).1.cache = s.cache := by
  rcases s.prepare_cases k with ⟨r, hnone⟩ | hread
  · rw [hnone]
  · rw [hread, cache_refresh]

theorem statistic_of_error {f : Failure} (h : (s.prepare k).2 = .error f) (name : Bytes) :
    s.statistic k name = ((s.prepare k).1, .error f) := by
  obtain ⟨ready, hready⟩ : ∃ ready, s.prepare k = (ready, .error f) := ⟨_, Prod.ext rfl h⟩
  simp only [statistic, hready]

theorem statistic_of_ok (h : (s.prepare k).2 = .ok ()) (name : Bytes) :
    s.statistic k name =
      let ready := (s.prepare k).1
      let record := (ready.kstat k).record
      (ready.picked record name).answer
        (match (ready.handle.record? ready.kernel record name).2 with
        | none => .error (.noStatistic name (ready.kstat k).identity)
        | some r => ready.decode k r) := by
  obtain ⟨ready, hready⟩ : ∃ ready, s.prepare k = (ready, .ok ()) := ⟨_, Prod.ext rfl h⟩
  simp only [statistic, hready, picked]
  rcases ready.handle.record? ready.kernel (ready.kstat k).record name with ⟨kernel, _ | r⟩
  · simp [answer, report, Failure.alarms]
  · rfl

theorem statistics_of_error {f : Failure} (h : (s.prepare k).2 = .error f) :
    s.statistics k = ((s.prepare k).1, .error f) := by
  obtain ⟨ready, hready⟩ : ∃ ready, s.prepare k = (ready, .error f) := ⟨_, Prod.ext rfl h⟩
  simp only [statistics, hready]

theorem statistics_of_ok (h : (s.prepare k).2 = .ok ()) :
    s.statistics k =
      let ready := (s.prepare k).1
      let count := (ready.header k).ndata.toNat
      ready.answer (collect (ready.statisticAt k count) count 0) := by
  obtain ⟨ready, hready⟩ : ∃ ready, s.prepare k = (ready, .ok ()) := ⟨_, Prod.ext rfl h⟩
  simp only [statistics, hready]

theorem moves_statistic (hk : s.StandsFor k id) (name : Bytes) : s.Moves (s.statistic k name).1 := by
  cases h : (s.prepare k).2 with
  | error f =>
    rw [statistic_of_error h]
    exact moves_prepare hk
  | ok _ =>
    rw [statistic_of_ok h]
    exact ((moves_prepare hk).tail (.pick _ _ name)).trans (moves_answer _ _)

theorem moves_statistics (hk : s.StandsFor k id) : s.Moves (s.statistics k).1 := by
  cases h : (s.prepare k).2 with
  | error f =>
    rw [statistics_of_error h]
    exact moves_prepare hk
  | ok _ =>
    rw [statistics_of_ok h]
    exact (moves_prepare hk).trans (moves_answer _ _)

@[simp] theorem cache_statistic (s : Session) (k : KStatId) (name : Bytes) :
    (s.statistic k name).1.cache = s.cache := by
  cases h : (s.prepare k).2 with
  | error f => rw [statistic_of_error h, cache_prepare]
  | ok _ =>
    rw [statistic_of_ok h]
    simp only [cache_answer, picked, cache_prepare]

@[simp] theorem cache_statistics (s : Session) (k : KStatId) :
    (s.statistics k).1.cache = s.cache := by
  cases h : (s.prepare k).2 with
  | error f => rw [statistics_of_error h, cache_prepare]
  | ok _ =>
    rw [statistics_of_ok h]
    simp only [cache_answer, cache_prepare]

theorem parent_statistic {name : Bytes} {statistic : Statistic}
    (hok : (s.statistic k name).2 = .ok statistic) : statistic.parent = some k := by
  cases h : (s.prepare k).2 with
  | error f =>
    rw [statistic_of_error h] at hok
    cases hok
  | ok _ =>
    rw [statistic_of_ok h, result_answer] at hok
    split at hok
    · cases hok
    · exact Record.parent_decode hok

theorem parent_statistics {results : List Statistic} (hok : (s.statistics k).2 = .ok results)
    {statistic : Statistic} (hmem : statistic ∈ results) : statistic.parent = some k := by
  cases h : (s.prepare k).2 with
  | error f =>
    rw [statistics_of_error h] at hok
    cases hok
  | ok _ =>
    rw [statistics_of_ok h, result_answer] at hok
    obtain ⟨i, hi⟩ := mem_collect hok hmem
    unfold statisticAt at hi
    split at hi
    · cases hi
    · exact Record.parent_decode hi

end

/-! ### A lookup with a statistic -/

theorem lookupStatistic_of_error {s : Session} {q : Query} {f : Failure}
    (h : (s.lookup q).2 = .error f) (name : Bytes) :
    s.lookupStatistic q name = ((s.lookup q).1, .error f) := by
  obtain ⟨found, hfound⟩ : ∃ found, s.lookup q = (found, .error f) := ⟨_, Prod.ext rfl h⟩
  simp only [lookupStatistic, hfound]

theorem lookupStatistic_of_ok {s : Session} {q : Query} {k : KStatId}
    (h : (s.lookup q).2 = .ok k) (name : Bytes) :
    s.lookupStatistic q name = (s.lookup q).1.statistic k name := by
  obtain ⟨found, hfound⟩ : ∃ found, s.lookup q = (found, .ok k) := ⟨_, Prod.ext rfl h⟩
  simp only [lookupStatistic, hfound]

theorem moves_lookupStatistic {s : Session} (hs : s.Sound) (q : Query) (name : Bytes) :
    s.Moves (s.lookupStatistic q name).1 := by
  cases h : (s.lookup q).2 with
  | error f =>
    rw [lookupStatistic_of_error h]
    exact moves_lookup hs q
  | ok k =>
    rw [lookupStatistic_of_ok h]
    obtain ⟨id, -, hk⟩ := standsFor_lookup hs h
    exact (moves_lookup hs q).trans (moves_statistic hk name)

theorem mem_keys_lookupStatistic (s : Session) (q : Query) (name : Bytes) (other : RecordId) :
    other ∈ (s.lookupStatistic q name).1.cache.keys ↔
      other ∈ s.cache.keys ∨ (s.handle.lookup s.kernel q).2 = .ok other := by
  cases h : (s.lookup q).2 with
  | error f => rw [lookupStatistic_of_error h, mem_keys_lookup]
  | ok k => rw [lookupStatistic_of_ok h, cache_statistic, mem_keys_lookup]

theorem standsFor_lookupStatistic {s : Session} (hs : s.Sound) {q : Query} {name : Bytes}
    {statistic : Statistic} (hok : (s.lookupStatistic q name).2 = .ok statistic) :
    ∃ id k, (s.handle.lookup s.kernel q).2 = .ok id ∧ statistic.parent = some k ∧
      (s.lookupStatistic q name).1.StandsFor k id := by
  cases h : (s.lookup q).2 with
  | error f =>
    rw [lookupStatistic_of_error h] at hok
    cases hok
  | ok k =>
    rw [lookupStatistic_of_ok h] at hok ⊢
    obtain ⟨id, hid, hk⟩ := standsFor_lookup hs h
    exact ⟨id, k, hid, parent_statistic hok, (moves_statistic hk name).advances.standsFor hk⟩

end Session

end KernelStats
