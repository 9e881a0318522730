import KernelStats.Cache
import KernelStats.KStat
import Mathlib.Data.List.Nodup

/-!
# The objects of a token

All tokens of a client put their kstat objects on one list, which only ever grows at its end. Two
facts about that list carry everything that is said of identity later. An object on the list keeps
its origin, the token and the record id that it was made for, and it keeps its identity; only its
snapshot time may move, and only forward. And the cache of a token indexes the list: it has an object
for a record id exactly when the list has one whose origin is that token and that id.
-/

namespace KernelStats

namespace KStat

def origin (k : KStat) : TokenId × RecordId := (k.token, k.record)

/-- What an object may turn into: nothing but its snapshot time moves. -/
structure Becomes (k later : KStat) : Prop where
  origin : later.origin = k.origin
  identity : later.identity = k.identity
  snaptime : k.snaptime ≤ later.snaptime

theorem Becomes.rfl (k : KStat) : k.Becomes k := ⟨Eq.refl _, Eq.refl _, Int64.le_refl _⟩

theorem Becomes.trans {k later last : KStat} (hfirst : k.Becomes later) (hsecond : later.Becomes last) :
    k.Becomes last where
  origin := hsecond.origin.trans hfirst.origin
  identity := hsecond.identity.trans hfirst.identity
  snaptime := Int64.le_trans hfirst.snaptime hsecond.snaptime

theorem Becomes.token {k later : KStat} (h : k.Becomes later) : later.token = k.token :=
  congrArg Prod.fst h.origin

theorem Becomes.record {k later : KStat} (h : k.Becomes later) : later.record = k.record :=
  congrArg Prod.snd h.origin

theorem becomes_observe (k : KStat) (snaptime : Int64) : k.Becomes (k.observe snaptime) := by
  unfold observe
  split
  · next hle => exact ⟨rfl, rfl, hle⟩
  · exact .rfl k

@[simp] theorem origin_observe (k : KStat) (snaptime : Int64) :
    (k.observe snaptime).origin = k.origin :=
  (k.becomes_observe snaptime).origin

end KStat

/-! ### Growth -/

/-- How the list of objects may change while only one token is used. -/
structure GrownBy (t : TokenId) (before after : List KStat) : Prop where
  kept : ∀ (k : Nat) (kstat : KStat), before[k]? = some kstat →
    ∃ later, after[k]? = some later ∧ kstat.Becomes later ∧ (kstat.token ≠ t → later = kstat)
  added : ∀ (k : Nat) (kstat : KStat), before.length ≤ k → after[k]? = some kstat → kstat.token = t

namespace GrownBy

variable {t : TokenId} {before middle after : List KStat}

theorem rfl (t : TokenId) (kstats : List KStat) : GrownBy t kstats kstats where
  kept _ kstat hk := ⟨kstat, hk, .rfl kstat, fun _ => Eq.refl _⟩
  added k _ hlength hk := by
    obtain ⟨hlt, -⟩ := List.getElem?_eq_some_iff.1 hk
    omega

theorem trans (hfirst : GrownBy t before middle) (hsecond : GrownBy t middle after) :
    GrownBy t before after where
  kept k kstat hk := by
    obtain ⟨kstat', hk', hbecomes', hother'⟩ := hfirst.kept k kstat hk
    obtain ⟨later, hk'', hbecomes, hother⟩ := hsecond.kept k kstat' hk'
    refine ⟨later, hk'', hbecomes'.trans hbecomes, fun hne => ?_⟩
    rw [← hother' hne]
    exact hother (hbecomes'.token ▸ hne)
  added k kstat hlength hk := by
    by_cases hlt : k < middle.length
    · obtain ⟨later, hk', hbecomes, -⟩ := hsecond.kept k _ (List.getElem?_eq_getElem hlt)
      rw [hk] at hk'
      cases hk'
      rw [hbecomes.token]
      exact hfirst.added k _ hlength (List.getElem?_eq_getElem hlt)
    · exact hsecond.added k kstat (by omega) hk

theorem append (kstats : List KStat) {kstat : KStat} (htoken : kstat.token = t) :
    GrownBy t kstats (kstats ++ [kstat]) where
  kept k old hk := by
    obtain ⟨hlt, -⟩ := List.getElem?_eq_some_iff.1 hk
    exact ⟨old, by rw [List.getElem?_append_left hlt, hk], .rfl old, fun _ => Eq.refl _⟩
  added k new hlength hk := by
    rw [List.getElem?_append_right hlength, List.getElem?_singleton] at hk
    split at hk
    · cases hk
      exact htoken
    · cases hk

theorem observe {kstats : List KStat} {k : KStatId} {kstat : KStat} (hk : kstats[k]? = some kstat)
    (htoken : kstat.token = t) (snaptime : Int64) :
    GrownBy t kstats (kstats.modify k (·.observe snaptime)) where
  kept i old hi := by
    by_cases hik : k = i
    · subst hik
      rw [hk] at hi
      cases hi
      exact ⟨_, by rw [List.getElem?_modify_eq, hk]; simp, kstat.becomes_observe snaptime,
        fun hne => absurd htoken hne⟩
    · exact ⟨old, by rw [List.getElem?_modify_ne _ _ hik, hi], .rfl old, fun _ => Eq.refl _⟩
  added i new hlength hi := by
    obtain ⟨hlt, -⟩ := List.getElem?_eq_some_iff.1 hi
    rw [List.length_modify] at hlt
    omega

theorem length_le (h : GrownBy t before after) : before.length ≤ after.length := by
  by_contra hlt
  obtain ⟨later, hlater, -⟩ := h.kept after.length _ (List.getElem?_eq_getElem (by omega))
  simp at hlater

theorem origins (h : GrownBy t before after) {k : Nat} (hk : k < before.length) :
    (after.map KStat.origin)[k]? = (before.map KStat.origin)[k]? := by
  obtain ⟨later, hlater, hbecomes, -⟩ := h.kept k _ (List.getElem?_eq_getElem hk)
  rw [List.getElem?_map, List.getElem?_map, hlater, List.getElem?_eq_getElem hk]
  exact congrArg some hbecomes.origin

theorem getElem?_iff {u : TokenId} (h : GrownBy t before after) (hne : u ≠ t) {k : Nat}
    {kstat : KStat} (htoken : kstat.token = u) : after[k]? = some kstat ↔ before[k]? = some kstat := by
  constructor
  · intro hk
    by_cases hlt : k < before.length
    · obtain ⟨later, hlater, hbecomes, hother⟩ := h.kept k _ (List.getElem?_eq_getElem hlt)
      rw [hk] at hlater
      cases hlater
      rw [List.getElem?_eq_getElem hlt, hother (hbecomes.token ▸ htoken ▸ hne)]
    · exact absurd (htoken ▸ h.added k kstat (by omega) hk) hne
  · intro hk
    obtain ⟨later, hlater, -, hother⟩ := h.kept k kstat hk
    rw [hlater, hother (htoken ▸ hne)]

end GrownBy

/-! ### Indexes -/

namespace Cache

variable {cache : Cache KStatId} {t : TokenId} {kstats : List KStat}

def keys (cache : Cache KStatId) : List RecordId := cache.entries.map Prod.fst

theorem mem_keys {id : RecordId} : id ∈ cache.keys ↔ (cache.find? id).isSome :=
  (cache.isSome_find? id).symm

theorem length_keys : cache.keys.length = cache.size := by
  simp [keys, size]

theorem keys_insert_of_none {id : RecordId} (hnone : cache.find? id = none) (k : KStatId) :
    (cache.insert id k).1.keys = cache.keys ++ [id] := by
  simp [insert, hnone, keys]

/-- The cache finds what the list has for the token, and it has nothing twice. -/
structure Indexes (cache : Cache KStatId) (t : TokenId) (kstats : List KStat) : Prop where
  find?_iff : ∀ (id : RecordId) (k : Nat), cache.find? id = some k ↔ (kstats.map KStat.origin)[k]? = some (t, id)
  nodup : cache.keys.Nodup

namespace Indexes

theorem empty (hnone : ∀ kstat ∈ kstats, kstat.token ≠ t) : Cache.empty.Indexes t kstats where
  find?_iff id k := by
    refine ⟨fun h => (nomatch h), fun h => ?_⟩
    rw [List.getElem?_map, Option.map_eq_some_iff] at h
    obtain ⟨kstat, hk, horigin⟩ := h
    exact absurd (congrArg Prod.fst horigin) (hnone kstat (List.mem_of_getElem? hk))
  nodup := List.nodup_nil

theorem not_mem_of_none (h : cache.Indexes t kstats) {id : RecordId} (hnone : cache.find? id = none) :
    (t, id) ∉ kstats.map KStat.origin := by
  intro hmem
  obtain ⟨k, hk⟩ := List.getElem?_of_mem hmem
  rw [(h.find?_iff id k).2 hk] at hnone
  cases hnone

theorem insert (h : cache.Indexes t kstats) (kstat : KStat)
    (hnone : cache.find? kstat.record = none) (htoken : kstat.token = t) :
    (cache.insert kstat.record kstats.length).1.Indexes t (kstats ++ [kstat]) where
  find?_iff id k := by
    have horigin : kstat.origin = (t, kstat.record) := by rw [← htoken]; rfl
    rw [List.map_append, List.map_singleton, horigin]
    by_cases hid : id = kstat.record
    · subst hid
      have hself : (cache.insert kstat.record kstats.length).1.find? kstat.record
          = some kstats.length := by
        rw [find?_insert_self, Cache.insert]
        simp [hnone]
      rw [hself, List.getElem?_append, List.length_map]
      split
      · next hlt =>
        have hnot := h.not_mem_of_none hnone
        refine ⟨fun heq => ?_, fun hk => absurd (List.mem_of_getElem? hk) hnot⟩
        cases heq
        omega
      · rw [List.getElem?_singleton]
        simp only [Option.some.injEq, ite_eq_left_iff, reduceCtorEq, imp_false, not_not]
        omega
    · rw [find?_insert_of_ne hid, h.find?_iff, List.getElem?_append, List.length_map]
      split
      · rfl
      · next hge =>
        rw [List.getElem?_eq_none (by simpa using hge), List.getElem?_singleton]
        simp [Ne.symm hid]
  nodup := nodup_insert h.nodup _ _

/-- What happens to the objects of other tokens is of no account. -/
theorem of_grownBy {u : TokenId} {after : List KStat} (h : cache.Indexes t kstats)
    (hgrown : GrownBy u kstats after) (hne : t ≠ u) : cache.Indexes t after where
  find?_iff id k := by
    rw [h.find?_iff]
    by_cases hlt : k < kstats.length
    · rw [hgrown.origins hlt]
    · rw [List.getElem?_eq_none (by simpa using hlt), List.getElem?_map]
      refine ⟨fun hk => (nomatch hk), fun hk => ?_⟩
      obtain ⟨kstat, hk', horigin⟩ := Option.map_eq_some_iff.1 hk
      have hnew : kstat.token = u := hgrown.added k kstat (by omega) hk'
      have hold : kstat.token = t := congrArg Prod.fst horigin
      exact absurd (hold.symm.trans hnew) hne
  nodup := h.nodup

theorem congr {after : List KStat} (h : cache.Indexes t kstats)
    (horigins : after.map KStat.origin = kstats.map KStat.origin) : cache.Indexes t after where
  find?_iff id k := by rw [horigins, h.find?_iff]
  nodup := h.nodup

end Indexes

end Cache

end KernelStats
