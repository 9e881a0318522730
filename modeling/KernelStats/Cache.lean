import KernelStats.RecordId

/-!
# First-wins caches

A cache keeps, for each record id, the first thing that was put there. A later insert for the same
id changes nothing and hands back what is cached, so an id has one object for as long as the cache
is not cleared.
-/

namespace KernelStats

/-- One entry for each record id that was ever inserted, in order of insertion. -/
structure Cache (α : Type) where
  entries : List (RecordId × α) := []
  deriving Repr

namespace Cache

variable {α : Type}

def empty : Cache α := {}

def find? (c : Cache α) (id : RecordId) : Option α := c.entries.lookup id

/-- Caches an object unless the id has one; the object that stays comes with the cache. -/
def insert (c : Cache α) (id : RecordId) (a : α) : Cache α × α :=
  match c.find? id with
  | some kept => (c, kept)
  | none => ({ entries := c.entries ++ [(id, a)] }, a)

def size (c : Cache α) : Nat := c.entries.length

theorem insert_of_find? {c : Cache α} {id : RecordId} {kept : α} (h : c.find? id = some kept) (a : α) :
    c.insert id a = (c, kept) := by
  simp [insert, h]

theorem find?_insert_self (c : Cache α) (id : RecordId) (a : α) :
    (c.insert id a).1.find? id = some (c.insert id a).2 := by
  unfold insert
  split
  · assumption
  · next h =>
    have h : c.entries.lookup id = none := h
    simp [find?, List.lookup_append, h]

theorem find?_insert_of_ne {id other : RecordId} (h : other ≠ id) (c : Cache α) (a : α) :
    (c.insert id a).1.find? other = c.find? other := by
  unfold insert
  split
  · rfl
  · simp [find?, List.lookup_append, List.lookup_cons, beq_false_of_ne h]

theorem isSome_find? (c : Cache α) (id : RecordId) :
    (c.find? id).isSome = true ↔ id ∈ c.entries.map Prod.fst := by
  simp [find?]

theorem nodup_insert {c : Cache α} (h : (c.entries.map Prod.fst).Nodup) (id : RecordId) (a : α) :
    ((c.insert id a).1.entries.map Prod.fst).Nodup := by
  unfold insert
  split
  · exact h
  · next hnone =>
    have hnew : id ∉ c.entries.map Prod.fst := by
      rw [← isSome_find?, hnone]
      exact Bool.false_ne_true
    rw [List.map_append, List.map_singleton, List.nodup_append]
    refine ⟨h, List.pairwise_singleton _ _, fun other hother last hlast heq => hnew ?_⟩
    have hlast : last = id := List.mem_singleton.1 hlast
    rw [← hlast, ← heq]
    exact hother

theorem size_insert_of_none {c : Cache α} {id : RecordId} (h : c.find? id = none) (a : α) :
    (c.insert id a).1.size = c.size + 1 := by
  simp [insert, h, size]

end Cache

end KernelStats
