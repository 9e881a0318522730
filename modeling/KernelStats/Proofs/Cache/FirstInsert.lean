import KernelStats.Cache
import KernelStats.Proofs.Lists
import Mathlib.Data.List.DropRight

/-!
# The first insert wins

What is done with a cache can be told from its inserts since it was last cleared, and of these only the first
for each record id counts. `Remembers` says so of a cache and a list of inserts; every operation keeps it, and
everything else follows from it: what is found, what an insert hands back, how many objects there are, and
that inserts for different ids may come in any order.
-/

namespace KernelStats

namespace Cache

variable {α : Type}

inductive Operation (α : Type) where
  | find (id : RecordId)
  | insert (id : RecordId) (a : α)
  | clear
  | size

namespace Operation

def isClear : Operation α → Bool
  | clear => true
  | _ => false

def entry? : Operation α → Option (RecordId × α)
  | insert id a => some (id, a)
  | _ => none

end Operation

/-- The cache after an operation. To look something up or to count changes nothing. -/
def apply (c : Cache α) : Operation α → Cache α
  | .insert id a => (c.insert id a).1
  | .clear => empty
  | .find _ | .size => c

def after (ops : List (Operation α)) : Cache α := ops.foldl apply empty

/-- The inserts behind the last clear, in order. -/
def recent (ops : List (Operation α)) : List (RecordId × α) :=
  (ops.rtakeWhile fun op => !op.isClear).filterMap Operation.entry?

/-- On a list of inserts, the first for an id is that of an object. -/
def FirstFor (inserts : List (RecordId × α)) (id : RecordId) (a : α) : Prop :=
  ∃ before behind, inserts = before ++ (id, a) :: behind ∧ ∀ entry ∈ before, entry.1 ≠ id

/-- What a caller finds who takes an absent object for none. -/
def found (c : Cache (Option α)) (id : RecordId) : Option α := (c.find? id).join

/-! ### Lists of inserts -/

section

variable {inserts : List (RecordId × α)} {id : RecordId} {a : α}

theorem lookup_eq_some_iff : inserts.lookup id = some a ↔ FirstFor inserts id a := by
  simp only [List.lookup_eq_some_iff, FirstFor, bne_iff_ne, ne_comm]

theorem isSome_lookup : (inserts.lookup id).isSome = true ↔ id ∈ inserts.map Prod.fst :=
  isSome_find? { entries := inserts } id

theorem lookup_eq_none_iff : inserts.lookup id = none ↔ id ∉ inserts.map Prod.fst := by
  rw [← isSome_lookup, Option.not_isSome_iff_eq_none]

theorem lookup_filter (inserts : List (RecordId × α)) (id : RecordId) :
    (inserts.filter (·.1 = id)).lookup id = inserts.lookup id := by
  induction inserts with
  | nil => rfl
  | cons entry inserts ih =>
    obtain ⟨other, a⟩ := entry
    by_cases hid : other = id
    · subst hid
      simp
    · rw [List.filter_cons_of_neg (by simpa using hid), ih, List.lookup_cons, beq_false_of_ne (Ne.symm hid)]

end

theorem recent_concat (ops : List (Operation α)) (op : Operation α) :
    recent (ops ++ [op]) = if op.isClear then [] else recent ops ++ op.entry?.toList := by
  rw [recent, List.rtakeWhile_concat]
  cases op with
  | clear => rfl
  | insert id a => exact List.filterMap_append
  | find id => exact List.filterMap_append
  | size => exact List.filterMap_append

/-! ### What a cache remembers -/

/-- A cache has the object of the first insert for each id, and nothing twice. -/
structure Remembers (c : Cache α) (inserts : List (RecordId × α)) : Prop where
  find? : ∀ id, c.find? id = inserts.lookup id
  nodup : (c.entries.map Prod.fst).Nodup

namespace Remembers

variable {c : Cache α} {inserts : List (RecordId × α)}

theorem empty : (Cache.empty : Cache α).Remembers [] where
  find? _ := rfl
  nodup := List.nodup_nil

theorem insert (h : c.Remembers inserts) (id : RecordId) (a : α) :
    (c.insert id a).1.Remembers (inserts ++ [(id, a)]) where
  find? other := by
    rw [List.lookup_append, ← h.find? other]
    by_cases hother : other = id
    · subst hother
      rw [find?_insert_self, Cache.insert]
      cases c.find? other with
      | none => simp
      | some kept => rfl
    · rw [find?_insert_of_ne hother, List.lookup_cons, beq_false_of_ne hother, List.lookup_nil, Option.or_none]
  nodup := nodup_insert h.nodup id a

theorem size (h : c.Remembers inserts) : c.size = (inserts.map Prod.fst).dedup.length := by
  have hmem : ∀ id, id ∈ c.entries.map Prod.fst ↔ id ∈ inserts.map Prod.fst := by
    intro id
    rw [← isSome_find?, h.find? id, isSome_lookup]
  rw [← length_eq_dedup h.nodup hmem, List.length_map, Cache.size]

/-- Only the order of inserts for one id matters. -/
theorem congr (h : c.Remembers inserts) {inserts' : List (RecordId × α)}
    (hsame : ∀ id, inserts'.filter (·.1 = id) = inserts.filter (·.1 = id)) : c.Remembers inserts' where
  find? id := by rw [h.find? id, ← lookup_filter inserts id, ← hsame id, lookup_filter]
  nodup := h.nodup

theorem insert_eq (h : c.Remembers inserts) {id : RecordId} {kept : α} (hfirst : FirstFor inserts id kept) (a : α) :
    c.insert id a = (c, kept) :=
  insert_of_find? ((h.find? id).trans (lookup_eq_some_iff.2 hfirst)) a

theorem insert_new (h : c.Remembers inserts) {id : RecordId} (hnew : id ∉ inserts.map Prod.fst) (a : α) :
    (c.insert id a).2 = a := by
  rw [Cache.insert, h.find? id, lookup_eq_none_iff.2 hnew]

end Remembers

/-- Whatever was done, the cache remembers the inserts behind the last clear. -/
theorem remembers_after (ops : List (Operation α)) : (after ops).Remembers (recent ops) := by
  induction ops using List.reverseRecOn with
  | nil => exact .empty
  | append_singleton ops op ih =>
    have hstep : after (ops ++ [op]) = (after ops).apply op := List.foldl_concat ..
    rw [hstep, recent_concat]
    cases op with
    | find id => exact (List.append_nil (recent ops)).symm ▸ ih
    | insert id a => exact ih.insert id a
    | clear => exact .empty
    | size => exact (List.append_nil (recent ops)).symm ▸ ih

/-- **The first insert wins.** After any operations, what is found for a record id is the object of the first
insert for it since the last clear, be it an absent one, and nothing if there was no insert. An insert hands back
what is found directly after it. That is the object of an earlier insert for the id since the last clear, and then
nothing changes; if there was none, it is the one that was put in. Other ids are not affected. As many objects are
counted as there are different ids among the inserts since the last clear. How inserts for different ids were
interleaved does not matter. Record ids are equal if their keys are, and then have equal hashes. -/
theorem first_insert_wins (ops : List (Operation (Option α))) :
    let c := after ops
    let inserts := recent ops
    (∀ id, (∀ o, FirstFor inserts id o → c.found id = o) ∧
      (id ∉ inserts.map Prod.fst → c.found id = none)) ∧
    (∀ id o, (c.insert id o).2 = (c.insert id o).1.found id ∧
      (∀ kept, FirstFor inserts id kept → c.insert id o = (c, kept)) ∧
      (id ∉ inserts.map Prod.fst → (c.insert id o).2 = o) ∧
      ∀ other, other ≠ id → (c.insert id o).1.find? other = c.find? other) ∧
    c.size = (inserts.map Prod.fst).dedup.length ∧
    (∀ ops', (∀ id, (recent ops').filter (·.1 = id) = inserts.filter (·.1 = id)) →
      (∀ id, (after ops').find? id = c.find? id) ∧ (after ops').size = c.size) ∧
    ∀ id id' : RecordId, ((id == id') = true ↔ id.key = id'.key) ∧ ((id == id') = true → id.hash = id'.hash) := by
  intro c inserts
  have h : c.Remembers inserts := remembers_after ops
  refine ⟨fun id => ⟨fun o hfirst => ?_, fun hnew => ?_⟩, fun id o => ⟨?_, fun kept hfirst => h.insert_eq hfirst o,
    fun hnew => h.insert_new hnew o, fun other hother => find?_insert_of_ne hother c o⟩, h.size, fun ops' hsame => ?_,
    fun id id' => ⟨?_, fun heq => ?_⟩⟩
  · rw [found, h.find? id, lookup_eq_some_iff.2 hfirst, Option.join_some]
  · rw [found, h.find? id, lookup_eq_none_iff.2 hnew, Option.join_none]
  · rw [found, find?_insert_self, Option.join_some]
  · have h' : (after ops').Remembers (recent ops') := remembers_after ops'
    have hmoved : c.Remembers (recent ops') := h.congr hsame
    exact ⟨fun id => (h'.find? id).trans (hmoved.find? id).symm, h'.size.trans hmoved.size.symm⟩
  · rw [beq_iff_eq]
    exact ⟨congrArg RecordId.key, fun hkey => by cases id; cases id'; cases hkey; rfl⟩
  · rw [beq_iff_eq.1 heq]

/-- An absent object is kept like any other, what was there before a clear is forgotten, and it does not matter
that the other id comes in between. -/
theorem first_insert_wins_although_absent :
    let one : RecordId := ⟨1⟩
    let two : RecordId := ⟨2⟩
    let ops : List (Operation (Option Nat)) :=
      [.insert one (some 3), .clear, .insert one none, .find one, .insert two (some 5), .insert one (some 7), .size]
    let ops' : List (Operation (Option Nat)) := [.insert two (some 5), .insert one none, .insert one (some 7)]
    FirstFor (recent ops) one none ∧ (after ops).found one = none ∧
      (after ops).insert one (some 8) = (after ops, none) ∧ (after ops).size = 2 ∧
      (∀ id, (recent ops').filter (·.1 = id) = (recent ops).filter (·.1 = id)) ∧
      (after ops').find? two = (after ops).find? two ∧ (after ops').size = 2 := by
  intro one two ops ops'
  have hops : recent ops = [(one, none), (two, some 5), (one, some 7)] := rfl
  have hops' : recent ops' = [(two, some 5), (one, none), (one, some 7)] := rfl
  have hfirst : FirstFor (recent ops) one none := ⟨[], _, hops, by simp⟩
  have hsame : ∀ id, (recent ops').filter (·.1 = id) = (recent ops).filter (·.1 = id) := by
    intro id
    rw [hops, hops']
    by_cases hone : one = id
    · subst hone
      rfl
    · simp [List.filter_cons, hone]
  obtain ⟨hfound, hinsert, hsize, hordered, -⟩ := first_insert_wins ops
  have hcount : (after ops).size = 2 := by
    rw [hsize]
    decide
  obtain ⟨hfind, hequal⟩ := hordered ops' hsame
  exact ⟨hfirst, (hfound one).1 none hfirst, (hinsert one (some 8)).2.1 none hfirst, hcount, hsame, hfind two,
    hequal.trans hcount⟩

end Cache

end KernelStats
