/-!
# Record ids

A handle names the kstats of its chain by ids. Outside the handle an id can only be compared and
hashed; inside, its key is a position that starts at one, and zero is no position.
-/

namespace KernelStats

structure RecordId where
  key : Nat := 0
  deriving DecidableEq, Repr, Inhabited

namespace RecordId

/-- Equal ids have equal hashes. -/
def hash (id : RecordId) : UInt64 := UInt64.ofNat id.key

instance : Hashable RecordId := ⟨hash⟩

def ofIndex (i : Nat) : RecordId := ⟨i + 1⟩

def get? {α : Type} (id : RecordId) (xs : List α) : Option α :=
  match id.key with
  | 0 => none
  | i + 1 => xs[i]?

def update {α : Type} (id : RecordId) (f : α → α) (xs : List α) : List α :=
  match id.key with
  | 0 => xs
  | i + 1 => xs.modify i f

def first? (length : Nat) : Option RecordId := if 0 < length then some ⟨1⟩ else none

def next? (length : Nat) (id : RecordId) : Option RecordId :=
  if id.key < length then some ⟨id.key + 1⟩ else none

theorem key_of_next? {length : Nat} {id next : RecordId} (h : id.next? length = some next) :
    next.key = id.key + 1 ∧ id.key < length := by
  unfold next? at h
  split at h
  · next hlt => cases h; exact ⟨rfl, hlt⟩
  · cases h

/-- The ids from a given one to the end of a chain, one step after the other. -/
def walk (length : Nat) (id : RecordId) : List RecordId :=
  match _h : id.next? length with
  | some next => id :: walk length next
  | none => [id]
termination_by length - id.key
decreasing_by
  obtain ⟨hkey, hlt⟩ := key_of_next? ‹_›
  omega

@[simp] theorem get?_ofIndex {α : Type} (i : Nat) (xs : List α) : (ofIndex i).get? xs = xs[i]? := rfl

theorem length_update {α : Type} (id : RecordId) (f : α → α) (xs : List α) :
    (id.update f xs).length = xs.length := by
  unfold update
  split <;> simp

end RecordId

end KernelStats
