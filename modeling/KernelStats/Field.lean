import KernelStats.Bytes

/-!
# Fields of fixed width

A field holds exactly `n` bytes. Writing a text over its front leaves the tail alone and drops what
does not fit; reading its text stops at a NUL, or at the width when there is none. A full field is
therefore a text without a terminator, and that is a legal state.
-/

namespace KernelStats

structure Field (n : Nat) where
  bytes : Bytes
  length_bytes : bytes.length = n
  deriving DecidableEq

namespace Field

def zero {n : Nat} : Field n := ⟨List.replicate n 0, by simp⟩

/-- Overwrites the front of the field, as far as the field goes. -/
def write {n : Nat} (f : Field n) (s : Bytes) : Field n :=
  ⟨s.take n ++ f.bytes.drop s.length, by simp [f.length_bytes]; omega⟩

/-- The text in the field, which a NUL or the width ends. -/
def text {n : Nat} (f : Field n) : Bytes := f.bytes.upToNul

def ofBytes (n : Nat) (s : Bytes) : Field n := zero.write s

@[ext] theorem ext {n : Nat} {f g : Field n} (h : f.bytes = g.bytes) : f = g := by
  cases f; cases g; simpa using h

@[simp] theorem write_self {n : Nat} (f g : Field n) : f.write g.bytes = g := by
  ext1
  simp [write, f.length_bytes, g.length_bytes, List.take_of_length_le]

end Field

end KernelStats
