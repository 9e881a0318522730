import KernelStats.Proofs.Handle.Lookups

/-!
# Names in fields

The system library keeps names in fields of 31 bytes and compares them as terminated texts, while the
chain itself holds and compares whole byte strings. The two ways agree on names that fit a field and
hold no NUL, and on record names that leave room for a terminator, whatever they are compared with.
-/

namespace KernelStats

namespace Bytes

structure Fits (s : Bytes) : Prop where
  nul : (0 : UInt8) ∉ s
  short : s.length ≤ nameSize

instance (s : Bytes) : Decidable s.Fits :=
  decidable_of_iff ((0 : UInt8) ∉ s ∧ s.length ≤ nameSize) ⟨fun h => ⟨h.1, h.2⟩, fun h => ⟨h.nul, h.short⟩⟩

theorem length_bounded_le (size : Nat) (s : Bytes) : (s.bounded size).length ≤ size :=
  Nat.le_trans (upToNul_length_le _) (List.length_take_le _ _)

/-- Which of the two cuts comes first makes no difference. -/
theorem bounded_eq_take (size : Nat) (s : Bytes) : s.bounded size = s.upToNul.take size :=
  List.take_takeWhile.symm

theorem Fits.bounded {s : Bytes} (h : s.Fits) : s.bounded nameSize = s := by
  rw [Bytes.bounded, List.take_of_length_le h.short, upToNul_of_not_mem h.nul]

end Bytes

theorem Field.text_of_fits {s : Bytes} (h : s.Fits) : (ofBytes nameSize s).text = s :=
  (text_ofBytes nameSize s).trans h.bounded

namespace Record

/-- A record whose name leaves room for a terminator in its field. -/
def Terminated (r : Record) : Prop := r.name.text.length < nameSize

instance (r : Record) : Decidable r.Terminated := inferInstanceAs (Decidable (_ < _))

/-- Only a terminated name keeps a longer one from being taken for it. -/
theorem Terminated.text_eq_bounded_iff {r : Record} (hr : r.Terminated) {name : Bytes}
    (hname : (0 : UInt8) ∉ name) : r.name.text = name.bounded nameSize ↔ r.name.text = name := by
  have hnul : (0 : UInt8) ∉ name.take nameSize := fun hmem => hname (List.mem_of_mem_take hmem)
  rw [Bytes.bounded, Bytes.upToNul_of_not_mem hnul]
  by_cases hshort : name.length ≤ nameSize
  · rw [List.take_of_length_le hshort]
  · have hlong : nameSize ≤ name.length := Nat.le_of_not_le hshort
    have hfull : (name.take nameSize).length = nameSize := List.length_take_of_le hlong
    constructor
    · intro heq
      rw [Terminated, heq, hfull] at hr
      exact absurd hr (Nat.lt_irrefl _)
    · intro heq
      rw [Terminated, heq] at hr
      exact absurd hlong (Nat.not_le_of_lt hr)

theorem text_named (name : Bytes) (type : DataType) :
    (named name type).name.text = name.bounded (nameSize - 1) := by
  have hlength := Bytes.length_bounded_le (nameSize - 1) name
  exact Field.text_of_fits ⟨Bytes.zero_not_mem_upToNul _, Nat.le_trans hlength (Nat.sub_le _ _)⟩

end Record

end KernelStats
