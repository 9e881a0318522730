import Mathlib.Data.List.Count
import Mathlib.Data.List.Dedup
import Mathlib.Data.List.Forall2

/-!
# Lists that change in place

Tables of this library are lists that are read and changed by position. Beside what is known of such
lists anyway, it is used that a change which a view does not see leaves the viewed list as it was, that
two lists which are related element by element are found and changed alike, that the entries with a given
value can be counted by their positions, and that a list without repetition is as long as any list with the
same entries is without its repetitions.
-/

namespace KernelStats

theorem map_modify {α β : Type} (view : α → β) {f : α → α} (hview : ∀ a, view (f a) = view a)
    (l : List α) (i : Nat) : (l.modify i f).map view = l.map view := by
  apply List.ext_getElem?
  intro j
  rw [List.getElem?_map, List.getElem?_map]
  by_cases hij : i = j
  · subst hij
    simp [List.getElem?_modify_eq, Function.comp_def, hview]
  · rw [List.getElem?_modify_ne _ _ hij]

/-- The entries with a given value, counted by their positions. -/
theorem countP_positions {α : Type} [DecidableEq α] (l : List α) (a : α) :
    ((List.range l.length).countP fun i => l[i]? = some a) = l.count a := by
  induction l with
  | nil => rfl
  | cons b l ih =>
    rw [List.length_cons, List.range_succ_eq_map, List.countP_cons, List.countP_map, List.count_cons,
      ← ih]
    simp [Function.comp_def]

theorem length_eq_dedup {α : Type} [DecidableEq α] {xs ys : List α} (hnodup : xs.Nodup)
    (hmem : ∀ a, a ∈ xs ↔ a ∈ ys) : xs.length = ys.dedup.length := by
  have hsame : ∀ a, a ∈ xs ↔ a ∈ ys.dedup := fun a => (hmem a).trans List.mem_dedup.symm
  exact ((List.perm_ext_iff_of_nodup hnodup (List.nodup_dedup ys)).2 hsame).length_eq

section

variable {α β : Type} {R : α → β → Prop} {xs : List α} {ys : List β}

theorem getElem?_of_forall₂ (h : List.Forall₂ R xs ys) (i : Nat) :
    (xs[i]? = none ∧ ys[i]? = none) ∨ ∃ x y, xs[i]? = some x ∧ ys[i]? = some y ∧ R x y := by
  induction h generalizing i with
  | nil => exact .inl ⟨rfl, rfl⟩
  | @cons x y xs ys hxy _ ih =>
    cases i with
    | zero => exact .inr ⟨x, y, rfl, rfl, hxy⟩
    | succ i => exact ih i

theorem findIdx?_of_forall₂ (h : List.Forall₂ R xs ys) {p : α → Bool} {q : β → Bool}
    (hpq : ∀ x y, R x y → p x = q y) : xs.findIdx? p = ys.findIdx? q := by
  induction h with
  | nil => rfl
  | @cons x y xs ys hxy _ ih => rw [List.findIdx?_cons, List.findIdx?_cons, hpq x y hxy, ih]

theorem find?_of_forall₂ (h : List.Forall₂ R xs ys) {p : α → Bool} {q : β → Bool}
    (hpq : ∀ x y, R x y → p x = q y) :
    (xs.find? p = none ∧ ys.find? q = none) ∨
      ∃ x y, xs.find? p = some x ∧ ys.find? q = some y ∧ R x y := by
  induction h with
  | nil => exact .inl ⟨rfl, rfl⟩
  | @cons x y xs ys hxy _ ih =>
    rw [List.find?_cons, List.find?_cons, ← hpq x y hxy]
    cases p x with
    | true => exact .inr ⟨x, y, rfl, rfl, hxy⟩
    | false => exact ih

theorem modify_of_forall₂ (h : List.Forall₂ R xs ys) (i : Nat) {f : α → α} {g : β → β}
    (hfg : ∀ x y, xs[i]? = some x → ys[i]? = some y → R x y → R (f x) (g y)) :
    List.Forall₂ R (xs.modify i f) (ys.modify i g) := by
  induction h generalizing i with
  | nil => simp
  | @cons x y xs ys hxy hrest ih =>
    cases i with
    | zero =>
      rw [List.modify_zero_cons, List.modify_zero_cons]
      exact .cons (hfg x y rfl rfl hxy) hrest
    | succ i =>
      rw [List.modify_succ_cons, List.modify_succ_cons]
      exact .cons hxy (ih i hfg)

end

end KernelStats
