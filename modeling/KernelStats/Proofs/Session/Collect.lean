import KernelStats.Session

/-!
# Lists of results

A list of statistics is collected position by position, and the first failure ends it. What is collected
depends on the positions that are asked and on nothing else: it is a list if there is a result at each of
them, and otherwise it fails as the first of them that has none.
-/

namespace KernelStats

namespace Session

variable {ε α : Type} {f g : Nat → Except ε α} {n index : Nat}

theorem collect_succ_eq_ok_iff {results : List α} :
    collect f (n + 1) index = .ok results ↔
      ∃ a rest, results = a :: rest ∧ f index = .ok a ∧ collect f n (index + 1) = .ok rest := by
  rw [collect]
  cases f index with
  | error e => simp
  | ok a =>
    cases collect f n (index + 1) with
    | error e => simp
    | ok rest => simp [eq_comm]

theorem collect_succ_eq_error_iff {e : ε} :
    collect f (n + 1) index = .error e ↔
      f index = .error e ∨ (∃ a, f index = .ok a) ∧ collect f n (index + 1) = .error e := by
  rw [collect]
  cases f index with
  | error e => simp
  | ok a =>
    cases collect f n (index + 1) with
    | error e => simp
    | ok rest => simp

/-- A list of results has one result for each position, and each of them is there. -/
theorem collect_eq_ok_iff {results : List α} :
    collect f n index = .ok results ↔
      results.length = n ∧ ∀ i < n, ∃ a, f (index + i) = .ok a ∧ results[i]? = some a := by
  induction n generalizing index results with
  | zero => cases results <;> simp [collect]
  | succ n ih =>
    have hshift : ∀ i, index + 1 + i = index + (i + 1) := fun i => by omega
    rw [collect_succ_eq_ok_iff, Nat.forall_lt_succ_left]
    constructor
    · rintro ⟨a, rest, rfl, hfirst, hrest⟩
      obtain ⟨hlength, hrest⟩ := ih.1 hrest
      refine ⟨by rw [List.length_cons, hlength], ⟨a, hfirst, rfl⟩, fun i hi => ?_⟩
      rw [← hshift]
      exact hrest i hi
    · rintro ⟨hlength, ⟨a, hfirst, ha⟩, hrest⟩
      obtain ⟨first, rest, rfl⟩ := List.exists_cons_of_length_eq_add_one hlength
      obtain rfl : first = a := Option.some.inj ha
      refine ⟨first, rest, rfl, hfirst, ih.2 ⟨Nat.succ_inj.1 hlength, fun i hi => ?_⟩⟩
      rw [hshift]
      exact hrest i hi

theorem collect_eq_error_iff {e : ε} :
    collect f n index = .error e ↔
      ∃ i < n, f (index + i) = .error e ∧ ∀ j < i, ∃ a, f (index + j) = .ok a := by
  induction n generalizing index with
  | zero => simp [collect]
  | succ n ih =>
    have hshift : ∀ i, index + 1 + i = index + (i + 1) := fun i => by omega
    rw [collect_succ_eq_error_iff, Nat.exists_lt_succ_left, ih]
    simp only [Nat.forall_lt_succ_left, hshift, Nat.add_zero]
    constructor
    · rintro (hfirst | ⟨hok, i, hi, hf, hbefore⟩)
      · exact .inl ⟨hfirst, nofun⟩
      · exact .inr ⟨i, hi, hf, hok, hbefore⟩
    · rintro (⟨hfirst, -⟩ | ⟨i, hi, hf, hok, hbefore⟩)
      · exact .inl hfirst
      · exact .inr ⟨hok, i, hi, hf, hbefore⟩

theorem mem_collect {results : List α} (h : collect f n index = .ok results) {a : α} (ha : a ∈ results) :
    ∃ i, f i = .ok a := by
  obtain ⟨hlength, hall⟩ := collect_eq_ok_iff.1 h
  obtain ⟨i, hi⟩ := List.getElem?_of_mem ha
  have hlt := (List.getElem?_eq_some_iff.1 hi).1
  obtain ⟨a', hf, ha'⟩ := hall i (hlength ▸ hlt)
  cases hi.symm.trans ha'
  exact ⟨index + i, hf⟩

/-- Only what is asked on the way decides what is collected. -/
theorem collect_congr (hfg : ∀ i, index ≤ i → i < index + n → f i = g i) :
    collect f n index = collect g n index := by
  induction n generalizing index with
  | zero => rfl
  | succ n ih =>
    have hfirst : f index = g index := hfg index (Nat.le_refl _) (by omega)
    have hrest : collect f n (index + 1) = collect g n (index + 1) :=
      ih fun i hle hlt => hfg i (by omega) (by omega)
    simp only [collect, hfirst, hrest]

theorem collect_eq_mapM {β : Type} {xs : List β} {g : β → Except ε α}
    (hfg : ∀ i x, xs[i]? = some x → f (index + i) = g x) :
    collect f xs.length index = xs.mapM g := by
  induction xs generalizing index with
  | nil => rfl
  | cons x xs ih =>
    have hfirst : f index = g x := hfg 0 x rfl
    have hrest : collect f xs.length (index + 1) = xs.mapM g := by
      apply ih
      intro i y hy
      rw [Nat.add_assoc, Nat.add_comm 1]
      exact hfg (i + 1) y hy
    rw [List.mapM_cons, List.length_cons, collect, hfirst, hrest]
    cases g x with
    | error e => rfl
    | ok a => cases xs.mapM g <;> rfl

end Session

end KernelStats
