import KernelStats.Proofs.Settings.Grammar
import KernelStats.Settings.Environment

/-!
# Variables and what a settings file does to them

A name without an equals sign stands for one variable, so of the texts of an environment exactly those
that were put there under that name are found under it. A settings file is taken line by line. A line
adds at most one text, and only for a variable that is not set yet; what was there before stays where it
was. From this follows what a variable has after a whole file: what it had, or what the first line for
it gives it.
-/

namespace KernelStats.Settings

/-! ### Lines -/

theorem not_mem_upToNul {b : UInt8} {s : Bytes} (h : b ∉ s) : b ∉ s.upToNul := fun hmem =>
  h ((List.takeWhile_sublist _).subset hmem)

/-- A key ends where the first equals sign of its line stands. -/
theorem equalsSign_not_mem_key {line : Bytes} {a : Assignment} (h : Assignment.ofLine? line = some a) :
    equalsSign ∉ a.key := by
  obtain ⟨written, hform, -⟩ := lineForm_of_ofLine? h
  exact hform.isKey.equals

/-- The value that a line gives to a variable, if the line is for it. Key and value are taken as far as
the system takes them. -/
def assigned? (name line : Bytes) : Option Bytes :=
  match Assignment.ofLine? line with
  | some a => if name ≠ [] ∧ a.key.upToNul = name then some a.value.upToNul else none
  | none => none

def assigns (line : Bytes) : Bool := (Assignment.ofLine? line).any fun a => a.key.upToNul ≠ []

/-! ### Texts -/

theorem valueIn?_variableText {key name : Bytes} (hkey : equalsSign ∉ key) (hname : equalsSign ∉ name)
    (value : Bytes) :
    valueIn? key (variableText name value) = if name = key then some value else none := by
  rw [valueIn?, variableText]
  ext found
  rw [List.isPrefixOf?_eq_some_iff_append_eq, List.append_assoc, List.singleton_append]
  constructor
  · intro heq
    have hnames : key = name := by rw [← (split_at_sign hkey found).1, heq, (split_at_sign hname value).1]
    rw [hnames, List.append_cancel_left_eq, List.cons.injEq] at heq
    rw [if_pos hnames.symm, heq.2]
  · intro heq
    split at heq
    · next hnames =>
      cases heq
      rw [hnames]
    · cases heq

namespace Environment

variable {e e' : Environment} {key name value : Bytes}

theorem get?_eq (e : Environment) (key : Bytes) :
    e.get? key = if key.upToNul = [] then none else e.texts.findSome? (valueIn? key.upToNul) := rfl

theorem get?_of_kept (hkept : e.texts <+: e'.texts) (h : e.get? key = some value) :
    e'.get? key = some value := by
  obtain ⟨added, hadded⟩ := hkept
  rw [get?_eq] at h ⊢
  split at h
  · cases h
  · next hkey => rw [if_neg hkey, ← hadded, List.findSome?_append, h, Option.some_or]

/-! ### Setting what is not set -/

theorem setDefault_of_get? {old : Bytes} (h : e.get? name = some old) (value : Bytes) :
    e.setDefault name value = e := by
  rw [setDefault, h]
  rfl

theorem setDefault_of_unnamed (hname : name.upToNul = []) (value : Bytes) : e.setDefault name value = e := by
  simp [setDefault, set, isName, get?_eq, hname]

/-- A variable that is not set gets a text of its own, behind the others. -/
theorem setDefault_of_unset (hname : name.upToNul ≠ []) (hequals : equalsSign ∉ name.upToNul)
    (hunset : e.get? name = none) (value : Bytes) :
    e.setDefault name value =
      { texts := e.texts ++ [variableText name.upToNul value.upToNul] } := by
  have hnowhere : e.texts.findIdx? (fun text => (valueIn? name.upToNul text).isSome) = none := by
    rw [get?_eq, if_neg hname, List.findSome?_eq_none_iff] at hunset
    rw [List.findIdx?_eq_none_iff]
    intro text htext
    rw [hunset text htext]
    rfl
  simp [setDefault, hunset, set, isName, hname, hequals, hnowhere]

theorem texts_setDefault (e : Environment) (name value : Bytes) (hequals : equalsSign ∉ name.upToNul) :
    e.texts <+: (e.setDefault name value).texts := by
  by_cases hname : name.upToNul = []
  · rw [setDefault_of_unnamed hname]
  · cases hget : e.get? name with
    | some old => rw [setDefault_of_get? hget]
    | none =>
      rw [setDefault_of_unset hname hequals hget]
      exact List.prefix_append _ _

theorem get?_setDefault (e : Environment) (value : Bytes) (hequals : equalsSign ∉ name.upToNul)
    (hkey : equalsSign ∉ key.upToNul) :
    (e.setDefault name value).get? key =
      (e.get? key).or
        (if key.upToNul ≠ [] ∧ name.upToNul = key.upToNul then some value.upToNul else none) := by
  by_cases hname : name.upToNul = []
  · rw [setDefault_of_unnamed hname, hname, if_neg fun h => h.1 h.2.symm, Option.or_none]
  · cases hget : e.get? name with
    | some old =>
      rw [setDefault_of_get? hget]
      split
      · next h =>
        have hsame : e.get? key = some old := by rw [← hget, get?_eq, get?_eq, h.2]
        rw [hsame, Option.some_or]
      · rw [Option.or_none]
    | none =>
      rw [setDefault_of_unset hname hequals hget, get?_eq, get?_eq]
      by_cases hempty : key.upToNul = []
      · simp [hempty]
      · rw [if_neg hempty, if_neg hempty, List.findSome?_append, List.findSome?_singleton,
          valueIn?_variableText hkey hequals]
        simp [hempty]

/-! ### Line by line -/

def take (e : Environment) (line : Bytes) : Environment :=
  match Assignment.ofLine? line with
  | some a => e.setDefault a.key a.value
  | none => e

theorem texts_take (e : Environment) (line : Bytes) : e.texts <+: (e.take line).texts := by
  unfold take
  split
  · next a ha => exact texts_setDefault e _ _ (not_mem_upToNul (equalsSign_not_mem_key ha))
  · exact List.prefix_rfl

theorem get?_take (e : Environment) (line : Bytes) (hkey : equalsSign ∉ key.upToNul) :
    (e.take line).get? key = (e.get? key).or (assigned? key.upToNul line) := by
  unfold take assigned?
  split
  · next a ha => exact get?_setDefault e _ (not_mem_upToNul (equalsSign_not_mem_key ha)) hkey
  · rw [Option.or_none]

theorem take_of_not_assigns {line : Bytes} (h : assigns line = false) (e : Environment) : e.take line = e := by
  unfold take
  split
  · next a ha =>
    have hkey : a.key.upToNul = [] := by simpa [assigns, ha] using h
    exact setDefault_of_unnamed hkey _
  · rfl

theorem load_eq (e : Environment) (text : Bytes) : e.load text = (lines text).foldl take e := by
  rw [load, assignments, List.foldl_filterMap]
  congr 1
  funext e line
  unfold take
  cases Assignment.ofLine? line with
  | some a => rfl
  | none => rfl

theorem texts_load (e : Environment) (text : Bytes) : e.texts <+: (e.load text).texts := by
  rw [load_eq]
  induction lines text generalizing e with
  | nil => exact List.prefix_rfl
  | cons line rest ih => exact (e.texts_take line).trans (ih (e.take line))

/-- After a file, a variable has what it had before, or else what the first line for it gives it. -/
theorem get?_load (e : Environment) (text : Bytes) (hkey : equalsSign ∉ key.upToNul) :
    (e.load text).get? key = (e.get? key).or ((lines text).findSome? (assigned? key.upToNul)) := by
  rw [load_eq]
  induction lines text generalizing e with
  | nil => rw [List.foldl_nil, List.findSome?_nil, Option.or_none]
  | cons line rest ih =>
    rw [List.foldl_cons, ih, get?_take e line hkey, List.findSome?_cons, Option.or_assoc]
    cases assigned? key.upToNul line with
    | some value => rw [Option.some_or]
    | none => rw [Option.none_or]

/-- Only the lines that assign something count. -/
theorem load_congr {text text' : Bytes}
    (h : (lines text').filter assigns = (lines text).filter assigns) (e : Environment) :
    e.load text' = e.load text := by
  have hfilter : ∀ text, e.load text = ((lines text).filter assigns).foldl take e := by
    intro text
    rw [load_eq, List.foldl_filter]
    congr 1
    funext e line
    split
    · rfl
    · next hidle => exact take_of_not_assigns (by simpa using hidle) e
  rw [hfilter, hfilter, h]

end Environment

end KernelStats.Settings
