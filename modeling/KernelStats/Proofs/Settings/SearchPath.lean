import KernelStats.Settings.SearchPath
import Mathlib.Data.List.Basic
import Mathlib.Data.List.Induction

/-!
# The search path

Directories that come up twice are searched once. A search stops at the first directory that has what is
looked for, so a directory that did not have it the first time does not have it the second time either,
and leaving the repetition out changes nothing but the time that the search takes. What is left are the
same directories, in the order in which each came up first.
-/

namespace KernelStats.Settings

variable {α : Type}

/-! ### Lists without their repetitions -/

theorem firstOccurrences_concat (paths : List Path) (p : Path) :
    firstOccurrences (paths ++ [p]) =
      if p ∈ firstOccurrences paths then firstOccurrences paths else firstOccurrences paths ++ [p] :=
  List.foldl_concat ..

theorem mem_firstOccurrences {paths : List Path} {p : Path} : p ∈ firstOccurrences paths ↔ p ∈ paths := by
  induction paths using List.reverseRecOn with
  | nil => rfl
  | append_singleton paths q ih =>
    rw [firstOccurrences_concat, List.mem_append, List.mem_singleton, ← ih]
    split
    · next hq => exact ⟨.inl, fun h => h.elim id fun heq => heq ▸ hq⟩
    · rw [List.mem_append, List.mem_singleton]

theorem pairwise_firstOccurrences (paths : List Path) :
    (firstOccurrences paths).Pairwise fun p q => paths.idxOf p < paths.idxOf q := by
  induction paths using List.reverseRecOn with
  | nil => exact .nil
  | append_singleton paths q ih =>
    have hkept : (firstOccurrences paths).Pairwise fun p p' =>
        (paths ++ [q]).idxOf p < (paths ++ [q]).idxOf p' := by
      refine ih.imp_of_mem fun {p p'} hp hp' hlt => ?_
      rwa [List.idxOf_append_of_mem (mem_firstOccurrences.1 hp),
        List.idxOf_append_of_mem (mem_firstOccurrences.1 hp')]
    rw [firstOccurrences_concat]
    split
    · exact hkept
    · next hq =>
      have hnew : q ∉ paths := hq ∘ mem_firstOccurrences.2
      rw [List.pairwise_append]
      refine ⟨hkept, List.pairwise_singleton _ _, fun p hp q' hq' => ?_⟩
      have hp : p ∈ paths := mem_firstOccurrences.1 hp
      rw [List.mem_singleton.1 hq', List.idxOf_append_of_mem hp, List.idxOf_append_of_notMem hnew]
      exact Nat.lt_add_right _ (List.idxOf_lt_length_of_mem hp)

theorem nodup_firstOccurrences (paths : List Path) : (firstOccurrences paths).Nodup :=
  (pairwise_firstOccurrences paths).imp fun {p q} hlt => by
    rintro rfl
    exact Nat.lt_irrefl _ hlt

/-- What a search finds is not changed by repetitions. -/
theorem findSome?_firstOccurrences (f : Path → Option α) (paths : List Path) :
    (firstOccurrences paths).findSome? f = paths.findSome? f := by
  induction paths using List.reverseRecOn with
  | nil => rfl
  | append_singleton paths p ih =>
    rw [firstOccurrences_concat, List.findSome?_append, ← ih]
    split
    · next hmem =>
      cases hfound : (firstOccurrences paths).findSome? f with
      | some a => rfl
      | none => rw [List.findSome?_singleton, List.findSome?_eq_none_iff.1 hfound p hmem, Option.or_none]
    · rw [List.findSome?_append]

theorem find?_firstOccurrences (f : Path → Bool) (paths : List Path) :
    (firstOccurrences paths).find? f = paths.find? f := by
  rw [List.find?_eq_findSome?_guard, List.find?_eq_findSome?_guard, findSome?_firstOccurrences]

/-! ### The settings file that is found -/

/-- The directories whose settings file a program may load, in the order of the search and with all
repetitions. -/
def searchedDirectories (cwd executable : Option Path) (extra : List Route) : List Route :=
  (cwd.toList.flatMap lineage ++ executable.toList.flatMap lineage).map .absolute ++ extra

theorem settings?_searchRoots (t : FileTree) (cwd executable : Option Path) (extra : List Route) :
    t.settings? cwd ((searchRoots cwd executable).map .absolute ++ extra) =
      t.settings? cwd (searchedDirectories cwd executable extra) := by
  unfold FileTree.settings? searchRoots searchedDirectories
  rw [List.findSome?_append, List.findSome?_map, findSome?_firstOccurrences, List.flatMap_append,
    ← List.findSome?_map, ← List.findSome?_append]

/-! ### Paths as texts -/

namespace Path

/-- A path as the system reads it: a slash before each name, and one alone for the root. -/
def text (p : Path) : Bytes := if p = [] then [slash] else p.flatMap fun name => slash :: name

theorem head?_text (p : Path) : p.text.head? = some slash := by
  unfold text
  cases p with
  | nil => rfl
  | cons name rest => rfl

theorem parent_eq_self_iff (p : Path) : p.parent = p ↔ p = [] := by
  refine ⟨fun h => ?_, fun h => h ▸ rfl⟩
  have hlength : p.length - 1 = p.length := by rw [← List.length_dropLast, ← parent, h]
  exact List.eq_nil_of_length_eq_zero (by omega)

end Path

/-- **Leaving repetitions out does not change the search.** The directories that are searched are those that lie
in the line of the working directory or of the executable's, each once, in the order in which they come up first.
The root, and nothing else, is its own parent, so a line never leads above it and no path is empty. Whichever files
there are, and wherever the search goes on, the first settings file along these directories is the first one along
both lines with all their repetitions. -/
theorem search_without_repetition (cwd executable : Option Path) :
    let roots := searchRoots cwd executable
    let plain := (cwd.toList ++ executable.toList).flatMap fun d => [d, d.parent, d.parent.parent]
    roots.Nodup ∧ (∀ d ∈ roots, d.text.head? = some Path.slash) ∧ (∀ d, d ∈ roots ↔ d ∈ plain) ∧
    (roots.Pairwise fun d e => plain.idxOf d < plain.idxOf e) ∧ (∀ d : Path, d.parent = d ↔ d = []) ∧
    ∀ extra : List Route,
      (∀ present : Route → Bool,
        ((roots.map Route.absolute ++ extra).find? fun d => present (d.child settingsName)) =
          (plain.map Route.absolute ++ extra).find? fun d => present (d.child settingsName)) ∧
      ∀ t : FileTree, t.settings? cwd (roots.map Route.absolute ++ extra) =
        t.settings? cwd (plain.map Route.absolute ++ extra) := by
  intro roots plain
  have hroots : roots = firstOccurrences plain := rfl
  refine ⟨nodup_firstOccurrences plain, fun d _ => d.head?_text, fun d => mem_firstOccurrences,
    pairwise_firstOccurrences plain, fun d => d.parent_eq_self_iff, fun extra => ⟨fun present => ?_, fun t => ?_⟩⟩
  · rw [List.find?_append, List.find?_append, List.find?_map, List.find?_map, hroots, find?_firstOccurrences]
  · rw [settings?_searchRoots, searchedDirectories, ← List.flatMap_append]
    rfl

/-- The executable lies right above the working directory, so its whole line comes up again, and the relative path
leads to it once more. Only the root has a settings file. -/
theorem search_without_repetition_of_nested :
    let work : Path := [utf8 "work"]
    let deep : Path := [utf8 "work", utf8 "deep"]
    let roots := searchRoots (some deep) (some work)
    let plain : List Path := [deep, work, [], work, [], []]
    let extra : List Route := [.relative [Path.up]]
    let present := fun file : Route => decide (file = .absolute [settingsName])
    roots = [deep, work, []] ∧ roots.Nodup ∧ [] ∈ roots ∧ (Path.text []).head? = some Path.slash ∧
      ((roots.map Route.absolute ++ extra).find? fun d => present (d.child settingsName)) = some (.absolute []) ∧
      (plain.map Route.absolute ++ extra).find? (fun d => present (d.child settingsName)) = some (.absolute []) := by
  intro work deep roots plain extra present
  obtain ⟨hnodup, habsolute, hmem, -, -, hsearch⟩ := search_without_repetition (some deep) (some work)
  have hroot : [] ∈ roots := (hmem []).2 (show [] ∈ plain by decide)
  have hplain : (plain.map Route.absolute ++ extra).find? (fun d => present (d.child settingsName)) =
      some (.absolute []) := by decide
  exact ⟨by decide, hnodup, hroot, habsolute [] hroot, ((hsearch extra).1 present).trans hplain, hplain⟩

end KernelStats.Settings
