import KernelStats.Proofs.Settings.SearchPath
import KernelStats.Proofs.Settings.Variables
import KernelStats.Settings.Program
import Mathlib

/-!
# The first load

The first load of a program takes one settings file at most, the first on its search path, and adds to
the environment what the lines of that file assign. No variable changes that was set before, be it to the
empty text, and of several lines for one variable the first counts.
-/

namespace KernelStats.Settings

/-- Some directory of a list holds a settings file with a content, and none before it holds one. -/
def FileTree.FirstSettings (t : FileTree) (cwd : Option Path) (directories : List Route) (text : Bytes) : Prop :=
  ∃ before directory behind, directories = before ++ directory :: behind ∧
    t.content? cwd (directory.child settingsName) = some text ∧
    ∀ other ∈ before, t.content? cwd (other.child settingsName) = none

theorem FileTree.settings?_eq_some_iff {t : FileTree} {cwd : Option Path} {directories : List Route}
    {text : Bytes} : t.settings? cwd directories = some text ↔ t.FirstSettings cwd directories text :=
  List.findSome?_eq_some_iff

namespace Program

variable {p : Program} {extra : List Route}

def searched (p : Program) (extra : List Route) : List Route :=
  searchedDirectories p.cwd p.executable extra

theorem environment_load_of_none (hnone : p.files.settings? p.cwd (p.searched extra) = none) :
    (p.load extra).environment = p.environment := by
  unfold load
  rw [settings?_searchRoots, ← searched, hnone]
  split <;> rfl

theorem environment_load_of_some (hfresh : p.loaded = false) {text : Bytes}
    (hfirst : p.files.FirstSettings p.cwd (p.searched extra) text) :
    (p.load extra).environment = p.environment.load text := by
  unfold load
  rw [hfresh, settings?_searchRoots, ← searched, FileTree.settings?_eq_some_iff.2 hfirst]
  rfl

/-- **What the first load does to the environment.** If no directory on the search path has a settings
file, it does nothing. Otherwise the first one that has it decides: a variable has what it had before, or
else what the first line for it assigns, or else it is not set. A name of a variable holds no equals
sign. Neither other files matter nor, in that file, lines that assign nothing. -/
theorem environment_of_first_load (p : Program) (hfresh : p.loaded = false) (extra : List Route) :
    let before := p.environment
    let after := (p.load extra).environment
    ((∀ directory ∈ p.searched extra, p.files.content? p.cwd (directory.child settingsName) = none) →
      after = before) ∧
    ∀ text, p.files.FirstSettings p.cwd (p.searched extra) text →
      (∀ name value, before.get? name = some value → after.get? name = some value) ∧
      (∀ name, equalsSign ∉ name.upToNul → before.get? name = none →
        after.get? name = (lines text).findSome? (assigned? name.upToNul)) ∧
      (∀ files text', files.FirstSettings p.cwd (p.searched extra) text' →
        (lines text').filter assigns = (lines text).filter assigns →
        ({ p with files }.load extra).environment = after) := by
  intro before after
  refine ⟨fun hnone => environment_load_of_none (List.findSome?_eq_none_iff.2 hnone), fun text hfirst => ?_⟩
  have hafter : after = before.load text := environment_load_of_some hfresh hfirst
  refine ⟨fun name value hset => ?_, fun name hname hunset => ?_, fun files text' hfirst' hlines => ?_⟩
  · rw [hafter]
    exact Environment.get?_of_kept (before.texts_load text) hset
  · rw [hafter, before.get?_load text hname, hunset, Option.none_or]
  · have hother : ({ p with files }.load extra).environment = before.load text' :=
      environment_load_of_some (p := { p with files }) hfresh hfirst'
    rw [hother, hafter]
    exact Environment.load_congr hlines before

/-- The file is in the parent of the working directory. A variable that is set to the empty text keeps
it, of two lines the first counts, and what assigns nothing does not end the file. -/
theorem environment_of_first_load_from_parent :
    let content := utf8 "A=from file\nno assignment\n=orphan\nB = \"two\"\nB=three"
    let files : FileTree :=
      { nodes := [([utf8 "work"], .directory), ([utf8 "work", utf8 "a"], .directory),
          ([utf8 "work", settingsName], .file content)] }
    let p : Program :=
      { environment := .ofPairs [(utf8 "A", [])], files, cwd := some [utf8 "work", utf8 "a"] }
    let after := (p.load []).environment
    p.loaded = false ∧ p.files.FirstSettings p.cwd (p.searched []) content ∧
      after.get? (utf8 "A") = some [] ∧ after.get? (utf8 "B") = some (utf8 "two") ∧
      after.get? (utf8 "C") = none := by
  intro content files p after
  have hfresh : p.loaded = false := rfl
  have hfirst : p.files.FirstSettings p.cwd (p.searched []) content := by
    refine ⟨[.absolute [utf8 "work", utf8 "a"]], .absolute [utf8 "work"], [.absolute []], rfl, by cbv,
      fun other hother => ?_⟩
    rw [List.mem_singleton.1 hother]
    cbv
  obtain ⟨-, hloaded⟩ := environment_of_first_load p hfresh []
  obtain ⟨hkept, hassigned, -⟩ := hloaded content hfirst
  refine ⟨hfresh, hfirst, hkept _ _ (by decide), ?_, ?_⟩
  · rw [hassigned (utf8 "B") (by decide) (by decide)]
    decide
  · rw [hassigned (utf8 "C") (by decide) (by decide)]
    decide

/-- The empty path is the working directory, from which a way may lead up. The file that the other one leads to is
a link, which goes on from its own directory. -/
example :
    let files : FileTree :=
      { nodes := [([utf8 "work"], .directory), ([utf8 "conf"], .directory),
          ([utf8 "conf", settingsName], .link (.ofText (utf8 "settings"))),
          ([utf8 "conf", utf8 "settings"], .file (utf8 "A=1"))] }
    files.settings? (some [utf8 "work"]) [.ofText [], .ofText (utf8 "../conf/")] = some (utf8 "A=1") := by cbv

end Program

end KernelStats.Settings
