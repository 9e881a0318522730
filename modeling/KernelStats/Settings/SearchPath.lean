import KernelStats.Settings.FileTree

/-!
# Where settings are looked for

The settings file is searched in the working directory and the directory of the executable, each with
two parents, and then wherever the caller says, be it as seen from the working directory. Of the former,
a directory that would come up twice is searched only at its first place, which cannot change the file
that is found.
-/

namespace KernelStats.Settings

def settingsName : Bytes := utf8 ".env"

def lineage (directory : Path) : List Path :=
  [directory, directory.parent, directory.parent.parent]

/-- The paths of a list without repetition, each at its first place. -/
def firstOccurrences (paths : List Path) : List Path :=
  paths.foldl (fun seen p => if p ∈ seen then seen else seen ++ [p]) []

/-- The directories to search: those of the working directory, then those of the executable. Either
may be unknown. -/
def searchRoots (cwd executable : Option Path) : List Path :=
  firstOccurrences ((cwd.toList ++ executable.toList).flatMap lineage)

def FileTree.settings? (t : FileTree) (cwd : Option Path) (directories : List Route) : Option Bytes :=
  directories.findSome? fun directory => t.content? cwd (directory.child settingsName)

end KernelStats.Settings
