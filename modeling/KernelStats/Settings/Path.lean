import KernelStats.Bytes

/-!
# Paths

A path is kept as it is written, as the names behind its slashes from the root on. Not every name is
the name of something: an empty one and a dot stay where they are, two dots go up, and an empty name
at the end is a slash there, which asks for a directory. What a path means is for a file tree to say.

A place is a path of real names that leads through no link. The root is the empty place and its own
parent.

A route is a path as a caller gives it. Without a slash in front it starts where the program stands at the
time that it is followed.
-/

namespace KernelStats.Settings

/-- The names of a path, as they are written. -/
abbrev Path := List Bytes

namespace Path

def slash : UInt8 := 47

def self : Bytes := utf8 "."

def up : Bytes := utf8 ".."

def ofText : Bytes → Path
  | [] => [[]]
  | b :: rest =>
    if b = slash then [] :: ofText rest
    else
      match ofText rest with
      | [] => [[b]]
      | name :: names => (b :: name) :: names

def size (p : Path) : Nat := p.foldr (fun name rest => name.length + 1 + rest) 0

/-- The path without its last name; of a place, the directory above it. -/
def parent (p : Path) : Path := p.dropLast

/-- The path of a name in a directory. A slash at the end of the directory's path is not doubled. -/
def child (p : Path) (name : Bytes) : Path :=
  (if p.getLast? = some [] then p.dropLast else p) ++ [name]

/-- The part of a path that the system sees, to which a NUL puts an end. -/
def upToNul : Path → Path
  | [] => []
  | name :: rest => if 0 ∈ name then [Bytes.upToNul name] else name :: upToNul rest

def bare (p : Path) : Path := (p.reverse.dropWhile (· = [])).reverse

/-- The paths that lead to a path, each a name longer than the one before, the path itself last. -/
def stages (p : Path) : List Path := (List.range p.length).map fun n => p.take (n + 1)

end Path

/-- A path as it is given, from the root or from where the program stands. -/
inductive Route where
  | absolute (p : Path)
  | relative (p : Path)
  deriving DecidableEq, Repr

namespace Route

instance : Coe Path Route := ⟨absolute⟩

def ofText : Bytes → Route
  | [] => relative [[]]
  | b :: rest => if b = Path.slash then absolute (Path.ofText rest) else relative (Path.ofText (b :: rest))

def map (f : Path → Path) : Route → Route
  | absolute p => absolute (f p)
  | relative p => relative (f p)

def child (r : Route) (name : Bytes) : Route := r.map (·.child name)

def upToNul (r : Route) : Route := r.map Path.upToNul

end Route

end KernelStats.Settings
