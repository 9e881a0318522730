import KernelStats.Settings.Path

/-!
# Files and directories

A tree says for each place what is there: a file, a directory or a symbolic link. Following a path
goes from name to name and resolves every link on the way, at most forty of them, so a loop of links
leads nowhere. A relative link goes on from the directory that it lies in. A way ends at something, at a
free place in a directory, or astray.

Changes are made through paths, too. What cannot be done is not done: a change whose way goes astray
leaves the tree as it is.
-/

namespace KernelStats.Settings

inductive Node where
  | file (content : Bytes)
  | directory
  | link (target : Route)
  deriving DecidableEq, Repr

/-- The places of a file system where something is, the root apart. -/
structure FileTree where
  nodes : List (Path × Node) := []
  deriving Repr

inductive Reach where
  | found (place : Path)
  /-- Nothing is there, but the directory is. -/
  | vacant (place : Path)
  | astray
  deriving DecidableEq, Repr

namespace FileTree

def maxLinks : Nat := 40

def maxName : Nat := 255

def maxPath : Nat := 4095

def node? (t : FileTree) (place : Path) : Option Node :=
  if place = [] then some .directory else t.nodes.lookup place

/-- Follows the names that are still to go from a place that is a directory. A link at the very end is
followed only if the way goes `through` it. -/
def walk (t : FileTree) (through : Bool) (links : Nat) (here : Path) : (names : Path) → Reach
  | [] => .found here
  | name :: rest =>
    if name = [] ∨ name = Path.self then t.walk through links here rest
    else if name = Path.up then t.walk through links here.parent rest
    else
      match t.node? (here ++ [name]) with
      | none => if rest = [] then .vacant (here ++ [name]) else .astray
      | some .directory => t.walk through links (here ++ [name]) rest
      | some (.file _) => if rest = [] then .found (here ++ [name]) else .astray
      | some (.link target) =>
        if rest = [] ∧ !through then .found (here ++ [name])
        else
          match links, target with
          | 0, _ => .astray
          | links + 1, .absolute p => t.walk through links [] (p ++ rest)
          | links + 1, .relative p => t.walk through links here (p ++ rest)
termination_by names => (links, names.length)

def reach (t : FileTree) (through : Bool) (p : Path) : Reach :=
  let p := p.upToNul
  if maxPath < p.size then .astray else t.walk through maxLinks [] p

/-- Follows a route of a program that stands at a place. A relative one leads nowhere if it is empty, or once
the place was removed. -/
def follow (t : FileTree) (cwd : Option Path) : Route → Reach
  | .absolute p => t.reach true p
  | .relative p =>
    let p := p.upToNul
    match cwd with
    | none => .astray
    -- there is no slash in front, which is one byte less
    | some here => if p.size ≤ 1 ∨ maxPath + 1 < p.size then .astray else t.walk true maxLinks here p

def place? (t : FileTree) (cwd : Option Path) (r : Route) : Option Path :=
  match t.follow cwd r with
  | .found place => some place
  | _ => none

def directory? (t : FileTree) (p : Path) : Option Path :=
  (t.place? none p).filter fun place => t.node? place = some .directory

/-- The content of the file that a route leads to, if it is one. -/
def content? (t : FileTree) (cwd : Option Path) (r : Route) : Option Bytes :=
  match (t.place? cwd r).bind t.node? with
  | some (.file content) => some content
  | _ => none

/-! ### Changes -/

def put (t : FileTree) (place : Path) (node : Node) : FileTree :=
  { nodes := t.nodes.filter (·.1 ≠ place) ++ [(place, node)] }

/-- Puts a node at a free place, unless its name is too long. -/
def create (t : FileTree) (place : Path) (node : Node) : FileTree :=
  if maxName < (place.getLastD []).length then t else t.put place node

def makeDirectory (t : FileTree) (p : Path) : FileTree :=
  match t.reach false p with
  | .vacant place => t.create place .directory
  | _ => t

def makeDirectories (t : FileTree) (p : Path) : FileTree := p.stages.foldl makeDirectory t

/-- Gives a file its content. A missing file is made, also where a link leads to it. -/
def writeFile (t : FileTree) (p : Path) (content : Bytes) : FileTree :=
  match t.reach true p with
  | .found place => if t.node? place = some .directory then t else t.put place (.file content)
  | .vacant place => t.create place (.file content)
  | .astray => t

/-- Makes a link, which cannot be an empty one. -/
def makeLink (t : FileTree) (p : Path) (target : Route) : FileTree :=
  match t.reach false p with
  | .vacant place =>
    if target.upToNul = .relative [[]] then t else t.create place (.link target.upToNul)
  | _ => t

/-- Puts what is given where a path says. The directories above are made first. -/
def write (t : FileTree) (p : Path) : Node → FileTree
  | .directory => t.makeDirectories p
  | .file content => (t.makeDirectories p.parent).writeFile p content
  | .link target => (t.makeDirectories p.parent).makeLink p target

def clear (t : FileTree) (place : Path) : FileTree :=
  { nodes := t.nodes.filter fun (q, _) => q = place || !place.isPrefixOf q }

/-- The place that the last name of a path stands for, a link there not followed. A dot or two name no
place of their own, and behind a slash only a directory can be meant. -/
def entry? (t : FileTree) (p : Path) : Option Path :=
  let p := p.upToNul
  if p.bare.getLast? = some Path.self ∨ p.bare.getLast? = some Path.up then none
  else
    match t.reach false p.bare with
    | .found place => if p = p.bare ∨ t.node? place = some .directory then some place else none
    | _ => none

/-- Removes what a path leads to with all below it. A link goes, not what it leads to. -/
def remove (t : FileTree) (p : Path) : FileTree :=
  let emptied := match t.reach false p with
    | .found place => t.clear place
    | _ => t
  match emptied.entry? p with
  | some place => { nodes := emptied.nodes.filter (·.1 ≠ place) }
  | none => emptied

end FileTree

end KernelStats.Settings
