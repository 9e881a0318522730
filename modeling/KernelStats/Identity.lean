import KernelStats.TypeCode

/-!
# Identities, headers and queries

A kstat is named by module, instance and name. The part of its header that never changes while the
kstat exists is its `Identity`; the header adds what a read refreshes. A `Query` asks for a kstat and
may leave each of the three open.
-/

namespace KernelStats

/-- What a kstat is, fixed at its creation. -/
structure Identity where
  moduleName : Bytes := []
  inst : Int32 := 0
  name : Bytes := []
  className : Bytes := []
  type : KStatType := ⟨0⟩
  /-- Time of creation in nanoseconds since an arbitrary point. -/
  crtime : Int64 := 0
  deriving DecidableEq, Repr, Inhabited

namespace Identity

def path (i : Identity) : Bytes :=
  i.moduleName ++ utf8 ":" ++ decimal i.inst.toInt ++ utf8 ":" ++ i.name

def text (i : Identity) : Bytes := i.path ++ utf8 " (" ++ i.className ++ utf8 ")"

end Identity

structure Header extends Identity where
  /-- Time of the last read, on the clock of `crtime`. -/
  snaptime : Int64 := 0
  ndata : UInt32 := 0
  /-- Whether a read has brought data. -/
  hasData : Bool := false
  deriving DecidableEq, Repr, Inhabited

structure Query where
  /-- The module, any if empty. -/
  moduleName : Bytes
  /-- The instance, any if `Query.anyInstance`. -/
  inst : Int32
  /-- The name, any if empty. -/
  name : Bytes
  deriving DecidableEq, Repr

namespace Query

def anyInstance : Int32 := -1

/-- The query as a path, with a star for what it leaves open. -/
def text (q : Query) : Bytes :=
  (if q.moduleName = [] then utf8 "*" else q.moduleName) ++ utf8 ":" ++
    (if q.inst = anyInstance then utf8 "*" else decimal q.inst.toInt) ++ utf8 ":" ++
    (if q.name = [] then utf8 "*" else q.name)

/-- Whether an identity answers the query, all bytes compared. -/
def admits (q : Query) (i : Identity) : Bool :=
  (q.moduleName = [] || q.moduleName = i.moduleName) &&
    (q.inst = anyInstance || q.inst = i.inst) &&
    (q.name = [] || q.name = i.name)

end Query

end KernelStats
