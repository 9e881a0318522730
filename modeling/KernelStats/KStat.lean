import KernelStats.Identity
import KernelStats.RecordId
import KernelStats.Value

/-!
# Kstat objects

A token hands out one object for each kstat that it has met. The identity is copied when the object
is made and stays readable for ever; the snapshot time follows the reads made through the object and
never runs backwards. An object is known by its number, so two objects with the same fields are still
two objects.
-/

namespace KernelStats

/-- The number of a token, in the order of successful opens. -/
abbrev TokenId := Nat

/-- The number of a kstat object, in the order of creation. -/
abbrev KStatId := Nat

structure KStat where
  token : TokenId
  record : RecordId
  identity : Identity
  snaptime : Int64
  deriving DecidableEq, Repr, Inhabited

namespace KStat

def ofHeader (token : TokenId) (record : RecordId) (header : Header) : KStat :=
  { token, record, identity := header.toIdentity, snaptime := header.snaptime }

/-- Takes over a snapshot time unless it is older than the one known. -/
def observe (k : KStat) (snaptime : Int64) : KStat :=
  if k.snaptime ≤ snaptime then { k with snaptime } else k

def document (k : KStat) : Document :=
  [("module", .text k.identity.moduleName),
    ("instance", .int k.identity.inst.toInt64),
    ("name", .text k.identity.name),
    ("class", .text k.identity.className),
    ("type", .text k.identity.type.name),
    ("crtime", .int k.identity.crtime),
    ("snaptime", .int k.snaptime)]

@[simp] theorem identity_observe (k : KStat) (snaptime : Int64) :
    (k.observe snaptime).identity = k.identity := by
  unfold observe; split <;> rfl

end KStat

end KernelStats
