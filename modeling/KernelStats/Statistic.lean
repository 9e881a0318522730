import KernelStats.Failure
import KernelStats.KStat
import KernelStats.Record

/-!
# Statistics

A statistic is what a record means: its name, its data type, and its value in the one of three slots
that the type selects. It is taken once and never follows later reads; only the kstat object that it
came from may move on. Decoding fails for a record whose data type nobody knows, and for no other
reason.
-/

namespace KernelStats

structure Statistic where
  name : Bytes
  type : DataType
  /-- The value of a `char` or `string`, otherwise empty. -/
  text : Bytes := []
  /-- The value of a signed number, otherwise zero. -/
  int : Int64 := 0
  /-- The value of an unsigned number, otherwise zero. -/
  uint : UInt64 := 0
  /-- The kstat object that the statistic was read through. -/
  parent : Option KStatId := none
  deriving DecidableEq, Repr

namespace Statistic

def ofValue (name : Bytes) (type : DataType) (parent : Option KStatId) : Value → Statistic
  | .text bytes => { name, type, parent, text := bytes }
  | .int number => { name, type, parent, int := number }
  | .uint number => { name, type, parent, uint := number }

/-- The value in the slot that the data type selects; the unsigned slot serves unknown types. -/
def value (s : Statistic) : Value :=
  match s.type.kind? with
  | some .char | some .string => .text s.text
  | some .int32 | some .int64 => .int s.int
  | some .uint32 | some .uint64 | none => .uint s.uint

/-- The name of a statistic behind the path of the kstat that it belongs to, if to any. -/
def label (owner : Option Identity) (name : Bytes) : Bytes :=
  match owner with
  | none => name
  | some kstat => kstat.path ++ utf8 ":" ++ name

def document (owner : Option KStat) (s : Statistic) : Document :=
  [("statistic", .text s.name), ("type", .text s.type.name), ("value", s.value)] ++
    match owner with
    | none => []
    | some kstat =>
      [("module", .text kstat.identity.moduleName),
        ("instance", .int kstat.identity.inst.toInt64),
        ("name", .text kstat.identity.name),
        ("snaptime", .int kstat.snaptime)]

end Statistic

def Field.number {n : Nat} (f : Field n) (width : Nat) : Nat := Bytes.toNatLE (f.bytes.take width)

namespace Record

/-- The value of a record, if its layout is known. A text ends at a NUL; that of a string ends at its
length too, unless the length is zero. -/
def value? (r : Record) : Option Value :=
  match r.datum with
  | .string none _ => some (.text [])
  | .string (some buffer) length =>
    some (.text (if length = 0 then buffer.upToNul else buffer.bounded length.toNat))
  | .block type _ block =>
    match type.kind? with
    | some .char => some (.text block.text)
    | some .int32 => some (.int (UInt32.ofNat (block.number 4)).toInt32.toInt64)
    | some .uint32 => some (.uint (UInt32.ofNat (block.number 4)).toUInt64)
    | some .int64 => some (.int (UInt64.ofNat (block.number 8)).toInt64)
    | some .uint64 => some (.uint (UInt64.ofNat (block.number 8)))
    | some .string | none => none

/-- What a record means, as a statistic of the owner if there is one. -/
def decode (owner : Option (KStatId × Identity)) (r : Record) : Except Failure Statistic :=
  match r.value? with
  | some value => .ok (.ofValue r.name.text r.type (owner.map Prod.fst) value)
  | none => .error (.unknownDataType (Statistic.label (owner.map Prod.snd) r.name.text) r.type)

end Record

end KernelStats
