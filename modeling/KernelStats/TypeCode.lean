import KernelStats.Bytes

/-!
# Type codes

Two one-byte codes describe the data of the kernel: the type of a kstat says how its data is laid
out as a whole, the data type of a record says how one value is laid out. Both are open: a kernel
may use a code that this library does not know, and such a code is carried along and shown by its
number.
-/

namespace KernelStats

/-- How the data of a kstat is laid out. -/
structure KStatType where
  code : UInt8
  deriving DecidableEq, Repr

namespace KStatType

def named : KStatType := ⟨1⟩

def name (t : KStatType) : Bytes :=
  match t.code with
  | 0 => utf8 "raw"
  | 1 => utf8 "named"
  | 2 => utf8 "interrupt"
  | 3 => utf8 "io"
  | 4 => utf8 "timer"
  | _ => utf8 "kstat_type:" ++ decimal t.code.toNat

end KStatType

inductive ValueKind where
  | char
  | int32
  | uint32
  | int64
  | uint64
  | string
  deriving DecidableEq, Repr

/-- How the value of a record is laid out. -/
structure DataType where
  code : UInt8
  deriving DecidableEq, Repr

namespace DataType

def string : DataType := ⟨9⟩

/-- The layout that a code stands for. The codes 5 and 6 once meant floating point and are as
unknown as any other. -/
def kind? (t : DataType) : Option ValueKind :=
  match t.code with
  | 0 => some .char
  | 1 => some .int32
  | 2 => some .uint32
  | 3 => some .int64
  | 4 => some .uint64
  | 9 => some .string
  | _ => none

def name (t : DataType) : Bytes :=
  match t.kind? with
  | some .char => utf8 "char"
  | some .int32 => utf8 "int32"
  | some .uint32 => utf8 "uint32"
  | some .int64 => utf8 "int64"
  | some .uint64 => utf8 "uint64"
  | some .string => utf8 "string"
  | none => utf8 "named_type-" ++ decimal t.code.toNat

end DataType

namespace ValueKind

def dataType : ValueKind → DataType
  | char => ⟨0⟩
  | int32 => ⟨1⟩
  | uint32 => ⟨2⟩
  | int64 => ⟨3⟩
  | uint64 => ⟨4⟩
  | string => ⟨9⟩

@[simp] theorem kind?_dataType (k : ValueKind) : k.dataType.kind? = some k := by
  cases k <;> rfl

end ValueKind

end KernelStats
