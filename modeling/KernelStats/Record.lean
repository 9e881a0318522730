import KernelStats.Field
import KernelStats.TypeCode

/-!
# Named records

A record of a named kstat has a name in a field of 31 bytes, a data type, and a value. The value of
a string record lies in memory of its own, a buffer that a NUL ends, with a length beside it; every
other value is a block of 16 bytes that the data type says how to read. Blocks are little-endian, so
a value written in one layout may be read in another.

Records are built from a blank one: `named` sets the name, `write` lays bytes over the front of the
block. `copy` is how a record leaves the kernel's memory.
-/

namespace KernelStats

def nameSize : Nat := 31

def blockSize : Nat := 16

/-- The data of a record, with its data type. -/
inductive Datum where
  /-- A block of bytes that a data type other than `string` lays out. -/
  | block (type : DataType) (notString : type ≠ .string) (bytes : Field blockSize)
  /-- Text in memory of its own, or nowhere; `length` bounds it unless it is zero. -/
  | string (buffer : Option Bytes) (length : UInt32)
  deriving DecidableEq

namespace Datum

def type : Datum → DataType
  | block type _ _ => type
  | string _ _ => .string

def blank (type : DataType) : Datum :=
  if h : type = .string then .string none 0 else .block type h .zero

def write (bytes : Bytes) : Datum → Datum
  | block type h field => .block type h (field.write bytes)
  | string buffer length => .string buffer length

def retype (type : DataType) : Datum → Datum
  | block old h field => if h' : type = .string then .block old h field else .block type h' field
  | string buffer length => .string buffer length

/-- The datum on fresh memory: text is shared, a block is copied byte by byte. -/
def copy : Datum → Datum
  | block type h field => .block type h (Field.zero.write field.bytes)
  | string buffer length => .string buffer length

@[simp] theorem type_blank (type : DataType) : (blank type).type = type := by
  unfold blank
  split
  · next h => exact h.symm
  · rfl

@[simp] theorem type_write (bytes : Bytes) (d : Datum) : (d.write bytes).type = d.type := by
  cases d <;> rfl

@[simp] theorem copy_eq (d : Datum) : d.copy = d := by
  cases d <;> simp [copy]

end Datum

structure Record where
  name : Field nameSize
  datum : Datum
  deriving DecidableEq

namespace Record

def type (r : Record) : DataType := r.datum.type

/-- An empty record of a given type. Its name is cut at a NUL, and so that a terminator fits. -/
def named (name : Bytes) (type : DataType) : Record :=
  { name := .ofBytes nameSize (name.bounded (nameSize - 1)), datum := .blank type }

/-- Lays bytes over the front of the name field; a full field has no terminator. -/
def overwriteName (bytes : Bytes) (r : Record) : Record := { r with name := r.name.write bytes }

def write (bytes : Bytes) (r : Record) : Record := { r with datum := r.datum.write bytes }

def retype (type : DataType) (r : Record) : Record := { r with datum := r.datum.retype type }

/-! ### Records of each layout -/

/-- A short text inside the record, without a terminator if it fills the block. -/
def char (name bytes : Bytes) : Record := (named name ValueKind.char.dataType).write bytes

def int32 (name : Bytes) (v : Int32) : Record :=
  (named name ValueKind.int32.dataType).write (.ofNatLE 4 v.toUInt32.toNat)

def uint32 (name : Bytes) (v : UInt32) : Record :=
  (named name ValueKind.uint32.dataType).write (.ofNatLE 4 v.toNat)

def int64 (name : Bytes) (v : Int64) : Record :=
  (named name ValueKind.int64.dataType).write (.ofNatLE 8 v.toUInt64.toNat)

def uint64 (name : Bytes) (v : UInt64) : Record :=
  (named name ValueKind.uint64.dataType).write (.ofNatLE 8 v.toNat)

/-- A text in memory of its own with a stated length, or a string that points nowhere. -/
def string (name : Bytes) (buffer : Option Bytes) (length : UInt32) : Record :=
  { named name .string with datum := .string buffer length }

/-- A text in memory of its own; its length counts the terminator. -/
def terminated (name : Bytes) (buffer : Option Bytes) : Record :=
  string name buffer <|
    match buffer with
    | some text => UInt32.ofNat (text.upToNul.length + 1)
    | none => 0

/-! ### Copies -/

def copy (r : Record) : Record :=
  { name := Field.zero.write r.name.bytes, datum := r.datum.copy }

@[simp] theorem copy_eq (r : Record) : r.copy = r := by
  simp [copy]

end Record

end KernelStats
