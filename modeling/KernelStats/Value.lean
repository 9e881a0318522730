import KernelStats.Bytes

/-!
# Values and documents

The decoded value of a statistic is a text or a number of 64 bits, signed or not. A document is a
list of named values, the form in which an object of the library is handed to a reader.
-/

namespace KernelStats

inductive Value where
  | text (bytes : Bytes)
  | int (number : Int64)
  | uint (number : UInt64)
  deriving DecidableEq, Repr

/-- The members of an object, each name once. -/
abbrev Document := List (String × Value)

end KernelStats
