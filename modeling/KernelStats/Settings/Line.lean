import KernelStats.Bytes

/-!
# Lines of a settings file

A settings file is a list of lines, each ended by a line feed; the last may go without. A line that
assigns has the form `key = value`, with blanks allowed around both and one pair of quotes allowed
around the value. Blank lines, comments and lines without a key assign nothing. No byte but the ones
named here means anything, a NUL included.
-/

namespace KernelStats.Settings

def lineFeed : UInt8 := 10

def equalsSign : UInt8 := 61

def hashSign : UInt8 := 35

def isBlank (b : UInt8) : Bool := b = 32 || b = 9 || b = 13 || b = lineFeed

def isQuote (b : UInt8) : Bool := b = 34 || b = 39

def trim (s : Bytes) : Bytes := ((s.dropWhile isBlank).reverse.dropWhile isBlank).reverse

/-- Takes one pair of equal quotes off a text of at least two bytes. -/
def unquote (s : Bytes) : Bytes :=
  match s with
  | q :: b :: rest =>
    if isQuote q ∧ (b :: rest).getLast? = some q then (b :: rest).dropLast else s
  | _ => s

structure Assignment where
  key : Bytes
  value : Bytes
  deriving DecidableEq, Repr

/-- What a line assigns, if anything. The first equals sign divides it. -/
def Assignment.ofLine? (line : Bytes) : Option Assignment :=
  let line := trim line
  if line.head? = some hashSign then none
  else
    match line.dropWhile (· ≠ equalsSign) with
    | [] => none
    | _ :: value =>
      let key := trim (line.takeWhile (· ≠ equalsSign))
      if key = [] then none else some { key, value := unquote (trim value) }

def lines : Bytes → List Bytes
  | [] => []
  | b :: rest =>
    if b = lineFeed then [] :: lines rest
    else
      match lines rest with
      | [] => [[b]]
      | line :: others => (b :: line) :: others

def assignments (text : Bytes) : List Assignment := (lines text).filterMap Assignment.ofLine?

end KernelStats.Settings
