import KernelStats.Bytes

/-!
# Log levels

From the most talkative to silence. A level has a number and a name, and some names are alternatives
that only a reader of settings knows.
-/

namespace KernelStats

inductive Level where
  | trace
  | debug
  | info
  | warn
  | error
  | critical
  | off
  deriving DecidableEq, Repr, Inhabited

namespace Level

def all : List Level := [.trace, .debug, .info, .warn, .error, .critical, .off]

def number : Level → Nat
  | trace => 0
  | debug => 1
  | info => 2
  | warn => 3
  | error => 4
  | critical => 5
  | off => 6

def ofNumber? (n : Nat) : Option Level := all[n]?

def name : Level → String
  | trace => "trace"
  | debug => "debug"
  | info => "info"
  | warn => "warn"
  | error => "error"
  | critical => "critical"
  | off => "off"

def names : List (Bytes × Level) :=
  (all.map fun l => (utf8 l.name, l)) ++ [(utf8 "warning", .warn)]

/-- The level that a setting names; a text that names none means `info`. -/
def ofName (s : Bytes) : Level := (names.lookup s).getD .info

@[simp] theorem ofNumber?_number (l : Level) : ofNumber? l.number = some l := by
  cases l <;> rfl

end Level

end KernelStats
