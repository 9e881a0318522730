import KernelStats.Errno

/-!
# Statuses

The outcome of a call as its caller sees it: a code, the system error behind it if there was one,
and a message. The one-line text joins the three and leaves out what is absent.
-/

namespace KernelStats

/-- What kind of call failed, or `ok`. -/
inductive ErrorCode where
  | ok
  | openFailure
  | closedToken
  | lookupFailure
  | readFailure
  | typeMismatch
  | unknownDataType
  | closeFailure
  | unknown
  deriving DecidableEq, Repr

namespace ErrorCode

def all : List ErrorCode :=
  [.ok, .openFailure, .closedToken, .lookupFailure, .readFailure, .typeMismatch, .unknownDataType,
    .closeFailure]

def ofNumber (n : Int) : ErrorCode :=
  if n < 0 then .unknown else all.getD n.toNat .unknown

def name : ErrorCode → Bytes
  | ok => utf8 "OK"
  | openFailure => utf8 "OPEN_FAILURE"
  | closedToken => utf8 "CLOSED_TOKEN"
  | lookupFailure => utf8 "LOOKUP_FAILURE"
  | readFailure => utf8 "READ_FAILURE"
  | typeMismatch => utf8 "TYPE_MISMATCH"
  | unknownDataType => utf8 "UNKNOWN_DATA_TYPE"
  | closeFailure => utf8 "CLOSE_FAILURE"
  | unknown => utf8 "UNKNOWN"

end ErrorCode

structure Status where
  code : ErrorCode := .ok
  /-- The system error behind a failure, zero if there was none. -/
  errno : Errno := 0
  message : Bytes := []
  deriving DecidableEq, Repr

namespace Status

def isOk (s : Status) : Bool := s.code = .ok

/-- The status on one line: the code, the message unless empty, the system's message unless there
was no system error. -/
def text (s : Status) : Bytes :=
  s.code.name ++ (if s.message = [] then [] else utf8 ": " ++ s.message) ++
    (if s.errno = 0 then [] else utf8 " (" ++ s.errno.describe ++ utf8 ")")

end Status

end KernelStats
