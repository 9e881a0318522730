import KernelStats.Identity
import KernelStats.Status

/-!
# Failures

Why a call on a token or on a kstat object did not succeed, with what is needed to say so. The
status that a caller sees is computed from the cause in one place.
-/

namespace KernelStats

inductive Failure where
  | noFacility
  /-- The facility refused, or gave no handle. -/
  | cannotOpen (errno : Errno)
  /-- A token was used after its close. -/
  | closedToken
  /-- A kstat object was used after its token's close. -/
  | closedKStat
  | noKStat (query : Query) (errno : Errno)
  | noStatistic (name : Bytes) (kstat : Identity)
  | unreadable (kstat : Identity) (errno : Errno)
  /-- The kstat's header promises more records than there are. -/
  | missing (index count : Nat) (kstat : Identity)
  /-- The kstat's data is not a list of named records. -/
  | notNamed (kstat : Identity)
  /-- The value of a statistic has a layout that nobody knows. -/
  | unknownDataType (statistic : Bytes) (type : DataType)
  | closeFailed (errno : Errno)
  deriving DecidableEq, Repr

namespace Failure

def code : Failure → ErrorCode
  | noFacility | cannotOpen _ => .openFailure
  | closedToken | closedKStat => .closedToken
  | noKStat .. | noStatistic .. => .lookupFailure
  | unreadable .. | missing .. => .readFailure
  | notNamed _ => .typeMismatch
  | unknownDataType .. => .unknownDataType
  | closeFailed _ => .closeFailure

def errno : Failure → Errno
  | cannotOpen e | noKStat _ e | unreadable _ e | closeFailed e => e
  | noStatistic .. => .noEntry
  | noFacility | closedToken | closedKStat | missing .. | notNamed _ | unknownDataType .. => 0

def message : Failure → Bytes
  | noFacility => utf8 "no kstat subsystem"
  | cannotOpen _ => utf8 "cannot open kstat"
  | closedToken => utf8 "token not valid or closed"
  | closedKStat => utf8 "invalid kstat or closed token"
  | noKStat query _ => utf8 "no kstat matching " ++ query.text
  | noStatistic name kstat => utf8 "no statistic " ++ name ++ utf8 " in " ++ kstat.text
  | unreadable kstat _ => utf8 "cannot read kstat " ++ kstat.text
  | missing index count kstat =>
    utf8 "statistic " ++ decimal index ++ utf8 " of " ++ decimal count ++ utf8 " missing from " ++
      kstat.text
  | notNamed kstat =>
    utf8 "kstat " ++ kstat.text ++ utf8 " (type " ++ kstat.type.name ++ utf8 ") is not a named kstat"
  | unknownDataType statistic type => utf8 "statistic " ++ statistic ++ utf8 " has " ++ type.name
  | closeFailed _ => utf8 "kstat_close failed"

def status (f : Failure) : Status := { code := f.code, errno := f.errno, message := f.message }

theorem code_ne_ok (f : Failure) : f.code ≠ .ok := by
  cases f <;> simp [code]

end Failure

/-- The status of an outcome: the failure's, or success. -/
def Status.of {α : Type} : Except Failure α → Status
  | .ok _ => {}
  | .error f => f.status

@[simp] theorem Status.isOk_of {α : Type} (r : Except Failure α) :
    (Status.of r).isOk = r.toBool := by
  cases r with
  | ok a => rfl
  | error f => simp [Status.of, Status.isOk, Failure.status, Except.toBool, f.code_ne_ok]

end KernelStats
