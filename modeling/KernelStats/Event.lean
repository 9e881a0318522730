import KernelStats.Failure
import KernelStats.Level

/-!
# Events

What the library reports while it works. An event is a cause; its level and its wording follow from
it.
-/

namespace KernelStats

inductive Event where
  | tokenOpened
  | cached (kstat : Identity)
  /-- A token was closed and lost its cache of so many objects. -/
  | tokenClosed (dropped : Nat)
  | closeFailed (errno : Errno)
  /-- A token that was still open went away, and its close failed. -/
  | abandoned (failure : Failure)
  | readFailed (kstat : Identity) (errno : Errno)
  /-- A read reported a snapshot time older than the one known. -/
  | staleSnaptime (reported known : Int64) (kstat : Identity)
  | unknownDataType (statistic : Bytes) (type : DataType)
  | unsupported
  | openFailed (errno : Errno)
  /-- A handle that was still open went away, and the system could not close it. -/
  | leaked (errno : Errno)
  deriving DecidableEq, Repr

namespace Event

def level : Event → Level
  | tokenOpened | cached _ | tokenClosed _ | staleSnaptime .. => .debug
  | closeFailed _ | readFailed .. | unsupported | openFailed _ | leaked _ => .warn
  | abandoned _ => .error
  | unknownDataType .. => .critical

def text : Event → Bytes
  | tokenOpened => utf8 "kstat token opened"
  | cached kstat => utf8 "Caching kstat " ++ kstat.text
  | tokenClosed dropped =>
    utf8 "kstat token closed, " ++ decimal dropped ++ utf8 " cached kstats dropped"
  | closeFailed errno => utf8 "kstat_close failed: " ++ errno.describe
  | abandoned failure =>
    utf8 "Closing kstat token on destruction: " ++ failure.status.text
  | readFailed kstat errno =>
    utf8 "kstat_read of " ++ kstat.text ++ utf8 " failed: " ++ errno.describe
  | staleSnaptime reported known kstat =>
    utf8 "Ignoring snaptime " ++ decimal reported.toInt ++ utf8 " older than " ++
      decimal known.toInt ++ utf8 " for " ++ kstat.text
  | unknownDataType statistic type =>
    utf8 "Statistic " ++ statistic ++ utf8 " has unknown data type " ++ decimal type.code.toNat
  | unsupported => utf8 "kstat facility is not available on this platform"
  | openFailed errno => utf8 "kstat_open failed: " ++ errno.describe
  | leaked errno => utf8 "kstat_close on handle destruction failed: " ++ errno.describe

end Event

/-- What is logged beside a failure: only a layout that nobody knows rings an alarm. -/
def Failure.alarms : Failure → List Event
  | .unknownDataType statistic type => [.unknownDataType statistic type]
  | _ => []

end KernelStats
