import KernelStats.Cache
import KernelStats.Handle
import KernelStats.Statistic

/-!
# Calls on an open token

A `Session` is all that a call on one open token can touch: the kernel, the token's handle and cache,
and the kstat objects of the client. Calls run one after the other, so each is a function from a
session to a session with a result, and what it reports is collected in order.

The rules are these. A kstat gets its object when it is first met, by a walk or by a lookup, and keeps
it. A lookup always reads the kstat it found; a failed read fails the lookup and leaves the object
where it is. A statistic is only looked for in a kstat of named type, whose data is read first if the
handle has none. A list of statistics is complete or it is a failure.
-/

namespace KernelStats

/-- The state that a call on an open token works on. -/
structure Session where
  token : TokenId
  kernel : Kernel
  handle : Handle
  cache : Cache KStatId
  kstats : List KStat
  log : List Event := []

namespace Session

def report (s : Session) (events : List Event) : Session := { s with log := s.log ++ events }

def kstat (s : Session) (k : KStatId) : KStat := s.kstats.getD k default

def header (s : Session) (k : KStatId) : Header := s.handle.header s.kernel (s.kstat k).record

def answer {α : Type} (s : Session) (r : Except Failure α) : Session × Except Failure α :=
  match r with
  | .ok a => (s, .ok a)
  | .error f => (s.report f.alarms, .error f)

/-- The object of a kstat: the cached one, or a new one with the header of now. -/
def intern (s : Session) (id : RecordId) : Session × KStatId :=
  match s.cache.find? id with
  | some k => (s, k)
  | none =>
    let kstat := KStat.ofHeader s.token id (s.handle.header s.kernel id)
    let (cache, k) := s.cache.insert id s.kstats.length
    ({ s with cache, kstats := s.kstats ++ [kstat] }.report [.cached kstat.identity], k)

def internAll (s : Session) : List RecordId → Session × List KStatId
  | [] => (s, [])
  | id :: ids =>
    let (s, k) := s.intern id
    let (s, ks) := s.internAll ids
    (s, k :: ks)

def all (s : Session) : Session × List KStatId := s.internAll (s.handle.walk s.kernel)

/-- Reads the kstat behind an object. The object takes over the new snapshot time unless it knows a
later one. -/
def refresh (s : Session) (k : KStatId) : Session × Except Failure Unit :=
  let kstat := s.kstat k
  let (kernel, handle, errno) := s.handle.read s.kernel kstat.record
  let s := { s with kernel, handle }
  if errno = 0 then
    let snaptime := (s.header k).snaptime
    let stale := if kstat.snaptime ≤ snaptime then [] else
      [.staleSnaptime snaptime kstat.snaptime kstat.identity]
    ({ s with kstats := s.kstats.modify k (·.observe snaptime) }.report stale, .ok ())
  else (s.report [.readFailed kstat.identity errno], .error (.unreadable kstat.identity errno))

def lookup (s : Session) (q : Query) : Session × Except Failure KStatId :=
  match s.handle.lookup s.kernel q with
  | (kernel, .error errno) => ({ s with kernel }, .error (.noKStat q errno))
  | (kernel, .ok id) =>
    let (s, k) := { s with kernel }.intern id
    match s.refresh k with
    | (s, .error f) => (s, .error f)
    | (s, .ok ()) => (s, .ok k)

/-- Makes sure that an object has named data, reading it if the handle has none. -/
def prepare (s : Session) (k : KStatId) : Session × Except Failure Unit :=
  if (s.kstat k).identity.type = .named then
    if (s.header k).hasData then (s, .ok ()) else s.refresh k
  else (s, .error (.notNamed (s.kstat k).identity))

def decode (s : Session) (k : KStatId) (r : Record) : Except Failure Statistic :=
  r.decode (some (k, (s.kstat k).identity))

def statistic (s : Session) (k : KStatId) (name : Bytes) : Session × Except Failure Statistic :=
  match s.prepare k with
  | (s, .error f) => (s, .error f)
  | (s, .ok ()) =>
    match s.handle.record? s.kernel (s.kstat k).record name with
    | (kernel, none) => ({ s with kernel }, .error (.noStatistic name (s.kstat k).identity))
    | (kernel, some r) => { s with kernel }.answer (s.decode k r)

def statisticAt (s : Session) (k : KStatId) (count index : Nat) : Except Failure Statistic :=
  match s.handle.recordAt? s.kernel (s.kstat k).record index with
  | none => .error (.missing index count (s.kstat k).identity)
  | some r => s.decode k r

/-- The first `n` results from an index on, or the first failure among them. -/
def collect {ε α : Type} (f : Nat → Except ε α) : (n index : Nat) → Except ε (List α)
  | 0, _ => .ok []
  | n + 1, index =>
    match f index with
    | .error e => .error e
    | .ok a =>
      match collect f n (index + 1) with
      | .error e => .error e
      | .ok rest => .ok (a :: rest)

/-- Every statistic that the header counts, in order. Memory for all of them is asked for at the start, and is
taken to suffice. -/
def statistics (s : Session) (k : KStatId) : Session × Except Failure (List Statistic) :=
  match s.prepare k with
  | (s, .error f) => (s, .error f)
  | (s, .ok ()) =>
    let count := (s.header k).ndata.toNat
    s.answer (collect (s.statisticAt k count) count 0)

def lookupStatistic (s : Session) (q : Query) (name : Bytes) : Session × Except Failure Statistic :=
  match s.lookup q with
  | (s, .error f) => (s, .error f)
  | (s, .ok k) => s.statistic k name

end Session

end KernelStats
