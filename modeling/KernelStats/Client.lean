import KernelStats.Session

/-!
# Clients

A client holds everything that calls share: the kernel, the tokens it has opened, and every kstat
object that a token ever made. Tokens and objects are known by numbers and are never forgotten, so
that an object stays readable when its token is closed or gone.

A call on a token runs as a `Session` if the token is open, and otherwise answers at once and touches
nothing. A token that is closed has no handle and an empty cache, whether or not the close went well.
Every call comes with the events that it reported.
-/

namespace KernelStats

/-- A token. It is open while it has a handle. -/
structure Token where
  handle : Option Handle := none
  cache : Cache KStatId := .empty
  /-- Whether the token itself is still there to be called. -/
  alive : Bool := true

structure Client where
  kernel : Kernel := {}
  tokens : List Token := []
  kstats : List KStat := []

/-- The client after a call, with the call's result and the events that it reported. -/
structure Outcome (α : Type) where
  client : Client
  result : α
  log : List Event := []

namespace Client

/-- Runs a call as a session of a token, or answers with `closed` if the token is not open. -/
def onOpen {α : Type} (c : Client) (t : TokenId) (closed : α) (call : Session → Session × α) :
    Outcome α :=
  match c.tokens[t]? with
  | some { handle := some handle, cache, alive } =>
    let (s, result) := call { token := t, kernel := c.kernel, handle, cache, kstats := c.kstats }
    { client :=
        { kernel := s.kernel
          tokens := c.tokens.set t { handle := some s.handle, cache := s.cache, alive }
          kstats := s.kstats }
      result
      log := s.log }
  | _ => { client := c, result := closed }

/-! ### Calls on tokens -/

def openToken (c : Client) (facility : Option Facility) : Outcome (Except Failure TokenId) :=
  match facility with
  | none => { client := c, result := .error .noFacility }
  | some facility =>
    let opening := facility.openHandle c.kernel
    let c := { c with kernel := opening.kernel }
    match opening.handle with
    | some handle =>
      if opening.errno = 0 then
        { client := { c with tokens := c.tokens ++ [{ handle := some handle }] }
          result := .ok c.tokens.length
          log := opening.log ++ [.tokenOpened] }
      else { client := c, result := .error (.cannotOpen opening.errno), log := opening.log }
    | none => { client := c, result := .error (.cannotOpen opening.errno), log := opening.log }

/-- Closes a token. The handle is gone and the cache is empty afterwards, even if the handle reports
an error. A token that is not open is left as it is. -/
def close (c : Client) (t : TokenId) : Outcome (Except Failure Unit) :=
  match c.tokens[t]? with
  | some { handle := some handle, cache, alive } =>
    let (kernel, handle, errno) := handle.close c.kernel
    let (kernel, leaks) := handle.drop kernel
    let c := { c with kernel, tokens := c.tokens.set t { handle := none, cache := .empty, alive } }
    let log := leaks ++ [.tokenClosed cache.size]
    if errno = 0 then { client := c, result := .ok (), log }
    else { client := c, result := .error (.closeFailed errno), log := log ++ [.closeFailed errno] }
  | _ => { client := c, result := .ok () }

def destroy (c : Client) (t : TokenId) : Outcome Unit :=
  let closed := c.close t
  let gone (token : Token) : Token := { token with alive := false }
  { client := { closed.client with tokens := closed.client.tokens.modify t gone }
    result := ()
    log := closed.log ++
      match closed.result with
      | .ok () => []
      | .error f => [.abandoned f] }

def isOpen (c : Client) (t : TokenId) : Bool := (c.tokens[t]?.bind Token.handle).isSome

def cachedCount (c : Client) (t : TokenId) : Nat := (c.tokens[t]?.map (·.cache.size)).getD 0

def all (c : Client) (t : TokenId) : Outcome (List KStatId) := c.onOpen t [] Session.all

def lookup (c : Client) (t : TokenId) (q : Query) : Outcome (Except Failure KStatId) :=
  c.onOpen t (.error .closedToken) (·.lookup q)

def lookupStatistic (c : Client) (t : TokenId) (q : Query) (name : Bytes) :
    Outcome (Except Failure Statistic) :=
  c.onOpen t (.error .closedToken) (·.lookupStatistic q name)

/-! ### Calls on kstat objects -/

def kstat? (c : Client) (k : KStatId) : Option KStat := c.kstats[k]?

def onKStat {α : Type} (c : Client) (k : KStatId)
    (call : Session → Session × Except Failure α) : Outcome (Except Failure α) :=
  match c.kstat? k with
  | some kstat => c.onOpen kstat.token (.error .closedKStat) call
  | none => { client := c, result := .error .closedKStat }

def refresh (c : Client) (k : KStatId) : Outcome (Except Failure Unit) :=
  c.onKStat k (·.refresh k)

def statistic (c : Client) (k : KStatId) (name : Bytes) : Outcome (Except Failure Statistic) :=
  c.onKStat k (·.statistic k name)

def statistics (c : Client) (k : KStatId) : Outcome (Except Failure (List Statistic)) :=
  c.onKStat k (·.statistics k)

/-! ### What is shown without a call -/

def owner? (c : Client) (s : Statistic) : Option KStat := s.parent.bind c.kstat?

def label (c : Client) (s : Statistic) : Bytes :=
  Statistic.label ((c.owner? s).map KStat.identity) s.name

/-- The members under which a statistic is shown now. -/
def document (c : Client) (s : Statistic) : Document := s.document (c.owner? s)

/-! ### The chain from outside -/

def edit (c : Client) (e : Chain.Edit) : Option Client := do
  let chain ← c.kernel.chain.edit e
  return { c with kernel := { c.kernel with chain } }

end Client

end KernelStats
