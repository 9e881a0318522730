import KernelStats.Client

/-!
# Runs

A run is a list of requests to one client, each answered before the next is made. A request that
names a token or an object that does not exist is refused, and so is an edit of something that is not
there; a refused request changes nothing.
-/

namespace KernelStats

inductive Request where
  | openToken (facility : Option Facility)
  | close (token : TokenId)
  | destroy (token : TokenId)
  | isOpen (token : TokenId)
  | cachedCount (token : TokenId)
  | all (token : TokenId)
  | lookup (token : TokenId) (query : Query)
  | lookupStatistic (token : TokenId) (query : Query) (name : Bytes)
  | refresh (kstat : KStatId)
  | statistic (kstat : KStatId) (name : Bytes)
  | statistics (kstat : KStatId)
  | edit (edit : Chain.Edit)
  deriving DecidableEq

inductive Reply where
  | opened (result : Except Failure TokenId)
  | closed (result : Except Failure Unit)
  | destroyed
  | isOpen (isOpen : Bool)
  | cachedCount (count : Nat)
  | all (kstats : List KStatId)
  | found (result : Except Failure KStatId)
  | refreshed (result : Except Failure Unit)
  | statistic (result : Except Failure Statistic)
  | statistics (result : Except Failure (List Statistic))
  | edited
  | noToken
  | noKStat
  | noRecord

/-- The same outcome with its result put another way. -/
def Outcome.map {α β : Type} (f : α → β) (o : Outcome α) : Outcome β :=
  { client := o.client, result := f o.result, log := o.log }

namespace Client

def refuse (c : Client) (reply : Reply) : Outcome Reply := { client := c, result := reply }

def withToken (c : Client) (t : TokenId) (answer : Outcome Reply) : Outcome Reply :=
  match c.tokens[t]? with
  | some { alive := true, .. } => answer
  | _ => c.refuse .noToken

def withKStat (c : Client) (k : KStatId) (answer : Outcome Reply) : Outcome Reply :=
  if k < c.kstats.length then answer else c.refuse .noKStat

def perform (c : Client) : Request → Outcome Reply
  | .openToken facility => (c.openToken facility).map .opened
  | .close t => c.withToken t ((c.close t).map .closed)
  | .destroy t => c.withToken t ((c.destroy t).map fun _ => .destroyed)
  | .isOpen t => c.withToken t { client := c, result := .isOpen (c.isOpen t) }
  | .cachedCount t => c.withToken t { client := c, result := .cachedCount (c.cachedCount t) }
  | .all t => c.withToken t ((c.all t).map .all)
  | .lookup t q => c.withToken t ((c.lookup t q).map .found)
  | .lookupStatistic t q name => c.withToken t ((c.lookupStatistic t q name).map .statistic)
  | .refresh k => c.withKStat k ((c.refresh k).map .refreshed)
  | .statistic k name => c.withKStat k ((c.statistic k name).map .statistic)
  | .statistics k => c.withKStat k ((c.statistics k).map .statistics)
  | .edit e =>
    match c.edit e with
    | some c => { client := c, result := .edited }
    | none => c.refuse .noRecord

def run (c : Client) (requests : List Request) : Client :=
  requests.foldl (fun c request => (c.perform request).client) c

def replies (c : Client) : List Request → List Reply
  | [] => []
  | request :: rest => (c.perform request).result :: (c.perform request).client.replies rest

theorem run_cons (c : Client) (request : Request) (rest : List Request) :
    c.run (request :: rest) = (c.perform request).client.run rest := rfl

theorem run_append (c : Client) (first second : List Request) :
    c.run (first ++ second) = (c.run first).run second := by
  simp [run, List.foldl_append]

end Client

end KernelStats
