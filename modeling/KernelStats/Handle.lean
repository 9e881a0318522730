import KernelStats.Control
import KernelStats.Event

/-!
# Handles

All that lies above this module reaches kstats through a handle. There are two kinds. A live handle
works on the chain itself, so it sees every edit at once and shares loaded data with every other live
handle. A library handle works through the system library on a private copy, and turns the library's
answers into ids, headers, records and error numbers: it clears the error number before a lookup
that may leave none, and it gives its copy back once, at the first close or when it is dropped.
-/

namespace KernelStats

/-- An open way to the kstats of a kernel. -/
inductive Handle where
  | live
  /-- A handle on a private copy, which is gone after a close. -/
  | library (control : Option Control)
  deriving DecidableEq

namespace Handle

def length (k : Kernel) : Handle → Nat
  | live => k.chain.length
  | library (some control) => control.length
  | library none => 0

def head? (k : Kernel) (h : Handle) : Option RecordId := RecordId.first? (h.length k)

def next? (k : Kernel) (h : Handle) (id : RecordId) : Option RecordId := id.next? (h.length k)

/-- Every id of the handle's chain, from the first on. -/
def walk (k : Kernel) (h : Handle) : List RecordId :=
  match h.head? k with
  | some first => first.walk (h.length k)
  | none => []

/-- What the handle says about a kstat; nothing, if the id names none. -/
def header (k : Kernel) (h : Handle) (id : RecordId) : Header :=
  match h with
  | live => ((k.chain.entry? id).map Entry.header).getD {}
  | library (some control) => ((control.item? id).map Control.Item.header).getD {}
  | library none => {}

def read (k : Kernel) (h : Handle) (id : RecordId) : Kernel × Handle × Errno :=
  match h with
  | live =>
    let (chain, errno) := k.chain.read id
    ({ k with chain }, live, errno)
  | library (some control) =>
    match k.readControl control id with
    | (k, control, true) => (k, library (some control), 0)
    | (k, control, false) => (k, library (some control), k.errno)
  | library none => (k, library none, .noAddress)

/-- The text that a query hands to the library, none if it is left open. -/
private def given (text : Bytes) : Option Bytes := if text = [] then none else some text

def lookup (k : Kernel) (h : Handle) (q : Query) : Kernel × Except Errno RecordId :=
  match h with
  | live =>
    let k := { k with chain := { k.chain with lookups := k.chain.lookups + 1 } }
    match k.chain.entries.findIdx? fun e => q.admits e.header.toIdentity with
    | some index => (k, .ok (.ofIndex index))
    | none => (k, .error .noEntry)
  | library control =>
    match (k.fail 0).lookupControl (control.getD ⟨[]⟩) (given q.moduleName) q.inst (given q.name) with
    | (k, some id) => (k, .ok id)
    | (k, none) => (k, .error (if k.errno = 0 then .noEntry else k.errno))

def record? (k : Kernel) (h : Handle) (id : RecordId) (name : Bytes) : Kernel × Option Record :=
  match h with
  | live =>
    match k.chain.entry? id with
    | some entry =>
      (k, if entry.header.hasData then entry.records.find? fun r => r.name.text = name else none)
    | none => (k, none)
  | library control =>
    let (k, found) := k.recordControl (control.getD ⟨[]⟩) id name
    (k, found.map Record.copy)

def recordAt? (k : Kernel) (h : Handle) (id : RecordId) (index : Nat) : Option Record :=
  match h with
  | live =>
    match k.chain.entry? id with
    | some entry => if entry.header.hasData then entry.records[index]? else none
    | none => none
  | library control =>
    match (control.getD ⟨[]⟩).item? id with
    | some { type, ndata, data := some records, .. } =>
      if type = .named ∧ index < ndata.toNat then records[index]?.map Record.copy else none
    | _ => none

/-- Closes the handle, and answers with an error number. A library handle is closed once, however
often it is asked; a live handle passes every close on. -/
def close (k : Kernel) : Handle → Kernel × Handle × Errno
  | live =>
    ({ k with chain := { k.chain with closes := k.chain.closes + 1 } }, live, k.chain.closeErrno)
  | library (some _) =>
    match k.closeControl with
    | (k, true) => (k, library none, 0)
    | (k, false) => (k, library none, k.errno)
  | library none => (k, library none, 0)

/-- Lets the handle go. A library handle that was never closed gives its copy back now. -/
def drop (k : Kernel) : Handle → Kernel × List Event
  | library (some _) =>
    match k.closeControl with
    | (k, true) => (k, [])
    | (k, false) => (k, [.leaked k.errno])
  | live | library none => (k, [])

end Handle

/-! ### Facilities -/

inductive Facility where
  /-- The chain itself. -/
  | live
  /-- The system library. -/
  | library
  /-- A platform without kstats. -/
  | unsupported
  /-- A facility that reports success and gives nothing. -/
  | barren
  deriving DecidableEq, Repr

structure Opening where
  kernel : Kernel
  errno : Errno
  handle : Option Handle
  log : List Event := []

def Facility.openHandle (k : Kernel) : Facility → Opening
  | live =>
    let kernel := { k with chain := { k.chain with opens := k.chain.opens + 1 } }
    if k.chain.openErrno = 0 then { kernel, errno := 0, handle := some .live }
    else { kernel, errno := k.chain.openErrno, handle := none }
  | library =>
    match k.openControl with
    | (kernel, some control) => { kernel, errno := 0, handle := some (.library (some control)) }
    | (kernel, none) =>
      { kernel, errno := kernel.errno, handle := none, log := [.openFailed kernel.errno] }
  | unsupported =>
    { kernel := k, errno := .unsupported, handle := none, log := [.unsupported] }
  | barren => { kernel := k, errno := 0, handle := none }

end KernelStats
