import KernelStats.Errno
import KernelStats.Identity
import KernelStats.Record
import KernelStats.RecordId

/-!
# The chain

The kernel keeps its kstats on a chain. An entry is a header with the records behind it; the header
counts and dates what the last read brought, so it may disagree with the records after an edit. The
chain has a clock, which every creation and every successful read moves on by one, the errors that it
is told to answer with, and counters of the calls made on it.

Apart from reads the chain changes by edits. An edit that names an entry or a record that is not
there does nothing and says so.
-/

namespace KernelStats

structure Entry where
  header : Header := {}
  records : List Record := []
  /-- The error with which every read fails, unless zero. -/
  readErrno : Errno := 0
  /-- The reads made so far, failed ones included. -/
  reads : Nat := 0
  deriving DecidableEq

/-- The kstats of a kernel, and how it answers. -/
structure Chain where
  entries : List Entry := []
  clock : Int64 := 1000
  /-- The error with which every open fails, unless zero. -/
  openErrno : Errno := 0
  /-- The error that every close reports, unless zero. -/
  closeErrno : Errno := 0
  /-- The error that the system library leaves when a lookup finds nothing, unless zero. -/
  lookupErrno : Errno := .noEntry
  opens : Nat := 0
  closes : Nat := 0
  lookups : Nat := 0
  deriving DecidableEq

namespace Chain

def length (c : Chain) : Nat := c.entries.length

def entry? (c : Chain) (id : RecordId) : Option Entry := id.get? c.entries

def update (c : Chain) (id : RecordId) (f : Entry → Entry) : Chain :=
  { c with entries := id.update f c.entries }

def tick (c : Chain) : Chain := { c with clock := c.clock + 1 }

/-- Reads a kstat: unless the read is told to fail, the header is dated and counts the records. -/
def read (c : Chain) (id : RecordId) : Chain × Errno :=
  match c.entry? id with
  | none => (c, .noAddress)
  | some entry =>
    if entry.readErrno = 0 then
      let loaded (e : Entry) : Entry :=
        { e with
          reads := e.reads + 1
          header := { e.header with
            snaptime := c.clock
            ndata := UInt32.ofNat e.records.length
            hasData := true } }
      ((c.update id loaded).tick, 0)
    else
      (c.update id fun e => { e with reads := e.reads + 1 }, entry.readErrno)

/-! ### Edits -/

structure Patch where
  moduleName : Option Bytes := none
  inst : Option Int32 := none
  name : Option Bytes := none
  className : Option Bytes := none
  type : Option KStatType := none
  crtime : Option Int64 := none
  snaptime : Option Int64 := none
  ndata : Option UInt32 := none
  hasData : Option Bool := none
  readErrno : Option Errno := none
  deriving DecidableEq

def Patch.apply (p : Patch) (e : Entry) : Entry :=
  { e with
    readErrno := p.readErrno.getD e.readErrno
    header :=
      { moduleName := p.moduleName.getD e.header.moduleName
        inst := p.inst.getD e.header.inst
        name := p.name.getD e.header.name
        className := p.className.getD e.header.className
        type := p.type.getD e.header.type
        crtime := p.crtime.getD e.header.crtime
        snaptime := p.snaptime.getD e.header.snaptime
        ndata := p.ndata.getD e.header.ndata
        hasData := p.hasData.getD e.header.hasData } }

/-- A change of the chain from outside. -/
inductive Edit where
  /-- Sets the clock and the errors to answer with. -/
  | set (clock : Option Int64) (openErrno closeErrno lookupErrno : Option Errno)
  /-- Appends a kstat created now, whose fields may then be changed. -/
  | add (identity : Identity) (records : List Record) (patch : Patch)
  | pop
  | amend (index : Nat) (patch : Patch)
  /-- Replaces a record of the kstat at an index, or appends one behind the last. -/
  | putRecord (index position : Nat) (record : Record)
  | retype (index position : Nat) (type : DataType)
  | popRecord (index : Nat)
  deriving DecidableEq

def add (c : Chain) (identity : Identity) (records : List Record) (patch : Patch) : Chain :=
  let header : Header := { identity with crtime := c.clock }
  { c.tick with entries := c.entries ++ [patch.apply { header, records }] }

def updateAt (c : Chain) (index : Nat) (f : Entry → Option Entry) : Option Chain := do
  let entry ← c.entries[index]?
  let entry ← f entry
  return { c with entries := c.entries.set index entry }

def edit (c : Chain) : Edit → Option Chain
  | .set clock openErrno closeErrno lookupErrno =>
    some { c with
      clock := clock.getD c.clock
      openErrno := openErrno.getD c.openErrno
      closeErrno := closeErrno.getD c.closeErrno
      lookupErrno := lookupErrno.getD c.lookupErrno }
  | .add identity records patch => some (c.add identity records patch)
  | .pop => if c.entries = [] then none else some { c with entries := c.entries.dropLast }
  | .amend index patch => c.updateAt index fun e => some (patch.apply e)
  | .putRecord index position record =>
    c.updateAt index fun e =>
      if position < e.records.length then
        some { e with records := e.records.set position record }
      else if position = e.records.length then some { e with records := e.records ++ [record] }
      else none
  | .retype index position type =>
    c.updateAt index fun e =>
      if position < e.records.length then
        some { e with records := e.records.modify position (·.retype type) }
      else none
  | .popRecord index =>
    c.updateAt index fun e =>
      if e.records = [] then none else some { e with records := e.records.dropLast }

theorem length_update (c : Chain) (id : RecordId) (f : Entry → Entry) :
    (c.update id f).length = c.length :=
  RecordId.length_update id f c.entries

end Chain

end KernelStats
