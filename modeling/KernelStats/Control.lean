import KernelStats.Chain

/-!
# The system library

A program does not walk the kernel's chain itself. The system library opens a `Control`, a private
copy of the chain as it is at that moment, and answers from the copy: names in fields of 31 bytes,
kstats in their order, no data until a read brings it. Edits of the chain show only in a later open,
except that a read fetches the records as they are now.

A call that fails leaves its reason in the error number of the kernel, and a call that succeeds
leaves the number alone. So the number tells of the last failure, whenever that was, and a caller has
to look at the outcome first.
-/

namespace KernelStats

/-- The kernel as a program meets it: its chain, and the error number of the last failed call. -/
structure Kernel where
  chain : Chain := {}
  errno : Errno := 0
  deriving DecidableEq

structure Control.Item where
  moduleName : Field nameSize
  inst : Int32
  name : Field nameSize
  className : Field nameSize
  type : KStatType
  crtime : Int64
  snaptime : Int64
  ndata : UInt32
  /-- The records that the last successful read brought. -/
  data : Option (List Record) := none
  deriving DecidableEq

structure Control where
  items : List Control.Item
  deriving DecidableEq

namespace Control

namespace Item

/-- The copy of an entry; names are cut to their fields, and no data comes along. -/
def ofEntry (e : Entry) : Item :=
  { moduleName := .ofBytes nameSize e.header.moduleName
    inst := e.header.inst
    name := .ofBytes nameSize e.header.name
    className := .ofBytes nameSize e.header.className
    type := e.header.type
    crtime := e.header.crtime
    snaptime := e.header.snaptime
    ndata := e.header.ndata }

def header (i : Item) : Header :=
  { moduleName := i.moduleName.text
    inst := i.inst
    name := i.name.text
    className := i.className.text
    type := i.type
    crtime := i.crtime
    snaptime := i.snaptime
    ndata := i.ndata
    hasData := i.data.isSome }

/-- Whether a name field holds the text asked for, if one is asked for. Both are compared as
terminated texts, and no further than the field goes. -/
def holds (field : Field nameSize) : Option Bytes → Bool
  | none => true
  | some text => Bytes.agree nameSize field.bytes text

end Item

def ofChain (c : Chain) : Control := { items := c.entries.map .ofEntry }

def length (c : Control) : Nat := c.items.length

def item? (c : Control) (id : RecordId) : Option Item := id.get? c.items

end Control

namespace Kernel

def fail (k : Kernel) (e : Errno) : Kernel := { k with errno := e }

def openControl (k : Kernel) : Kernel × Option Control :=
  let counted := { k with chain := { k.chain with opens := k.chain.opens + 1 } }
  if k.chain.openErrno = 0 then (counted, some (.ofChain k.chain))
  else (counted.fail k.chain.openErrno, none)

/-- Gives a private copy back, and says whether that went well. The copy is gone either way. -/
def closeControl (k : Kernel) : Kernel × Bool :=
  let counted := { k with chain := { k.chain with closes := k.chain.closes + 1 } }
  if k.chain.closeErrno = 0 then (counted, true) else (counted.fail k.chain.closeErrno, false)

/-- Reads a kstat: its records as they are now come into the copy, dated by the clock. Says whether
that went well. -/
def readControl (k : Kernel) (c : Control) (id : RecordId) : Kernel × Control × Bool :=
  match k.chain.entry? id with
  | none => (k.fail .noAddress, c, false)
  | some entry =>
    let counted := { k with chain := k.chain.update id fun e => { e with reads := e.reads + 1 } }
    if entry.readErrno = 0 then
      let loaded (i : Control.Item) : Control.Item :=
        { i with
          snaptime := k.chain.clock
          ndata := UInt32.ofNat entry.records.length
          data := some entry.records }
      ({ counted with chain := counted.chain.tick }, { items := id.update loaded c.items }, true)
    else (counted.fail entry.readErrno, c, false)

/-- Finds the first kstat of the copy that answers; an absent name and the instance -1 answer to
everything. When nothing is found, the reason is left only if the kernel has one to give. -/
def lookupControl (k : Kernel) (c : Control) (moduleName : Option Bytes) (inst : Int32)
    (name : Option Bytes) : Kernel × Option RecordId :=
  let counted := { k with chain := { k.chain with lookups := k.chain.lookups + 1 } }
  let answers (i : Control.Item) : Bool :=
    Control.Item.holds i.moduleName moduleName &&
      (inst = Query.anyInstance || inst = i.inst) &&
      Control.Item.holds i.name name
  match c.items.findIdx? answers with
  | some index => (counted, some (.ofIndex index))
  | none =>
    (if k.chain.lookupErrno = 0 then counted else counted.fail k.chain.lookupErrno, none)

/-- Finds the first record of that name in the data of a kstat. Without named data there is nothing
to search. -/
def recordControl (k : Kernel) (c : Control) (id : RecordId) (name : Bytes) :
    Kernel × Option Record :=
  match c.item? id with
  | some { type, data := some records, .. } =>
    if type = .named then
      match records.find? fun r => Bytes.agree nameSize r.name.bytes name with
      | some record => (k, some record)
      | none => (k.fail .noEntry, none)
    else (k.fail .invalid, none)
  | _ => (k.fail .invalid, none)

end Kernel

end KernelStats
