import KernelStats.Proofs.Handle.Lookups

/-!
# The records that a handle has

A handle is asked for a record by its name or by its position, and answers from one list: the records on
the chain itself, or those in the private copy, and none of them before a read brought the data. The
library answers for named kstats only, and by position no further than the header counts. A load makes
sure that the list is there, and it is there from then on.
-/

namespace KernelStats

/-! ### Counting -/

/-- An entry as it is, whatever was counted of its reads. -/
def Entry.unread (e : Entry) : Entry := { e with reads := 0 }

namespace Chain

/-- A chain on which lookups and the reads of one kstat were counted, and nothing else was done. -/
def counting (c : Chain) (lookups : Nat) (id : RecordId) (reads : Nat) : Chain :=
  { c.update id fun e => { e with reads := e.reads + reads } with lookups := c.lookups + lookups }

def unread (c : Chain) : List Entry := c.entries.map Entry.unread

theorem unread_counting (c : Chain) (lookups : Nat) (id : RecordId) (reads : Nat) :
    (c.counting lookups id reads).unread = c.unread := by
  have hcounted : ∀ e : Entry, Entry.unread { e with reads := e.reads + reads } = e.unread := fun _ => rfl
  exact RecordId.map_update Entry.unread hcounted id c.entries

theorem map_unread {α : Type} {view : Entry → α} (hview : ∀ e, view e.unread = view e) (c : Chain) :
    c.unread.map view = c.entries.map view := by
  rw [unread, List.map_map]
  exact List.map_congr_left fun e _ => hview e

theorem map_entry?_unread {α : Type} {view : Entry → α} (hview : ∀ e, view e.unread = view e) (c : Chain)
    (id : RecordId) : (c.entry? id).map view = id.get? (c.unread.map view) := by
  rw [map_unread hview, RecordId.map_get?, entry?]

theorem readErrno_congr {c c' : Chain} (hsame : c'.unread = c.unread) (id : RecordId) :
    c'.readErrno id = c.readErrno id := by
  rw [readErrno, readErrno, map_entry?_unread fun _ => rfl, map_entry?_unread fun _ => rfl, hsame]

theorem counting_none (c : Chain) (lookups : Nat) (id : RecordId) :
    c.counting lookups id 0 = { c with lookups := c.lookups + lookups } :=
  congrArg (fun entries => { c with entries, lookups := c.lookups + lookups }) (id.update_self c.entries)

end Chain

namespace Handle

/-- The records that a handle has for a kstat, none without data. -/
def records (k : Kernel) (h : Handle) (id : RecordId) : List Record :=
  match h with
  | live => ((k.chain.entry? id).map fun entry => if entry.header.hasData then entry.records else []).getD []
  | library (some control) => ((control.item? id).bind Control.Item.data).getD []
  | library none => []

/-- Makes sure that there is data for a kstat: reads it if the handle has none. -/
def load (k : Kernel) (h : Handle) (id : RecordId) : Kernel × Handle × Errno :=
  if (h.header k id).hasData then (k, h, 0) else h.read k id

/-- The header counts the records that are there, neither more nor fewer. -/
def Tallies (k : Kernel) (h : Handle) (id : RecordId) : Prop :=
  (h.header k id).ndata.toNat = (h.records k id).length

/-- A library handle knows a kstat, and as a named one. -/
def Names (k : Kernel) (h : Handle) (id : RecordId) : Prop :=
  h.facility = .library → ∃ i, h.identity? k id = some i ∧ i.type = .named

variable {k k' : Kernel} {h : Handle} {id : RecordId}

/-! ### What is shown does not depend on counters -/

section

variable (hsame : k'.chain.unread = k.chain.unread)

include hsame

theorem header_congr (h : Handle) (id : RecordId) : h.header k' id = h.header k id := by
  match h with
  | live =>
    rw [header, header, Chain.map_entry?_unread fun _ => rfl, Chain.map_entry?_unread fun _ => rfl, hsame]
  | library none => rfl
  | library (some control) => rfl

theorem records_congr (h : Handle) (id : RecordId) : h.records k' id = h.records k id := by
  match h with
  | live =>
    rw [records, records, Chain.map_entry?_unread fun _ => rfl, Chain.map_entry?_unread fun _ => rfl, hsame]
  | library none => rfl
  | library (some control) => rfl

theorem identities_of_unread (h : Handle) : h.identities k' = h.identities k := by
  match h with
  | live =>
    have hview : ∀ e : Entry, e.unread.header.toIdentity = e.header.toIdentity := fun _ => rfl
    rw [identities, identities, Chain.identities, Chain.identities, ← Chain.map_unread hview,
      ← Chain.map_unread hview, hsame]
  | library none => rfl
  | library (some control) => rfl

end

/-! ### One list for both questions -/

theorem names_live : live.Names k id := nofun

theorem Names.item {control : Option Control} (h : Names k (library control) id) :
    ∃ copy item, control = some copy ∧ copy.item? id = some item ∧ item.type = .named := by
  obtain ⟨i, hi, htype⟩ := h rfl
  cases control with
  | none =>
    rcases id with ⟨_ | index⟩
    · cases hi
    · cases hi
  | some copy =>
    rw [identity?, identities, RecordId.map_get?] at hi
    obtain ⟨item, hitem, rfl⟩ := Option.map_eq_some_iff.1 hi
    exact ⟨copy, item, rfl, hitem, htype⟩

theorem recordAt?_eq (hnames : h.Names k id) {index : Nat}
    (hindex : index < (h.header k id).ndata.toNat) : h.recordAt? k id index = (h.records k id)[index]? := by
  match h with
  | live =>
    unfold recordAt? records
    cases k.chain.entry? id with
    | none => rfl
    | some entry => cases hdata : entry.header.hasData <;> simp [hdata]
  | library control =>
    obtain ⟨copy, item, rfl, hitem, htype⟩ := hnames.item
    simp only [header, hitem, Option.map_some, Option.getD_some, Control.Item.header] at hindex
    obtain ⟨moduleName, inst, name, className, type, crtime, snaptime, ndata, data⟩ := item
    subst htype
    simp only [recordAt?, records, Option.getD_some, hitem, Option.bind_some]
    cases data with
    | none => rfl
    | some found =>
      simp only [true_and, if_pos hindex, Option.getD_some]
      cases found[index]? with
      | none => rfl
      | some r => exact congrArg some r.copy_eq

/-- The first record of a name is found, as far as the handle compares names. -/
theorem record?_eq (hnames : h.Names k id) (name : Bytes) :
    (h.record? k id name).2 = (h.records k id).find? fun r => r.name.text = h.key name := by
  match h with
  | live =>
    unfold record? records
    cases k.chain.entry? id with
    | none => rfl
    | some entry =>
      cases hdata : entry.header.hasData with
      | false => simp [hdata]
      | true =>
        simp only [hdata, if_true, Option.map_some, Option.getD_some]
        rfl
  | library control =>
    obtain ⟨copy, item, rfl, hitem, htype⟩ := hnames.item
    obtain ⟨moduleName, inst, itemName, className, type, crtime, snaptime, ndata, data⟩ := item
    subst htype
    simp only [record?, Kernel.recordControl, records, Option.getD_some, hitem, Option.bind_some]
    cases data with
    | none => rfl
    | some found =>
      have hagree : (fun r : Record => Bytes.agree nameSize r.name.bytes name) =
          fun r => decide (r.name.text = (library (some copy)).key name) :=
        funext fun r => r.name.agree_bytes name
      simp only [hagree, if_true, Option.getD_some]
      cases found.find? fun r => decide (r.name.text = (library (some copy)).key name) with
      | none => rfl
      | some r => simp

/-! ### Loads -/

theorem load_of_data (hdata : (h.header k id).hasData = true) : h.load k id = (k, h, 0) := if_pos hdata

theorem load_of_no_data (hdata : (h.header k id).hasData = false) : h.load k id = h.read k id := by
  rw [load, hdata]
  rfl

theorem loaded_of_read (hintact : h.Intact) (hnames : h.Names k id) (hgood : (h.read k id).2.2 = 0) :
    ((h.read k id).2.1.header (h.read k id).1 id).hasData = true ∧
      ((h.read k id).2.1.header (h.read k id).1 id).ndata = UInt32.ofNat (k.chain.recordsOf id).length ∧
      (h.read k id).2.1.records (h.read k id).1 id = k.chain.recordsOf id := by
  rw [errno_read hintact] at hgood
  match h with
  | live =>
    cases hentry : k.chain.entry? id with
    | none =>
      simp only [Chain.readErrno, hentry] at hgood
      exact absurd hgood (by decide)
    | some e =>
      have he : e.readErrno = 0 := by simpa [Chain.readErrno, hentry] using hgood
      have hloaded : Chain.entry? (k.chain.read id).1 id = some (e.load k.chain.clock) := by
        rw [Chain.read_of_good hentry he]
        show id.get? (id.update _ k.chain.entries) = _
        rw [RecordId.get?_update, if_pos rfl]
        exact congrArg (Option.map _) hentry
      have hread : live.read k id = ({ k with chain := (k.chain.read id).1 }, live, (k.chain.read id).2) := rfl
      simp only [hread, header, records, hloaded, Chain.recordsOf, hentry]
      exact ⟨rfl, rfl, rfl⟩
  | library control =>
    obtain ⟨copy, item, rfl, hitem, -⟩ := hnames.item
    have hloaded : (copy.load id k.chain.clock (k.chain.recordsOf id)).item? id =
        some (item.load k.chain.clock (k.chain.recordsOf id)) := by
      rw [Control.item?_load, if_pos rfl, hitem]
      rfl
    rw [handle_read_library, if_pos hgood]
    simp only [header, records, hloaded]
    exact ⟨rfl, rfl, rfl⟩

theorem hasData_load (hintact : h.Intact) (hnames : h.Names k id) (hgood : (h.load k id).2.2 = 0) :
    ((h.load k id).2.1.header (h.load k id).1 id).hasData = true := by
  cases hdata : (h.header k id).hasData with
  | true => rw [load_of_data hdata, hdata]
  | false =>
    rw [load_of_no_data hdata] at hgood ⊢
    exact (loaded_of_read hintact hnames hgood).1

theorem names_load (hnames : h.Names k id) : (h.load k id).2.1.Names (h.load k id).1 id := by
  cases hdata : (h.header k id).hasData with
  | true => rwa [load_of_data hdata]
  | false =>
    rw [load_of_no_data hdata]
    intro hlibrary
    rw [facility_read] at hlibrary
    rw [identity?, identities_read]
    exact hnames hlibrary

/-- A read that goes well leaves a header that counts the records, if they are not too many to count. -/
theorem tallies_of_read (hintact : h.Intact) (hnames : h.Names k id) (hgood : (h.read k id).2.2 = 0)
    (hfew : (k.chain.recordsOf id).length < UInt32.size) :
    (h.read k id).2.1.Tallies (h.read k id).1 id := by
  obtain ⟨-, hcount, hrecords⟩ := loaded_of_read hintact hnames hgood
  rw [Tallies, hcount, hrecords, UInt32.toNat_ofNat_of_lt' hfew]

/-! ### Reads that fail -/

theorem chain_read_of_failed (hintact : h.Intact) (hbad : (h.read k id).2.2 ≠ 0) :
    (h.read k id).1.chain = k.chain.counting 0 id 1 := by
  rw [errno_read hintact] at hbad
  cases hentry : k.chain.entry? id with
  | none =>
    have hnone : k.chain.counting 0 id 1 = k.chain :=
      congrArg (fun entries => { k.chain with entries }) (RecordId.update_of_none hentry _)
    rw [hnone]
    match h with
    | live => exact congrArg Prod.fst (Chain.read_of_none hentry)
    | library none => rfl
    | library (some control) =>
      rw [read_library_of_none hentry]
      rfl
  | some e =>
    have he : e.readErrno ≠ 0 := by simpa [Chain.readErrno, hentry] using hbad
    match h with
    | live => exact congrArg Prod.fst (Chain.read_of_bad hentry he)
    | library none => exact absurd rfl hintact
    | library (some control) =>
      rw [read_library_of_bad hentry he]
      rfl

end Handle

end KernelStats
