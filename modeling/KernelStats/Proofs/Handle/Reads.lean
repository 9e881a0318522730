import KernelStats.Proofs.Handle.Calls
import KernelStats.Proofs.Lists

/-!
# What a read does

A read is the only call on a handle that touches a kstat. The chain decides by itself how it is
answered, whoever asks, and counts it; what it brings goes to the chain's own header through a live
handle, and into the private copy through a library handle. Either way the identities of the kstats stay
as they are. After a read that went well the copy holds the records as the
chain had them at that moment, their number, and the time by the chain's clock.
-/

namespace KernelStats

/-! ### Ids in lists -/

namespace RecordId

variable {α : Type} {xs : List α}

theorem update_self (id : RecordId) (xs : List α) : id.update (fun x => x) xs = xs := by
  match id with
  | ⟨0⟩ => rfl
  | ⟨i + 1⟩ => exact List.modify_id i xs

theorem update_of_none {id : RecordId} (h : id.get? xs = none) (f : α → α) : id.update f xs = xs := by
  match id with
  | ⟨0⟩ => rfl
  | ⟨i + 1⟩ => exact List.modify_eq_self (List.getElem?_eq_none_iff.1 h)

theorem mem_of_get? {id : RecordId} {x : α} (h : id.get? xs = some x) : x ∈ xs := by
  match id with
  | ⟨0⟩ => cases h
  | ⟨i + 1⟩ => exact List.mem_of_getElem? h

theorem map_update {γ : Type} (view : α → γ) {f : α → α} (hview : ∀ x, view (f x) = view x)
    (id : RecordId) (xs : List α) : (id.update f xs).map view = xs.map view := by
  match id with
  | ⟨0⟩ => rfl
  | ⟨i + 1⟩ => exact map_modify view hview xs i

theorem map_get? {γ : Type} (view : α → γ) (id : RecordId) (xs : List α) :
    id.get? (xs.map view) = (id.get? xs).map view := by
  match id with
  | ⟨0⟩ => rfl
  | ⟨i + 1⟩ => exact List.getElem?_map

theorem get?_update (id other : RecordId) (f : α → α) (xs : List α) :
    other.get? (id.update f xs) = if other = id then (other.get? xs).map f else other.get? xs := by
  match id, other with
  | ⟨0⟩, ⟨0⟩ => rfl
  | ⟨0⟩, ⟨j + 1⟩ => rfl
  | ⟨i + 1⟩, ⟨0⟩ => rfl
  | ⟨i + 1⟩, ⟨j + 1⟩ =>
    show (xs.modify i f)[j]? = if (⟨j + 1⟩ : RecordId) = ⟨i + 1⟩ then xs[j]?.map f else xs[j]?
    by_cases hij : i = j
    · subst hij
      rw [if_pos rfl, List.getElem?_modify_eq]
      rfl
    · have hne : (⟨j + 1⟩ : RecordId) ≠ ⟨i + 1⟩ := by simpa using Ne.symm hij
      rw [if_neg hne, List.getElem?_modify_ne _ _ hij]

end RecordId

/-! ### Reads of the chain -/

def Entry.load (clock : Int64) (e : Entry) : Entry :=
  { e with
    reads := e.reads + 1
    header := { e.header with
      snaptime := clock
      ndata := UInt32.ofNat e.records.length
      hasData := true } }

def Entry.counted (e : Entry) : Entry := { e with reads := e.reads + 1 }

namespace Chain

def identity? (c : Chain) (id : RecordId) : Option Identity :=
  (c.entry? id).map fun e => e.header.toIdentity

/-- The records of the kstat that an id names, as they are now. -/
def recordsOf (c : Chain) (id : RecordId) : List Record := ((c.entry? id).map Entry.records).getD []

/-- The error number that a read is answered with, zero if it goes well. -/
def readErrno (c : Chain) (id : RecordId) : Errno :=
  ((c.entry? id).map Entry.readErrno).getD .noAddress

variable {c : Chain} {id : RecordId}

theorem read_of_none (hentry : c.entry? id = none) : c.read id = (c, .noAddress) := by
  unfold read
  rw [hentry]

theorem read_of_good {e : Entry} (hentry : c.entry? id = some e) (hgood : e.readErrno = 0) :
    c.read id = ((c.update id (·.load c.clock)).tick, 0) := by
  unfold read
  rw [hentry]
  exact if_pos hgood

theorem read_of_bad {e : Entry} (hentry : c.entry? id = some e) (hbad : e.readErrno ≠ 0) :
    c.read id = (c.update id (·.counted), e.readErrno) := by
  unfold read
  rw [hentry]
  exact if_neg hbad

theorem errno_read (c : Chain) (id : RecordId) : (c.read id).2 = c.readErrno id := by
  cases hentry : c.entry? id with
  | none =>
    rw [read_of_none hentry]
    simp [readErrno, hentry]
  | some e =>
    have herrno : c.readErrno id = e.readErrno := by simp [readErrno, hentry]
    by_cases hgood : e.readErrno = 0
    · rw [read_of_good hentry hgood, herrno, hgood]
    · rw [read_of_bad hentry hgood, herrno]

theorem clock_read (c : Chain) (id : RecordId) :
    (c.read id).1.clock = if c.readErrno id = 0 then c.clock + 1 else c.clock := by
  rw [← errno_read]
  cases hentry : c.entry? id with
  | none => rw [read_of_none hentry]; rfl
  | some e =>
    by_cases hgood : e.readErrno = 0
    · rw [read_of_good hentry hgood]
      rfl
    · rw [read_of_bad hentry hgood, if_neg hgood]
      rfl

def identities (c : Chain) : List Identity := c.entries.map fun e => e.header.toIdentity

theorem identity?_eq (c : Chain) (id : RecordId) : c.identity? id = id.get? c.identities :=
  (RecordId.map_get? _ id c.entries).symm

theorem identities_update {f : Entry → Entry}
    (hf : ∀ e, (f e).header.toIdentity = e.header.toIdentity) (id : RecordId) :
    (c.update id f).identities = c.identities :=
  RecordId.map_update (fun e : Entry => e.header.toIdentity) hf id c.entries

theorem identity?_update {f : Entry → Entry}
    (hf : ∀ e, (f e).header.toIdentity = e.header.toIdentity) (other : RecordId) :
    (c.update id f).identity? other = c.identity? other := by
  rw [identity?_eq, identity?_eq, identities_update hf]

end Chain

/-! ### What a read touches -/

/-- What a read may do to the entry that it reads: it is counted, and data may come, but none goes, and what is
fixed of the kstat stays. -/
structure Entry.Touch (f : Entry → Entry) : Prop where
  reads : ∀ e, (f e).reads = e.reads + 1
  identity : ∀ e, (f e).header.toIdentity = e.header.toIdentity
  hasData : ∀ e, e.header.hasData = true → (f e).header.hasData = true

theorem Entry.touch_load (clock : Int64) : Touch (·.load clock) :=
  ⟨fun _ => rfl, fun _ => rfl, fun _ _ => rfl⟩

theorem Entry.touch_counted : Touch (·.counted) := ⟨fun _ => rfl, fun _ => rfl, fun _ hdata => hdata⟩

namespace Chain

/-- What a read of an id leaves of a chain: its entry is touched, if there is one, and the clock may go on. -/
def Touched (c : Chain) (id : RecordId) (c' : Chain) : Prop :=
  ∃ f clock, Entry.Touch f ∧ c' = { c.update id f with clock }

section

variable {c c' : Chain} {id : RecordId}

theorem touched_of_none (hentry : c.entry? id = none) : c.Touched id c :=
  ⟨_, c.clock, Entry.touch_counted,
    congrArg (fun entries => { c with entries }) (RecordId.update_of_none hentry _).symm⟩

theorem Touched.sameBooks (h : c.Touched id c') : c.SameBooks c' := by
  obtain ⟨f, clock, -, rfl⟩ := h
  exact ⟨rfl, rfl, rfl, rfl, rfl, c.length_update id f⟩

theorem Touched.identities (h : c.Touched id c') : c'.identities = c.identities := by
  obtain ⟨f, clock, htouch, rfl⟩ := h
  exact identities_update htouch.identity id

theorem Touched.identity? (h : c.Touched id c') (other : RecordId) : c'.identity? other = c.identity? other := by
  rw [identity?_eq, identity?_eq, h.identities]

theorem touched_read (c : Chain) (id : RecordId) : c.Touched id (c.read id).1 := by
  cases hentry : c.entry? id with
  | none =>
    rw [read_of_none hentry]
    exact touched_of_none hentry
  | some e =>
    by_cases hgood : e.readErrno = 0
    · rw [read_of_good hentry hgood]
      exact ⟨_, _, Entry.touch_load c.clock, rfl⟩
    · rw [read_of_bad hentry hgood]
      exact ⟨_, _, Entry.touch_counted, rfl⟩

end

end Chain

/-! ### Reads through the system library -/

def Control.Item.load (clock : Int64) (records : List Record) (i : Item) : Item :=
  { i with snaptime := clock, ndata := UInt32.ofNat records.length, data := some records }

def Control.load (c : Control) (id : RecordId) (clock : Int64) (records : List Record) : Control :=
  { items := id.update (Item.load clock records) c.items }

theorem Control.item?_load (c : Control) (id other : RecordId) (clock : Int64) (records : List Record) :
    (c.load id clock records).item? other =
      if other = id then (c.item? other).map (Item.load clock records) else c.item? other :=
  RecordId.get?_update id other _ c.items

namespace Handle

section

variable {k : Kernel} {control : Control} {id : RecordId}

theorem read_library_of_none (hentry : k.chain.entry? id = none) :
    (library (some control)).read k id = (k.fail .noAddress, library (some control), .noAddress) := by
  simp only [read, Kernel.readControl, hentry]
  rfl

theorem read_library_of_good {e : Entry} (hentry : k.chain.entry? id = some e) (hgood : e.readErrno = 0) :
    (library (some control)).read k id =
      ({ k with chain := (k.chain.update id (·.counted)).tick },
        library (some (control.load id k.chain.clock e.records)), 0) := by
  simp only [read, Kernel.readControl, hentry, if_pos hgood]
  rfl

theorem read_library_of_bad {e : Entry} (hentry : k.chain.entry? id = some e) (hbad : e.readErrno ≠ 0) :
    (library (some control)).read k id =
      (Kernel.fail { k with chain := k.chain.update id (·.counted) } e.readErrno,
        library (some control), e.readErrno) := by
  simp only [read, Kernel.readControl, hentry, if_neg hbad]
  rfl

theorem handle_read_library (k : Kernel) (control : Control) (id : RecordId) :
    ((library (some control)).read k id).2.1 =
      library (some (if k.chain.readErrno id = 0
        then control.load id k.chain.clock (k.chain.recordsOf id) else control)) := by
  cases hentry : k.chain.entry? id with
  | none =>
    have hbad : k.chain.readErrno id ≠ 0 := by
      simp only [Chain.readErrno, hentry]
      decide
    rw [read_library_of_none hentry, if_neg hbad]
  | some e =>
    have herrno : k.chain.readErrno id = e.readErrno := by simp [Chain.readErrno, hentry]
    have hrecords : k.chain.recordsOf id = e.records := by simp [Chain.recordsOf, hentry]
    by_cases hgood : e.readErrno = 0
    · rw [read_library_of_good hentry hgood, herrno, if_pos hgood, hrecords]
    · rw [read_library_of_bad hentry hgood, herrno, if_neg hgood]

end

/-! ### Reads through either handle -/

/-- Whoever reads, the chain is touched in the one place. -/
theorem touched_read {h : Handle} (hintact : h.Intact) (k : Kernel) (id : RecordId) :
    k.chain.Touched id (h.read k id).1.chain := by
  match h with
  | live => exact k.chain.touched_read id
  | library none => exact absurd rfl hintact
  | library (some control) =>
    cases hentry : k.chain.entry? id with
    | none =>
      rw [read_library_of_none hentry]
      exact Chain.touched_of_none hentry
    | some e =>
      by_cases hgood : e.readErrno = 0
      · rw [read_library_of_good hentry hgood]
        exact ⟨_, _, Entry.touch_counted, rfl⟩
      · rw [read_library_of_bad hentry hgood]
        exact ⟨_, _, Entry.touch_counted, rfl⟩

theorem chain_read (k : Kernel) (h : Handle) (id : RecordId) :
    (h.read k id).1.chain = k.chain ∨ k.chain.Touched id (h.read k id).1.chain := by
  by_cases hintact : h.Intact
  · exact .inr (touched_read hintact k id)
  · obtain rfl : h = library none := not_not.1 hintact
    exact .inl rfl

/-- Every handle hands on the answer of the chain, and the clock runs as for any other reader. -/
theorem read_eq_chain {h : Handle} (hintact : h.Intact) (k : Kernel) (id : RecordId) :
    (h.read k id).2.2 = (k.chain.read id).2 ∧ (h.read k id).1.chain.clock = (k.chain.read id).1.clock := by
  match h with
  | live => exact ⟨rfl, rfl⟩
  | library none => exact absurd rfl hintact
  | library (some control) =>
    cases hentry : k.chain.entry? id with
    | none =>
      rw [read_library_of_none hentry, Chain.read_of_none hentry]
      exact ⟨rfl, rfl⟩
    | some e =>
      by_cases hgood : e.readErrno = 0
      · rw [read_library_of_good hentry hgood, Chain.read_of_good hentry hgood]
        exact ⟨rfl, rfl⟩
      · rw [read_library_of_bad hentry hgood, Chain.read_of_bad hentry hgood]
        exact ⟨rfl, rfl⟩

theorem errno_read {h : Handle} (hintact : h.Intact) (k : Kernel) (id : RecordId) :
    (h.read k id).2.2 = k.chain.readErrno id :=
  (read_eq_chain hintact k id).1.trans (k.chain.errno_read id)

theorem clock_read {h : Handle} (hintact : h.Intact) (k : Kernel) (id : RecordId) :
    (h.read k id).1.chain.clock =
      if k.chain.readErrno id = 0 then k.chain.clock + 1 else k.chain.clock :=
  (read_eq_chain hintact k id).2.trans (k.chain.clock_read id)

theorem read_of_failed {h : Handle} {k : Kernel} {id : RecordId} (hbad : (h.read k id).2.2 ≠ 0) :
    (h.read k id).2.1 = h ∧ (h.read k id).1.chain.clock = k.chain.clock := by
  by_cases hintact : h.Intact
  · rw [errno_read hintact] at hbad
    refine ⟨?_, by rw [clock_read hintact, if_neg hbad]⟩
    match h with
    | live => rfl
    | library none => rfl
    | library (some control) => rw [handle_read_library, if_neg hbad]
  · obtain rfl : h = library none := not_not.1 hintact
    exact ⟨rfl, rfl⟩

/-! ### Identities -/

def identities (k : Kernel) : Handle → List Identity
  | live => k.chain.identities
  | library (some control) => control.items.map fun i => i.header.toIdentity
  | library none => []

def identity? (k : Kernel) (h : Handle) (id : RecordId) : Option Identity := id.get? (h.identities k)

theorem toIdentity_header (k : Kernel) (h : Handle) (id : RecordId) :
    (h.header k id).toIdentity = (h.identity? k id).getD {} := by
  match h with
  | live =>
    rw [identity?, identities, ← Chain.identity?_eq]
    simp only [header, Chain.identity?]
    cases k.chain.entry? id with
    | none => rfl
    | some e => rfl
  | library none =>
    have hnone : id.get? ([] : List Identity) = none := by
      rcases id with ⟨_ | i⟩
      · rfl
      · rfl
    rw [identity?, identities, hnone]
    rfl
  | library (some control) =>
    rw [identity?, identities, RecordId.map_get?]
    simp only [header, Control.item?]
    cases id.get? control.items with
    | none => rfl
    | some item => rfl

theorem length_identities (k : Kernel) (h : Handle) : (h.identities k).length = h.length k := by
  match h with
  | live => exact List.length_map _
  | library none => rfl
  | library (some control) => exact List.length_map _

theorem mem_walk_iff {k : Kernel} {h : Handle} {id : RecordId} :
    id ∈ h.walk k ↔ ∃ i, h.identity? k id = some i := by
  rw [mem_walk, ← length_identities]
  constructor
  · rintro ⟨i, hlt, rfl⟩
    exact ⟨_, List.getElem?_eq_getElem hlt⟩
  · rintro ⟨_, hsome⟩
    match id with
    | ⟨0⟩ => cases hsome
    | ⟨i + 1⟩ => exact ⟨i, (List.getElem?_eq_some_iff.1 hsome).1, rfl⟩

theorem identities_read (k : Kernel) (h : Handle) (id : RecordId) :
    (h.read k id).2.1.identities (h.read k id).1 = h.identities k := by
  match h with
  | live => exact (k.chain.touched_read id).identities
  | library none => rfl
  | library (some control) =>
    rw [handle_read_library]
    split
    · have hload : ∀ i : Control.Item,
          (i.load k.chain.clock (k.chain.recordsOf id)).header.toIdentity = i.header.toIdentity := fun _ => rfl
      exact RecordId.map_update (fun i : Control.Item => i.header.toIdentity) hload id control.items
    · rfl

end Handle

end KernelStats
