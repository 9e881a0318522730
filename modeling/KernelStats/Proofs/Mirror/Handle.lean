import KernelStats.Proofs.Handle.Records
import KernelStats.Proofs.Mirror.Chain
import Mathlib.Data.List.Find

/-!
# Two handles that cannot be told apart

A live handle and a library handle on the same kstats work on different things: the live one on the chain
itself, and the other on its private copy. They still answer alike, call by call, as long as the copy
`Mirrors` the chain of the live one. There is one lemma for each call, which says that the answers are
the same and that the copy is a mirror afterwards.
-/

namespace KernelStats

/-- The private copy of a library handle shows what a live handle sees on its own chain. -/
structure Control.Mirrors (control : Control) (live library : Kernel) : Prop where
  alike : live.chain.Alike library.chain
  shows : List.Forall₂ Control.Item.Shows live.chain.entries control.items
  tidy : live.chain.Tidy

structure Query.Fits (q : Query) : Prop where
  moduleName : q.moduleName.Fits
  name : q.name.Fits

namespace Control.Mirrors

variable {control : Control} {k k' : Kernel}

theorem length_eq (h : control.Mirrors k k') :
    (Handle.library (some control)).length k' = Handle.live.length k :=
  h.shows.length_eq.symm

theorem walk_eq (h : control.Mirrors k k') :
    (Handle.library (some control)).walk k' = Handle.live.walk k := by
  rw [Handle.walk_eq, Handle.walk_eq, h.length_eq]

theorem header_eq (h : control.Mirrors k k') (id : RecordId) :
    (Handle.library (some control)).header k' id = Handle.live.header k id := by
  show ((id.get? control.items).map Item.header).getD {} = ((id.get? k.chain.entries).map Entry.header).getD {}
  rcases RecordId.get?_of_forall₂ h.shows id with ⟨hentry, hitem⟩ | ⟨entry, item, hentry, hitem, hshows⟩
  · rw [hentry, hitem]
    rfl
  · rw [hentry, hitem]
    exact hshows.header

theorem lookup_eq (h : control.Mirrors k k') {q : Query} (hq : q.Fits) :
    ((Handle.library (some control)).lookup k' q).2 = (Handle.live.lookup k q).2 := by
  have hfind : (control.items.findIdx? fun i =>
      Item.holds i.moduleName (if q.moduleName = [] then none else some q.moduleName) &&
        (q.inst = Query.anyInstance || q.inst = i.inst) &&
        Item.holds i.name (if q.name = [] then none else some q.name)) =
      k.chain.entries.findIdx? fun e => q.admits e.header.toIdentity := by
    symm
    apply findIdx?_of_forall₂ h.shows
    intro e i hshows
    have hmodule : i.moduleName.text = e.header.moduleName := congrArg (·.moduleName) hshows.header
    have hinst : i.inst = e.header.inst := congrArg (·.inst) hshows.header
    have hname : i.name.text = e.header.name := congrArg (·.name) hshows.header
    rw [Item.holds_given, Item.holds_given, hq.moduleName.bounded, hq.name.bounded, hmodule, hinst, hname]
    rfl
  have hquiet : (k'.fail 0).chain.lookupErrno = 0 ∨ (k'.fail 0).chain.lookupErrno = .noEntry := by
    show k'.chain.lookupErrno = 0 ∨ k'.chain.lookupErrno = .noEntry
    rw [h.alike.lookupErrno]
    exact h.tidy.lookupErrno
  rw [Handle.lookup_library]
  simp only [Kernel.lookupControl, Handle.lookup, Option.getD_some, hfind]
  cases k.chain.entries.findIdx? fun e => q.admits e.header.toIdentity with
  | some index => rfl
  | none =>
    rcases hquiet with hzero | hnone
    · simp only [if_pos hzero]
      rfl
    · simp only [hnone]
      rfl

theorem lookup (h : control.Mirrors k k') (q : Query) :
    control.Mirrors (Handle.live.lookup k q).1 ((Handle.library (some control)).lookup k' q).1 where
  alike := by
    rw [Handle.chain_lookup, Handle.chain_lookup]
    obtain ⟨hentries, hclock, hopen, hclose, hlookup, hopens, hcloses, hlookups⟩ := h.alike
    exact ⟨hentries, hclock, hopen, hclose, hlookup, hopens, hcloses, congrArg (· + 1) hlookups⟩
  shows := by
    rw [Handle.chain_lookup]
    exact h.shows
  tidy := by
    rw [Handle.chain_lookup]
    exact ⟨h.tidy.records, h.tidy.lookupErrno⟩

/-- A read that goes well dates the kstat on the chain of one side, and its copy on the other. -/
theorem load (h : control.Mirrors k k') {id : RecordId} {e e' : Entry}
    (hentry : k.chain.entry? id = some e) (halike : e.Alike e') :
    (control.load id k'.chain.clock e'.records).Mirrors
      { k with chain := (k.chain.update id (·.load k.chain.clock)).tick }
      { k' with chain := (k'.chain.update id (·.counted)).tick } := by
  have hloaded : ∀ e e' : Entry, e.Alike e' → (e.load k.chain.clock).Alike e'.counted :=
    fun e e' h => ⟨h.records, h.readErrno, congrArg (· + 1) h.reads⟩
  have hrecords : ∀ e : Entry, (e.load k.chain.clock).records = e.records := fun _ => rfl
  have htidy := h.tidy.update id hrecords
  refine ⟨?_, ?_, htidy.records, htidy.lookupErrno⟩
  · exact { h.alike.update id hloaded with clock := congrArg (· + 1) h.alike.clock }
  · refine RecordId.update_of_forall₂ h.shows id fun e₁ i hentry₁ _ hshows => ?_
    obtain rfl : e₁ = e := Option.some.inj (hentry₁.symm.trans hentry)
    rw [halike.records, h.alike.clock]
    exact hshows.load _

theorem counted (h : control.Mirrors k k') (id : RecordId) (errno : Errno) :
    control.Mirrors { k with chain := k.chain.update id (·.counted) }
      { k' with chain := k'.chain.update id (·.counted), errno } := by
  have hcounted : ∀ e e' : Entry, e.Alike e' → e.counted.Alike e'.counted :=
    fun e e' h => ⟨h.records, h.readErrno, congrArg (· + 1) h.reads⟩
  have hrecords : ∀ e : Entry, e.counted.records = e.records := fun _ => rfl
  refine ⟨h.alike.update id hcounted, ?_, h.tidy.update id hrecords⟩
  have hshows := RecordId.update_of_forall₂ h.shows id fun e i _ _ hshows =>
    show Item.Shows e.counted i from ⟨hshows.header, hshows.data⟩
  rwa [RecordId.update_self] at hshows

theorem read (h : control.Mirrors k k') (id : RecordId) :
    ∃ control' kernel e,
      (Handle.library (some control)).read k' id = (kernel, .library (some control'), e) ∧
      (Handle.live.read k id).2 = (.live, e) ∧ control'.Mirrors (Handle.live.read k id).1 kernel := by
  have hlive : Handle.live.read k id =
      ({ k with chain := (k.chain.read id).1 }, .live, (k.chain.read id).2) := rfl
  rw [hlive]
  rcases RecordId.get?_of_forall₂ h.alike.entries id with ⟨hentry, hentry'⟩ |
    ⟨e, e', hentry, hentry', halike⟩
  · refine ⟨control, k'.fail .noAddress, .noAddress, ?_, ?_, ?_⟩
    · exact Handle.read_library_of_none hentry'
    · rw [Chain.read_of_none hentry]
    · rw [Chain.read_of_none hentry]
      exact ⟨h.alike, h.shows, h.tidy⟩
  by_cases hgood : e.readErrno = 0
  · have hgood' : e'.readErrno = 0 := halike.readErrno.trans hgood
    refine ⟨control.load id k'.chain.clock e'.records,
      { k' with chain := (k'.chain.update id (·.counted)).tick }, 0, ?_, ?_, ?_⟩
    · exact Handle.read_library_of_good hentry' hgood'
    · rw [Chain.read_of_good hentry hgood]
    · rw [Chain.read_of_good hentry hgood]
      exact h.load hentry halike
  · have hbad' : e'.readErrno ≠ 0 := fun hzero => hgood (halike.readErrno.symm.trans hzero)
    refine ⟨control, Kernel.fail { k' with chain := k'.chain.update id (·.counted) } e'.readErrno,
      e'.readErrno, ?_, ?_, ?_⟩
    · exact Handle.read_library_of_bad hentry' hbad'
    · rw [Chain.read_of_bad hentry hgood, halike.readErrno]
    · rw [Chain.read_of_bad hentry hgood]
      exact h.counted id e'.readErrno

/-! ### Records -/

theorem records_eq (h : control.Mirrors k k') (id : RecordId) :
    (Handle.library (some control)).records k' id = Handle.live.records k id := by
  simp only [Handle.records]
  rcases RecordId.get?_of_forall₂ h.shows id with ⟨hentry, hitem⟩ | ⟨e, i, hentry, hitem, hshows⟩
  · rw [Control.item?, hitem, Chain.entry?, hentry]
    rfl
  · rw [Control.item?, hitem, Chain.entry?, hentry, Option.bind_some, hshows.data, Option.map_some]
    cases e.header.hasData with
    | false => rfl
    | true => rfl

theorem mem_records_live {id : RecordId} {r : Record} (hr : r ∈ Handle.live.records k id) :
    ∃ e ∈ k.chain.entries, r ∈ e.records := by
  unfold Handle.records at hr
  cases hentry : k.chain.entry? id with
  | none => simp [hentry] at hr
  | some e =>
    refine ⟨e, RecordId.mem_of_get? hentry, ?_⟩
    cases hdata : e.header.hasData with
    | false => simp [hentry, hdata] at hr
    | true => simpa [hentry, hdata] using hr

/-- Neither handle has the kstat, or the library handle has a copy of a named one. -/
theorem unknown_or_names (h : control.Mirrors k k') {id : RecordId}
    (hnamed : ∀ i, k.chain.identity? id = some i → i.type = .named) :
    (k.chain.entry? id = none ∧ control.item? id = none) ∨ (Handle.library (some control)).Names k' id := by
  rcases RecordId.get?_of_forall₂ h.shows id with hnone | ⟨e, i, hentry, hitem, hshows⟩
  · exact .inl hnone
  · refine .inr fun _ => ⟨e.header.toIdentity, ?_, hnamed _ ?_⟩
    · rw [Handle.identity?, Handle.identities, RecordId.map_get?, hitem, Option.map_some, hshows.header]
    · rw [Chain.identity?, Chain.entry?, hentry]
      rfl

theorem record?_eq (h : control.Mirrors k k') {id : RecordId}
    (hnamed : ∀ i, k.chain.identity? id = some i → i.type = .named) {name : Bytes}
    (hname : (0 : UInt8) ∉ name) :
    ((Handle.library (some control)).record? k' id name).2 = (Handle.live.record? k id name).2 := by
  rcases h.unknown_or_names hnamed with ⟨hentry, hitem⟩ | hnames
  · simp only [Handle.record?, Kernel.recordControl, Option.getD_some, hentry, hitem]
    rfl
  · rw [Handle.record?_eq hnames, Handle.record?_eq Handle.names_live, h.records_eq]
    refine List.find?_congr fun r hr => decide_eq_decide.2 ?_
    obtain ⟨e, he, hmem⟩ := mem_records_live hr
    exact (h.tidy.records e he r hmem).text_eq_bounded_iff hname

theorem record? (h : control.Mirrors k k') (id : RecordId) (name : Bytes) :
    control.Mirrors (Handle.live.record? k id name).1
      ((Handle.library (some control)).record? k' id name).1 where
  alike := by
    rw [Handle.chain_record?, Handle.chain_record?]
    exact h.alike
  shows := by
    rw [Handle.chain_record?]
    exact h.shows
  tidy := by
    rw [Handle.chain_record?]
    exact h.tidy

theorem recordAt?_eq (h : control.Mirrors k k') {id : RecordId}
    (hnamed : ∀ i, k.chain.identity? id = some i → i.type = .named) {index : Nat}
    (hindex : index < (Handle.live.header k id).ndata.toNat) :
    (Handle.library (some control)).recordAt? k' id index = Handle.live.recordAt? k id index := by
  rcases h.unknown_or_names hnamed with ⟨hentry, hitem⟩ | hnames
  · simp only [Handle.recordAt?, Option.getD_some, hentry, hitem]
  · rw [Handle.recordAt?_eq Handle.names_live hindex, Handle.recordAt?_eq hnames (by rwa [h.header_eq]), h.records_eq]

/-! ### From the open on -/

theorem edit (h : control.Mirrors k k') {e : Chain.Edit} (he : e.Outward) {d d' : Chain}
    (hd : k.chain.edit e = some d) (halike : d.Alike d') :
    control.Mirrors { k with chain := d } { k' with chain := d' } where
  alike := halike
  shows := Chain.shows_edit h.shows he hd
  tidy := h.tidy.edit he hd

end Control.Mirrors

def Kernel.countOpen (k : Kernel) : Kernel := { k with chain := { k.chain with opens := k.chain.opens + 1 } }

theorem openHandle_live_of_good {k : Kernel} (hgood : k.chain.openErrno = 0) :
    Facility.live.openHandle k = { kernel := k.countOpen, errno := 0, handle := some .live } :=
  if_pos hgood

theorem openHandle_live_of_bad {k : Kernel} (hbad : k.chain.openErrno ≠ 0) :
    Facility.live.openHandle k = { kernel := k.countOpen, errno := k.chain.openErrno, handle := none } :=
  if_neg hbad

theorem openHandle_library_of_good {k : Kernel} (hgood : k.chain.openErrno = 0) :
    Facility.library.openHandle k =
      { kernel := k.countOpen
        errno := 0
        handle := some (.library (some (.ofChain k.chain))) } := by
  simp only [Facility.openHandle, Kernel.openControl, if_pos hgood]
  rfl

theorem openHandle_library_of_bad {k : Kernel} (hbad : k.chain.openErrno ≠ 0) :
    Facility.library.openHandle k =
      { kernel := k.countOpen.fail k.chain.openErrno
        errno := k.chain.openErrno
        handle := none
        log := [.openFailed k.chain.openErrno] } := by
  simp only [Facility.openHandle, Kernel.openControl, if_neg hbad]
  rfl

/-- On a plain chain both facilities open or both refuse, and what they open mirrors one another. -/
theorem openHandle_cases {k k' : Kernel} (hplain : k.chain.Plain) (hsame : k'.chain = k.chain) :
    let live := Facility.live.openHandle k
    let library := Facility.library.openHandle k'
    live.kernel = k.countOpen ∧ library.kernel.chain = k.countOpen.chain ∧ library.errno = live.errno ∧
      ((live.handle = none ∧ library.handle = none) ∨
        ∃ control, live.errno = 0 ∧ live.handle = some .live ∧
          library.handle = some (.library (some control)) ∧
          control.Mirrors live.kernel library.kernel) := by
  have hcounted : k'.countOpen.chain = k.countOpen.chain := by
    simp only [Kernel.countOpen, hsame]
  by_cases hgood : k.chain.openErrno = 0
  · have hgood' : k'.chain.openErrno = 0 := by rwa [hsame]
    have htidy : k.countOpen.chain.Tidy := ⟨hplain.records, hplain.lookupErrno⟩
    rw [openHandle_live_of_good hgood, openHandle_library_of_good hgood']
    refine ⟨rfl, hcounted, rfl, .inr ⟨.ofChain k'.chain, rfl, rfl, rfl, ?_, ?_, htidy⟩⟩
    · simp only [hcounted]
      exact .refl _
    · rw [hsame]
      exact hplain.shows
  · have hbad' : k'.chain.openErrno ≠ 0 := by rwa [hsame]
    rw [openHandle_live_of_bad hgood, openHandle_library_of_bad hbad']
    exact ⟨rfl, hcounted, congrArg Chain.openErrno hsame, .inl ⟨rfl, rfl⟩⟩

end KernelStats
