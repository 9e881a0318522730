import KernelStats.Proofs.Handle.Reads
import KernelStats.Proofs.Mirror.Names

/-!
# Chains and their copies

When a kstat is read through the chain itself, its header is changed in place; the system library leaves
the chain's header as it is and changes its private copy. So two runs of the same requests lead to chains
that are `Alike`, different in the headers of their entries only, and to a copy that `Shows` the entries
of the first. Reads keep this up, and so do edits that come from outside and touch no header.
-/

namespace KernelStats

/-! ### Ids in lists -/

namespace RecordId

variable {α β : Type} {R : α → β → Prop} {xs : List α} {ys : List β}

theorem get?_of_forall₂ (h : List.Forall₂ R xs ys) (id : RecordId) :
    (id.get? xs = none ∧ id.get? ys = none) ∨
      ∃ x y, id.get? xs = some x ∧ id.get? ys = some y ∧ R x y := by
  match id with
  | ⟨0⟩ => exact .inl ⟨rfl, rfl⟩
  | ⟨i + 1⟩ => exact getElem?_of_forall₂ h i

theorem update_of_forall₂ (h : List.Forall₂ R xs ys) (id : RecordId) {f : α → α} {g : β → β}
    (hfg : ∀ x y, id.get? xs = some x → id.get? ys = some y → R x y → R (f x) (g y)) :
    List.Forall₂ R (id.update f xs) (id.update g ys) := by
  match id with
  | ⟨0⟩ => exact h
  | ⟨i + 1⟩ => exact modify_of_forall₂ h i hfg

end RecordId

/-! ### What mirrors what -/

structure Entry.Alike (e e' : Entry) : Prop where
  records : e'.records = e.records
  readErrno : e'.readErrno = e.readErrno
  reads : e'.reads = e.reads

/-- Two chains that differ in the headers of their entries only. -/
structure Chain.Alike (c c' : Chain) : Prop where
  entries : List.Forall₂ Entry.Alike c.entries c'.entries
  clock : c'.clock = c.clock
  openErrno : c'.openErrno = c.openErrno
  closeErrno : c'.closeErrno = c.closeErrno
  lookupErrno : c'.lookupErrno = c.lookupErrno
  opens : c'.opens = c.opens
  closes : c'.closes = c.closes
  lookups : c'.lookups = c.lookups

/-- A copy of a kstat with the header on the chain, and with its records if there is data. -/
structure Control.Item.Shows (e : Entry) (i : Control.Item) : Prop where
  header : i.header = e.header
  data : i.data = if e.header.hasData then some e.records else none

/-- Record names are terminated, and a lookup without an answer is told apart by no other error than
the usual one. -/
structure Chain.Tidy (c : Chain) : Prop where
  records : ∀ e ∈ c.entries, ∀ r ∈ e.records, r.Terminated
  lookupErrno : c.lookupErrno = 0 ∨ c.lookupErrno = .noEntry

/-! ### Reads -/

theorem Control.Item.Shows.load {e : Entry} {i : Control.Item} (h : i.Shows e) (clock : Int64) :
    (i.load clock e.records).Shows (e.load clock) where
  header := by
    show { i.header with snaptime := clock, ndata := UInt32.ofNat e.records.length, hasData := true } = _
    rw [h.header]
    rfl
  data := rfl

namespace Chain

variable {c c' : Chain} {id : RecordId}

theorem Tidy.update (h : c.Tidy) (id : RecordId) {f : Entry → Entry} (hf : ∀ e, (f e).records = e.records) :
    (c.update id f).Tidy where
  records := by
    intro e he
    have hmem : e.records ∈ (id.update f c.entries).map Entry.records := List.mem_map_of_mem he
    rw [RecordId.map_update Entry.records hf] at hmem
    obtain ⟨old, hold, hrecords⟩ := List.mem_map.1 hmem
    rw [← hrecords]
    exact h.records old hold
  lookupErrno := h.lookupErrno

theorem Alike.update (h : c.Alike c') (id : RecordId) {f f' : Entry → Entry}
    (hf : ∀ e e', e.Alike e' → (f e).Alike (f' e')) : (c.update id f).Alike (c'.update id f') :=
  { h with entries := RecordId.update_of_forall₂ h.entries id fun e e' _ _ halike => hf e e' halike }

theorem Alike.refl (c : Chain) : c.Alike c where
  entries := List.forall₂_same.2 fun _ _ => ⟨rfl, rfl, rfl⟩
  clock := rfl
  openErrno := rfl
  closeErrno := rfl
  lookupErrno := rfl
  opens := rfl
  closes := rfl
  lookups := rfl

end Chain

/-! ### Edits from outside -/

/-- An edit of the clock, of the error of closes, or of the error with which a kstat is read. -/
def Chain.Edit.Outward : Chain.Edit → Prop
  | .set _ openErrno _ lookupErrno => openErrno = none ∧ lookupErrno = none
  | .amend _ patch => patch = { readErrno := patch.readErrno }
  | _ => False

def Entry.answering (errno : Option Errno) (e : Entry) : Entry :=
  { e with readErrno := errno.getD e.readErrno }

namespace Chain

variable {c c' d : Chain} {e : Edit}

theorem edit_outward (he : e.Outward) :
    (∃ (clock : Option Int64) (closeErrno : Option Errno), ∀ c : Chain, c.edit e =
      some { c with clock := clock.getD c.clock, closeErrno := closeErrno.getD c.closeErrno }) ∨
    (∃ index errno, ∀ c : Chain, c.edit e =
      if index < c.length then some (c.update (.ofIndex index) (·.answering errno)) else none) := by
  cases e with
  | set clock openErrno closeErrno lookupErrno =>
    obtain ⟨rfl, rfl⟩ := he
    exact .inl ⟨clock, closeErrno, fun _ => rfl⟩
  | amend index patch =>
    obtain ⟨errno, rfl⟩ : ∃ errno, patch = { readErrno := errno } := ⟨_, he⟩
    refine .inr ⟨index, errno, fun c => ?_⟩
    by_cases hlt : index < c.length
    · have hentry := List.getElem?_eq_getElem hlt
      have hmodify : c.entries.modify index (·.answering errno) =
          c.entries.set index (c.entries[index].answering errno) := by
        rw [List.modify_eq_set_getElem?, hentry]
        rfl
      rw [if_pos hlt]
      show c.updateAt index _ = some { c with entries := c.entries.modify index (·.answering errno) }
      rw [updateAt, hentry, hmodify]
      rfl
    · rw [if_neg hlt]
      show c.updateAt index _ = none
      rw [updateAt, List.getElem?_eq_none (Nat.le_of_not_lt hlt)]
      rfl
  | add identity records patch => cases he
  | pop => cases he
  | putRecord index position record => cases he
  | retype index position type => cases he
  | popRecord index => cases he

/-- What both kinds of outward edits keep holds after every one of them. -/
theorem edit_induction (P : Chain → Prop) (he : e.Outward)
    (hset : ∀ c clock closeErrno, P c → P { c with clock, closeErrno })
    (hupdate : ∀ c index errno, P c → P (c.update (.ofIndex index) (·.answering errno)))
    (hc : P c) (hedit : c.edit e = some d) : P d := by
  rcases edit_outward he with ⟨clock, closeErrno, hset'⟩ | ⟨index, errno, hupdate'⟩
  · rw [hset'] at hedit
    cases hedit
    exact hset c _ _ hc
  · rw [hupdate'] at hedit
    split at hedit
    · cases hedit
      exact hupdate c _ _ hc
    · cases hedit

theorem Tidy.edit (h : c.Tidy) (he : e.Outward) (hedit : c.edit e = some d) : d.Tidy := by
  refine edit_induction Tidy he (fun _ _ _ h => ⟨h.records, h.lookupErrno⟩) ?_ h hedit
  intro c index errno h
  have hrecords : ∀ e : Entry, (e.answering errno).records = e.records := fun _ => rfl
  exact h.update _ hrecords

theorem identity?_edit (he : e.Outward) (hedit : c.edit e = some d) (id : RecordId) :
    d.identity? id = c.identity? id := by
  refine edit_induction (fun d => d.identity? id = c.identity? id) he (fun _ _ _ h => h) ?_ rfl hedit
  intro d index errno h
  have hidentity : ∀ e : Entry, (e.answering errno).header.toIdentity = e.header.toIdentity :=
    fun _ => rfl
  exact (identity?_update hidentity id).trans h

theorem shows_edit {items : List Control.Item} (h : List.Forall₂ Control.Item.Shows c.entries items)
    (he : e.Outward) (hedit : c.edit e = some d) : List.Forall₂ Control.Item.Shows d.entries items := by
  refine edit_induction (fun d => List.Forall₂ Control.Item.Shows d.entries items) he
    (fun _ _ _ h => h) ?_ h hedit
  intro d index errno h
  have hshows := RecordId.update_of_forall₂ h (.ofIndex index) fun e i _ _ hshows =>
    show i.Shows (e.answering errno) from ⟨hshows.header, hshows.data⟩
  rwa [RecordId.update_self] at hshows

theorem Alike.length_eq (h : c.Alike c') : c'.length = c.length := h.entries.length_eq.symm

theorem Alike.edit (h : c.Alike c') (he : e.Outward) :
    (c.edit e = none ∧ c'.edit e = none) ∨
      ∃ d d', c.edit e = some d ∧ c'.edit e = some d' ∧ d.Alike d' := by
  rcases edit_outward he with ⟨clock, closeErrno, hset⟩ | ⟨index, errno, hupdate⟩
  · refine .inr ⟨_, _, hset c, hset c', ?_⟩
    exact { h with
      clock := congrArg clock.getD h.clock
      closeErrno := congrArg closeErrno.getD h.closeErrno }
  · rw [hupdate, hupdate, h.length_eq]
    by_cases hlt : index < c.length
    · rw [if_pos hlt, if_pos hlt]
      refine .inr ⟨_, _, rfl, rfl, h.update _ fun e e' halike => ?_⟩
      exact ⟨halike.records, congrArg errno.getD halike.readErrno, halike.reads⟩
    · rw [if_neg hlt, if_neg hlt]
      exact .inl ⟨rfl, rfl⟩

end Chain

/-! ### Before the open -/

/-- A chain whose names the system library keeps without loss, and which nobody has read yet. -/
structure Chain.Plain (c : Chain) : Prop extends c.Tidy where
  names : ∀ e ∈ c.entries, e.header.moduleName.Fits ∧ e.header.name.Fits ∧ e.header.className.Fits
  unread : ∀ e ∈ c.entries, e.header.hasData = false

namespace Chain

variable {c d : Chain} {e : Edit}

theorem Plain.edit (h : c.Plain) (he : e.Outward) (hedit : c.edit e = some d) : d.Plain := by
  have hheaders : d.entries.map Entry.header = c.entries.map Entry.header := by
    refine edit_induction (fun d => d.entries.map Entry.header = c.entries.map Entry.header) he
      (fun _ _ _ h => h) ?_ rfl hedit
    intro d index errno h
    have hheader : ∀ e : Entry, (e.answering errno).header = e.header := fun _ => rfl
    exact (RecordId.map_update Entry.header hheader (.ofIndex index) d.entries).trans h
  have hheader : ∀ e ∈ d.entries, ∃ old ∈ c.entries, old.header = e.header := by
    intro e he
    have hmem : e.header ∈ d.entries.map Entry.header := List.mem_map_of_mem he
    rw [hheaders] at hmem
    exact List.mem_map.1 hmem
  refine { h.toTidy.edit he hedit with names := fun e he => ?_, unread := fun e he => ?_ }
  · obtain ⟨old, hold, hsame⟩ := hheader e he
    rw [← hsame]
    exact h.names old hold
  · obtain ⟨old, hold, hsame⟩ := hheader e he
    rw [← hsame]
    exact h.unread old hold

theorem shows_ofEntry {e : Entry} (hmodule : e.header.moduleName.Fits) (hname : e.header.name.Fits)
    (hclass : e.header.className.Fits) (hunread : e.header.hasData = false) :
    (Control.Item.ofEntry e).Shows e where
  header := by
    have hdata : (Control.Item.ofEntry e).data.isSome = e.header.hasData := by
      rw [hunread]
      rfl
    simp only [Control.Item.header, hdata]
    simp only [Control.Item.ofEntry, Field.text_of_fits hmodule, Field.text_of_fits hname,
      Field.text_of_fits hclass]
  data := by
    rw [hunread]
    rfl

theorem Plain.shows (h : c.Plain) :
    List.Forall₂ Control.Item.Shows c.entries (Control.ofChain c).items := by
  rw [Control.ofChain, List.forall₂_map_right_iff, List.forall₂_same]
  intro e he
  obtain ⟨hmodule, hname, hclass⟩ := h.names e he
  exact shows_ofEntry hmodule hname hclass (h.unread e he)

end Chain

end KernelStats
