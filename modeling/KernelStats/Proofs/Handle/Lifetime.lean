import KernelStats.Proofs.Handle.Reads

/-!
# The life of a library handle

A library handle that is used directly may be asked anything any number of times, closes included, and
is let go in the end. It owes the system library one close for as long as it holds its private copy:
the first close pays, and otherwise the end does. So the closes that it made and the one that it owes
always add up to one.
-/

namespace KernelStats

namespace Handle

/-- Something done to a handle that no token stands in front of, or to the chain meanwhile. -/
inductive Use where
  | close
  | read (id : RecordId)
  | lookup (query : Query)
  | record (id : RecordId) (name : Bytes)
  | edit (edit : Chain.Edit)

def use (k : Kernel) (h : Handle) : Use → Kernel × Handle
  | .close => ((h.close k).1, (h.close k).2.1)
  | .read id => ((h.read k id).1, (h.read k id).2.1)
  | .lookup query => ((h.lookup k query).1, h)
  | .record id name => ((h.record? k id name).1, h)
  | .edit edit => ({ k with chain := (k.chain.edit edit).getD k.chain }, h)

def uses (k : Kernel) (h : Handle) : List Use → Kernel × Handle
  | [] => (k, h)
  | u :: rest => (h.use k u).2.uses (h.use k u).1 rest

def lifetime (k : Kernel) (h : Handle) (us : List Use) : Kernel :=
  ((h.uses k us).2.drop (h.uses k us).1).1

/-- The closes that a handle will still make on its own: one, while it holds a private copy. -/
def owes : Handle → Nat
  | live | library none => 0
  | library (some _) => 1

def OfLibrary (h : Handle) : Prop := h ≠ .live

end Handle

/-! ### Edits -/

namespace Chain

theorem closes_updateAt {c c' : Chain} {index : Nat} {f : Entry → Option Entry}
    (h : c.updateAt index f = some c') : c'.closes = c.closes := by
  obtain ⟨entry, -, h⟩ := Option.bind_eq_some_iff.1 h
  obtain ⟨entry', -, h⟩ := Option.bind_eq_some_iff.1 h
  cases h
  rfl

theorem closes_edit {c c' : Chain} {e : Edit} (h : c.edit e = some c') : c'.closes = c.closes := by
  cases e with
  | set clock openErrno closeErrno lookupErrno => cases h; rfl
  | add identity records patch => cases h; rfl
  | pop =>
    simp only [edit] at h
    split at h
    · cases h
    · cases h; rfl
  | amend index patch => exact closes_updateAt h
  | putRecord index position record => exact closes_updateAt h
  | retype index position type => exact closes_updateAt h
  | popRecord index => exact closes_updateAt h

end Chain

namespace Handle

/-! ### What is owed -/

theorem closes_closeControl (k : Kernel) : k.closeControl.1.chain.closes = k.chain.closes + 1 := by
  unfold Kernel.closeControl
  simp only
  split <;> rfl

theorem closes_drop (k : Kernel) (h : Handle) :
    (h.drop k).1.chain.closes = k.chain.closes + h.owes := by
  match h with
  | live => rfl
  | library none => rfl
  | library (some control) =>
    have hclose := closes_closeControl k
    unfold drop
    simp only
    split
    · next hgood => rwa [hgood] at hclose
    · next hbad => rwa [hbad] at hclose

/-- A close pays what is owed, and owes nothing more. -/
theorem closes_close {h : Handle} (hlibrary : h.OfLibrary) (k : Kernel) :
    (h.close k).1.chain.closes + (h.close k).2.1.owes = k.chain.closes + h.owes ∧
      (h.close k).2.1 = .library none := by
  match h with
  | live => exact absurd rfl hlibrary
  | library none => exact ⟨rfl, rfl⟩
  | library (some control) =>
    have hclose := closes_closeControl k
    unfold close
    simp only
    split
    · next hgood =>
      rw [hgood] at hclose
      exact ⟨hclose, rfl⟩
    · next hbad =>
      rw [hbad] at hclose
      exact ⟨hclose, rfl⟩

theorem owes_read (k : Kernel) (h : Handle) (id : RecordId) : (h.read k id).2.1.owes = h.owes := by
  rcases handle_read k h id with hsame | ⟨control, control', rfl, hread⟩
  · rw [hsame]
  · rw [hread]
    rfl

theorem ofLibrary_read {h : Handle} (hlibrary : h.OfLibrary) (k : Kernel) (id : RecordId) :
    (h.read k id).2.1.OfLibrary := by
  rcases handle_read k h id with hsame | ⟨control, control', -, hread⟩
  · rwa [hsame]
  · rw [hread]
    exact fun hlive => nomatch hlive

/-- One use moves a close from what is owed to what was made, or does neither. -/
theorem closes_use {h : Handle} (hlibrary : h.OfLibrary) (k : Kernel) (u : Use) :
    (h.use k u).2.OfLibrary ∧
      (h.use k u).1.chain.closes + (h.use k u).2.owes = k.chain.closes + h.owes := by
  cases u with
  | close =>
    obtain ⟨hpaid, hgone⟩ := closes_close hlibrary k
    refine ⟨fun hlive => ?_, hpaid⟩
    rw [use, hgone] at hlive
    cases hlive
  | read id =>
    refine ⟨ofLibrary_read hlibrary k id, ?_⟩
    show (h.read k id).1.chain.closes + (h.read k id).2.1.owes = _
    have hsame : (h.read k id).1.chain.closes = k.chain.closes := by
      rcases chain_read k h id with hsame | htouched
      · rw [hsame]
      · exact htouched.sameBooks.closes
    rw [hsame, owes_read]
  | lookup query =>
    refine ⟨hlibrary, ?_⟩
    show (h.lookup k query).1.chain.closes + h.owes = _
    rw [chain_lookup]
  | record id name =>
    refine ⟨hlibrary, ?_⟩
    show (h.record? k id name).1.chain.closes + h.owes = _
    rw [chain_record?]
  | edit edit =>
    refine ⟨hlibrary, ?_⟩
    show ((k.chain.edit edit).getD k.chain).closes + h.owes = _
    cases hedit : k.chain.edit edit with
    | none => rfl
    | some chain => rw [Option.getD_some, Chain.closes_edit hedit]

theorem closes_uses {h : Handle} (hlibrary : h.OfLibrary) (k : Kernel) (us : List Use) :
    (h.uses k us).1.chain.closes + (h.uses k us).2.owes = k.chain.closes + h.owes := by
  induction us generalizing k h with
  | nil => rfl
  | cons u rest ih =>
    obtain ⟨hlibrary', hone⟩ := closes_use hlibrary k u
    exact (ih hlibrary' _).trans hone

/-- However a library handle is used and however often it is closed, it is closed exactly once by the
time that it is gone. -/
theorem closes_lifetime (k : Kernel) (control : Control) (us : List Use) :
    ((library (some control)).lifetime k us).chain.closes = k.chain.closes + 1 := by
  have hlibrary : (library (some control)).OfLibrary := fun hlive => nomatch hlive
  rw [lifetime, closes_drop]
  exact closes_uses hlibrary k us

end Handle

end KernelStats
