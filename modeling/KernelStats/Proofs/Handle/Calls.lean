import KernelStats.Handle

/-!
# What the calls on a handle do

A handle answers from the chain or from its copy of the chain. What the rest of the theory needs of
it is little: the walk lists the ids of all positions in order, a lookup that finds something finds a
position of that walk, and no call but a read touches an entry. The books of the chain, that is its
counters of opens and closes and the errors that it is told to answer with, are left alone by all
calls but the close; and a handle that is closed and let go has been closed exactly once.
-/

namespace KernelStats

namespace RecordId

theorem walk_eq (length : Nat) (id : RecordId) (hpos : 0 < id.key) (hle : id.key ≤ length) :
    id.walk length = (List.range' (id.key - 1) (length + 1 - id.key)).map ofIndex := by
  have hself : ∀ i : RecordId, 0 < i.key → ofIndex (i.key - 1) = i := by
    rintro ⟨key⟩ hkey
    simp only [ofIndex, RecordId.mk.injEq]
    simp only at hkey
    omega
  -- the recursion of the walk itself; its second case is the last position
  fun_induction id.walk length with
  | case1 id next hnext ih =>
    obtain ⟨hkey, hlt⟩ := key_of_next? hnext
    have hrest := ih (by omega) (by omega)
    have hcount : length + 1 - id.key = (length + 1 - next.key) + 1 := by omega
    have hindex : id.key - 1 + 1 = next.key - 1 := by omega
    rw [hrest, hcount, List.range'_succ, List.map_cons, hindex, hself id hpos]
  | case2 id hnext =>
    have hlast : id.key = length := by
      unfold next? at hnext
      split at hnext
      · cases hnext
      · omega
    have hcount : length + 1 - id.key = 1 := by omega
    rw [hcount, List.range'_one, List.map_singleton, hself id hpos]

end RecordId

namespace Chain

/-- What no call on a handle moves, its close apart: the counters of opens and closes, the errors that
the chain is told to answer with, and the number of kstats. -/
structure SameBooks (before after : Chain) : Prop where
  opens : after.opens = before.opens
  closes : after.closes = before.closes
  openErrno : after.openErrno = before.openErrno
  closeErrno : after.closeErrno = before.closeErrno
  lookupErrno : after.lookupErrno = before.lookupErrno
  length : after.length = before.length

theorem SameBooks.rfl (c : Chain) : c.SameBooks c :=
  ⟨Eq.refl _, Eq.refl _, Eq.refl _, Eq.refl _, Eq.refl _, Eq.refl _⟩

theorem SameBooks.trans {before middle after : Chain} (hfirst : before.SameBooks middle)
    (hsecond : middle.SameBooks after) : before.SameBooks after where
  opens := hsecond.opens.trans hfirst.opens
  closes := hsecond.closes.trans hfirst.closes
  openErrno := hsecond.openErrno.trans hfirst.openErrno
  closeErrno := hsecond.closeErrno.trans hfirst.closeErrno
  lookupErrno := hsecond.lookupErrno.trans hfirst.lookupErrno
  length := hsecond.length.trans hfirst.length

end Chain

namespace Handle

/-! ### Walks and lookups -/

theorem walk_eq (k : Kernel) (h : Handle) :
    h.walk k = (List.range (h.length k)).map RecordId.ofIndex := by
  unfold walk head? RecordId.first?
  by_cases hpos : 0 < h.length k
  · rw [if_pos hpos]
    simpa [List.range_eq_range'] using RecordId.walk_eq (h.length k) ⟨1⟩ Nat.one_pos hpos
  · rw [if_neg hpos]
    simp [Nat.eq_zero_of_not_pos hpos]

theorem mem_walk {k : Kernel} {h : Handle} {id : RecordId} :
    id ∈ h.walk k ↔ ∃ i, i < h.length k ∧ RecordId.ofIndex i = id := by
  simp [walk_eq]

@[simp] theorem chain_lookup (k : Kernel) (h : Handle) (q : Query) :
    (h.lookup k q).1.chain = { k.chain with lookups := k.chain.lookups + 1 } := by
  cases h with
  | live =>
    unfold lookup
    simp only
    split <;> rfl
  | library control =>
    unfold lookup Kernel.lookupControl
    simp only
    cases List.findIdx? _ (control.getD ⟨[]⟩).items with
    | some index => rfl
    | none =>
      by_cases hquiet : (k.fail 0).chain.lookupErrno = 0
      · simp only [if_pos hquiet]
        rfl
      · simp only [if_neg hquiet]
        rfl

@[simp] theorem chain_record? (k : Kernel) (h : Handle) (id : RecordId) (name : Bytes) :
    (h.record? k id name).1.chain = k.chain := by
  cases h with
  | live =>
    unfold record?
    simp only
    split <;> rfl
  | library control =>
    unfold record? Kernel.recordControl
    simp only
    split
    · split
      · split <;> rfl
      · rfl
    · rfl

theorem mem_walk_of_lookup {k : Kernel} {h : Handle} {q : Query} {id : RecordId}
    (hfound : (h.lookup k q).2 = .ok id) : id ∈ h.walk k := by
  rw [mem_walk]
  cases h with
  | live =>
    unfold lookup at hfound
    simp only at hfound
    split at hfound
    · next index hindex =>
      cases hfound
      exact ⟨index, (List.findIdx?_eq_some_iff_findIdx_eq.1 hindex).1, rfl⟩
    · cases hfound
  | library control =>
    unfold lookup Kernel.lookupControl at hfound
    simp only at hfound
    cases hindex : List.findIdx? _ (control.getD ⟨[]⟩).items with
    | some index =>
      rw [hindex] at hfound
      cases hfound
      have hlt := (List.findIdx?_eq_some_iff_findIdx_eq.1 hindex).1
      cases control with
      | none => cases hlt
      | some control => exact ⟨index, hlt, rfl⟩
    | none =>
      rw [hindex] at hfound
      cases hfound

/-! ### Reads -/

/-- A handle that still holds what it was opened for. Only a library handle can lose it. -/
def Intact (h : Handle) : Prop := h ≠ .library none

theorem handle_read (k : Kernel) (h : Handle) (id : RecordId) :
    (h.read k id).2.1 = h ∨
      ∃ control control', h = .library (some control) ∧ (h.read k id).2.1 = .library (some control') := by
  match h with
  | live => exact .inl rfl
  | library none => exact .inl rfl
  | library (some control) =>
    suffices hread : ∃ control', (read k (library (some control)) id).2.1 = .library (some control') by
      obtain ⟨control', hread⟩ := hread
      exact .inr ⟨control, control', rfl, hread⟩
    unfold read
    simp only
    split
    · exact ⟨_, rfl⟩
    · exact ⟨_, rfl⟩

/-- The facility that a handle was opened by. -/
def facility : Handle → Facility
  | live => .live
  | library _ => .library

theorem eq_live_of_facility {h : Handle} (hlive : h.facility = .live) : h = live := by
  cases h with
  | live => rfl
  | library control => cases hlive

@[simp] theorem facility_read (k : Kernel) (h : Handle) (id : RecordId) :
    (h.read k id).2.1.facility = h.facility := by
  rcases handle_read k h id with hsame | ⟨control, control', rfl, hread⟩
  · rw [hsame]
  · rw [hread]
    rfl

theorem intact_read {h : Handle} (hintact : h.Intact) (k : Kernel) (id : RecordId) :
    (h.read k id).2.1.Intact := by
  rcases handle_read k h id with hsame | ⟨control, control', -, hread⟩
  · rwa [hsame]
  · rw [hread]
    exact fun hnone => nomatch hnone

/-! ### Closing -/

def release (k : Kernel) (h : Handle) : Kernel := ((h.close k).2.1.drop (h.close k).1).1

/-- Closing a handle and letting it go is one close for the chain, whether or not it goes well. -/
theorem chain_release {h : Handle} (hintact : h.Intact) (k : Kernel) :
    (h.release k).chain = { k.chain with closes := k.chain.closes + 1 } := by
  match h with
  | live => rfl
  | library none => exact absurd rfl hintact
  | library (some control) =>
    unfold release close Kernel.closeControl
    by_cases hgood : k.chain.closeErrno = 0
    · simp only [if_pos hgood]
      rfl
    · simp only [if_neg hgood]
      rfl

theorem errno_close {h : Handle} (hintact : h.Intact) (k : Kernel) :
    (h.close k).2.2 = k.chain.closeErrno := by
  match h with
  | live => rfl
  | library none => exact absurd rfl hintact
  | library (some control) =>
    unfold close Kernel.closeControl
    by_cases hgood : k.chain.closeErrno = 0
    · simp only [if_pos hgood]
      exact hgood.symm
    · simp only [if_neg hgood]
      rfl

theorem leaks_close {h : Handle} (hintact : h.Intact) (k : Kernel) :
    ((h.close k).2.1.drop (h.close k).1).2 = [] := by
  match h with
  | live => rfl
  | library none => exact absurd rfl hintact
  | library (some control) =>
    unfold close
    simp only
    split <;> rfl

end Handle

/-! ### Opening -/

theorem Facility.handle_openHandle {f : Facility} {k : Kernel} {h : Handle}
    (hhandle : (f.openHandle k).handle = some h) :
    (f = .live ∧ h = .live) ∨ (f = .library ∧ h = .library (some (.ofChain k.chain))) := by
  cases f with
  | live =>
    simp only [openHandle] at hhandle
    split at hhandle <;> cases hhandle
    exact .inl ⟨rfl, rfl⟩
  | library =>
    simp only [openHandle, Kernel.openControl] at hhandle
    by_cases hgood : k.chain.openErrno = 0
    · simp only [if_pos hgood] at hhandle
      cases hhandle
      exact .inr ⟨rfl, rfl⟩
    · simp only [if_neg hgood] at hhandle
      cases hhandle
  | unsupported => cases hhandle
  | barren => cases hhandle

theorem Facility.chain_openHandle (f : Facility) (k : Kernel) :
    ∃ opens, (f.openHandle k).kernel.chain = { k.chain with opens } := by
  cases f with
  | live =>
    simp only [openHandle]
    split <;> exact ⟨_, rfl⟩
  | library =>
    simp only [openHandle, Kernel.openControl]
    by_cases hgood : k.chain.openErrno = 0
    · simp only [if_pos hgood]
      exact ⟨_, rfl⟩
    · simp only [if_neg hgood]
      exact ⟨_, rfl⟩
  | unsupported => exact ⟨_, rfl⟩
  | barren => exact ⟨_, rfl⟩

end KernelStats
