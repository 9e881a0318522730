import KernelStats.Proofs.Handle.Reads

/-!
# What a lookup finds

A lookup finds the first kstat, in the order of the walk, whose identity the query selects. The two
handles differ in how far they look at the texts of a query only: a live handle compares whole texts,
and the system library ends a text at its first NUL and after the 31 bytes of a name field. When nothing
is found there is always an error number to say so.
-/

namespace KernelStats

theorem Field.bounded_bytes {n : Nat} (f : Field n) : f.bytes.bounded n = f.text := by
  rw [Bytes.bounded, List.take_of_length_le (Nat.le_of_eq f.length_bytes), text]

theorem Field.text_ofBytes (n : Nat) (s : Bytes) : (ofBytes n s).text = s.bounded n := by
  have hzeros : ∀ (s : Bytes) (room : Nat), (s ++ List.replicate room 0).upToNul = s.upToNul := by
    intro s room
    induction s with
    | nil => cases room <;> simp [Bytes.upToNul, List.replicate_succ]
    | cons b s ih =>
      unfold Bytes.upToNul at ih ⊢
      rw [List.cons_append, List.takeWhile_cons, List.takeWhile_cons, ih]
  show Bytes.upToNul (s.take n ++ (List.replicate n 0).drop s.length) = _
  rw [List.drop_replicate, hzeros]
  rfl

theorem Field.agree_bytes {n : Nat} (f : Field n) (s : Bytes) :
    Bytes.agree n f.bytes s = decide (f.text = s.bounded n) := by
  rw [Bool.eq_iff_iff, Bytes.agree_iff, f.bounded_bytes, decide_eq_true_iff]

/-- Whether an identity answers a query of whose texts only a part is looked at. -/
def Query.selects (key : Bytes → Bytes) (q : Query) (i : Identity) : Bool :=
  (q.moduleName = [] || key q.moduleName = i.moduleName) &&
    (q.inst = anyInstance || q.inst = i.inst) &&
    (q.name = [] || key q.name = i.name)

theorem Control.Item.holds_given (field : Field nameSize) (text : Bytes) :
    holds field (if text = [] then none else some text) =
      (decide (text = []) || decide (text.bounded nameSize = field.text)) := by
  by_cases hany : text = []
  · rw [if_pos hany, decide_eq_true hany]
    rfl
  · rw [if_neg hany, decide_eq_false hany, Bool.false_or, holds, field.agree_bytes]
    exact decide_eq_decide.2 eq_comm

namespace Handle

/-- The part of a query's text that a handle compares. -/
def key : Handle → Bytes → Bytes
  | live => id
  | library _ => Bytes.bounded nameSize

section

variable {h h' : Handle}

theorem key_of_live (hlive : h.facility = .live) : h.key = id := by
  rw [eq_live_of_facility hlive]
  rfl

theorem key_of_library (hlibrary : h.facility = .library) : h.key = Bytes.bounded nameSize := by
  cases h with
  | live => cases hlibrary
  | library _ => rfl

theorem key_of_facility (hsame : h'.facility = h.facility) : h'.key = h.key := by
  cases h with
  | live => rw [key_of_live hsame, key_of_live rfl]
  | library _ => rw [key_of_library hsame, key_of_library rfl]

end

/-- With errors and answers as the library hands them on, a lookup through it. -/
theorem lookup_library (k : Kernel) (control : Option Control) (q : Query) :
    (library control).lookup k q =
      match (k.fail 0).lookupControl (control.getD ⟨[]⟩)
        (if q.moduleName = [] then none else some q.moduleName) q.inst
        (if q.name = [] then none else some q.name) with
      | (k, some id) => (k, .ok id)
      | (k, none) => (k, .error (if k.errno = 0 then .noEntry else k.errno)) := rfl

theorem findIdx?_control (control : Control) (q : Query) :
    (control.items.findIdx? fun i =>
      Control.Item.holds i.moduleName (if q.moduleName = [] then none else some q.moduleName) &&
        (q.inst = Query.anyInstance || q.inst = i.inst) &&
        Control.Item.holds i.name (if q.name = [] then none else some q.name)) =
      (control.items.map fun i => i.header.toIdentity).findIdx? (q.selects (Bytes.bounded nameSize)) := by
  rw [List.findIdx?_map]
  congr 1
  funext i
  rw [Control.Item.holds_given, Control.Item.holds_given]
  rfl

/-- The error of a lookup that finds nothing. Where the library gives none, a handle makes up for it. -/
def searchErrno (k : Kernel) : Handle → Errno
  | live => .noEntry
  | library _ => if k.chain.lookupErrno = 0 then .noEntry else k.chain.lookupErrno

theorem searchErrno_ne (k : Kernel) (h : Handle) : h.searchErrno k ≠ 0 := by
  cases h with
  | live => exact (by decide : Errno.noEntry ≠ 0)
  | library control =>
    show (if k.chain.lookupErrno = 0 then Errno.noEntry else k.chain.lookupErrno) ≠ 0
    split
    · decide
    · assumption

/-- A lookup finds the first kstat that the query selects. -/
theorem lookup_eq {h : Handle} (hintact : h.Intact) (k : Kernel) (q : Query) :
    (h.lookup k q).2 =
      match (h.identities k).findIdx? (q.selects h.key) with
      | some i => .ok (.ofIndex i)
      | none => .error (h.searchErrno k) := by
  match h with
  | live =>
    have hfind : (k.chain.entries.findIdx? fun e => q.admits e.header.toIdentity) =
        ((live).identities k).findIdx? (q.selects live.key) := by
      rw [identities, Chain.identities, List.findIdx?_map]
      rfl
    simp only [lookup, hfind]
    cases ((live).identities k).findIdx? (q.selects live.key) with
    | none => rfl
    | some i => rfl
  | library none => exact absurd rfl hintact
  | library (some control) =>
    have hfind := findIdx?_control control q
    cases hindex : ((library (some control)).identities k).findIdx?
        (q.selects (library (some control)).key) with
    | some i =>
      have hfind := hfind.trans hindex
      rw [lookup_library]
      simp only [Kernel.lookupControl, Option.getD_some, hfind]
    | none =>
      have hfind := hfind.trans hindex
      rw [lookup_library, searchErrno]
      simp only [Kernel.lookupControl, Option.getD_some, hfind]
      by_cases hquiet : k.chain.lookupErrno = 0
      · -- the number was cleared before, so none means that the library left none
        have hquiet' : (k.fail 0).chain.lookupErrno = 0 := hquiet
        simp only [if_pos hquiet, if_pos hquiet']
        rfl
      · have hquiet' : (k.fail 0).chain.lookupErrno ≠ 0 := hquiet
        simp only [if_neg hquiet, if_neg hquiet']
        exact congrArg Except.error (if_neg hquiet)

end Handle

end KernelStats
