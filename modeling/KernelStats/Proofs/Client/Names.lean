import KernelStats.Proofs.Client.Effects
import KernelStats.Proofs.Session.Labels
import KernelStats.Proofs.Session.Readings

/-!
# Names that stay

What a query can ask for is a kstat's module, instance and name. No call changes them on the chain,
however it is made, and most edits do not either. As long as nobody renames a kstat or takes one away,
the labels of a live token stay true in what a query can ask for.
-/

namespace KernelStats

def Identity.names (i : Identity) : Bytes × Int32 × Bytes := (i.moduleName, i.inst, i.name)

/-- An edit that renames no kstat and takes none away. -/
def Chain.Edit.KeepsNames : Chain.Edit → Prop
  | .pop => False
  | .amend _ patch => patch.moduleName = none ∧ patch.inst = none ∧ patch.name = none
  | _ => True

instance : DecidablePred Chain.Edit.KeepsNames := fun e => by
  cases e <;> unfold Chain.Edit.KeepsNames <;> infer_instance

def Request.KeepsNames : Request → Prop
  | .edit e => e.KeepsNames
  | _ => True

instance : DecidablePred Request.KeepsNames := fun r => by
  cases r <;> unfold Request.KeepsNames <;> infer_instance

namespace Chain

def SameNames (c c' : Chain) : Prop :=
  ∀ id i, c.identity? id = some i → ∃ i', c'.identity? id = some i' ∧ i'.names = i.names

variable {c c' : Chain}

theorem sameNames_of_identities (h : c'.identities = c.identities) : c.SameNames c' := by
  intro id i hi
  rw [identity?_eq] at hi
  exact ⟨i, by rw [identity?_eq, h, hi], rfl⟩

theorem sameNames_updateAt {index : Nat} {f : Entry → Option Entry}
    (hf : ∀ e e', f e = some e' → e'.header.names = e.header.names)
    (hedit : c.updateAt index f = some c') : c.SameNames c' := by
  obtain ⟨e, he, hrest⟩ := Option.bind_eq_some_iff.1 hedit
  obtain ⟨e', he', hset⟩ := Option.bind_eq_some_iff.1 hrest
  cases hset
  intro id i hi
  match id with
  | ⟨0⟩ => cases hi
  | ⟨j + 1⟩ =>
    obtain ⟨old, hold, rfl⟩ := Option.map_eq_some_iff.1 hi
    replace hold : c.entries[j]? = some old := hold
    by_cases hj : index = j
    · subst hj
      obtain rfl : old = e := Option.some.inj (hold.symm.trans he)
      refine ⟨e'.header.toIdentity, ?_, hf old e' he'⟩
      show ((c.entries.set index e')[index]?).map _ = _
      rw [List.getElem?_set_self (List.getElem?_eq_some_iff.1 he).1]
      rfl
    · refine ⟨old.header.toIdentity, ?_, rfl⟩
      show ((c.entries.set index e')[j]?).map _ = _
      rw [List.getElem?_set_ne hj, hold]
      rfl

theorem sameNames_edit {e : Edit} (he : e.KeepsNames) (hedit : c.edit e = some c') : c.SameNames c' := by
  cases e with
  | set clock openErrno closeErrno lookupErrno =>
    cases hedit
    exact sameNames_of_identities rfl
  | add identity records patch =>
    cases hedit
    intro id i hi
    match id with
    | ⟨0⟩ => cases hi
    | ⟨j + 1⟩ =>
      obtain ⟨old, hold, rfl⟩ := Option.map_eq_some_iff.1 hi
      replace hold : c.entries[j]? = some old := hold
      have hlt := (List.getElem?_eq_some_iff.1 hold).1
      refine ⟨old.header.toIdentity, ?_, rfl⟩
      show ((c.entries ++ [_])[j]?).map _ = _
      rw [List.getElem?_append_left hlt, hold]
      rfl
  | pop => cases he
  | amend index patch =>
    obtain ⟨hmodule, hinst, hname⟩ := he
    refine sameNames_updateAt (fun e e' happly => ?_) hedit
    cases happly
    simp only [Identity.names, Patch.apply, hmodule, hinst, hname, Option.getD_none]
  | putRecord index position record =>
    refine sameNames_updateAt (fun e e' hput => ?_) hedit
    split at hput
    · cases hput
      rfl
    · split at hput
      · cases hput
        rfl
      · cases hput
  | retype index position type =>
    refine sameNames_updateAt (fun e e' hretype => ?_) hedit
    split at hretype
    · cases hretype
      rfl
    · cases hretype
  | popRecord index =>
    refine sameNames_updateAt (fun e e' hpop => ?_) hedit
    split at hpop
    · cases hpop
    · cases hpop
      rfl

end Chain

/-! ### Calls -/

theorem Session.Move.identities {s s' : Session} (hmove : s.Move s') :
    s'.kernel.chain.identities = s.kernel.chain.identities := by
  rcases hmove.chain with ⟨lookups, hcounted⟩ | ⟨id, htouched⟩
  · rw [hcounted]
    rfl
  · exact htouched.identities

theorem Session.Moves.identities {s s' : Session} (hmoves : s.Moves s') :
    s'.kernel.chain.identities = s.kernel.chain.identities := by
  induction hmoves with
  | refl => rfl
  | tail _ hmove ih => exact hmove.identities.trans ih

namespace Client

variable {c : Client} {t : TokenId} {r : Request}

theorem sameNames_perform (hc : c.WellFormed) (hr : r.KeepsNames) :
    c.kernel.chain.SameNames (c.perform r).client.kernel.chain := by
  by_cases hedit : ∃ e, r = .edit e
  · obtain ⟨e, rfl⟩ := hedit
    cases hedit : c.edit e with
    | none =>
      simp only [perform, hedit]
      exact Chain.sameNames_of_identities rfl
    | some c' =>
      simp only [perform, hedit]
      obtain ⟨chain, hchain, hc'⟩ := Option.bind_eq_some_iff.1 hedit
      cases hc'
      exact Chain.sameNames_edit hr hchain
  · apply Chain.sameNames_of_identities
    rcases served_cases hc fun e he => hedit ⟨e, he⟩ with ⟨t, s, hs, hwho, hserved⟩ | ⟨-, opens, closes, hchain⟩
    · rw [hserved, ← kernel_of_session? hs]
      exact (plays_of_session? hc hs hwho).moves.identities
    · rw [hchain]
      rfl

/-- The labels of a live token are true in what a query can ask for, if no kstat was renamed or taken
away. -/
theorem labelled_run (kernel : Kernel) {requests : List Request} (hkeeps : ∀ r ∈ requests, r.KeepsNames)
    {s : Session} (hs : (run { kernel } requests).session? t = some s) (hlive : s.handle = .live) :
    s.Labelled Identity.names := by
  revert hlive
  refine session_induction (P := fun _ r => r.KeepsNames)
    (fun s _ => s.handle = .live → s.Labelled Identity.names)
    ?_ ?_ ?_ (fun _ _ hties => hties) kernel (along_of_forall_mem hkeeps) hs
  · intro c f handle hc _ _ ht _
    exact Session.labelled_of_unused fun kstat hkstat => Nat.ne_of_lt (ht ▸ hc.owned kstat hkstat)
  · intro c r s s' past hc hr hmeanwhile hbefore hafter hties hlive
    rw [hmeanwhile.handle] at hlive
    refine (hties hlive).meanwhile hmeanwhile fun id i hi => ?_
    have hnames := sameNames_perform hc hr
    rw [← hbefore, ← hafter] at hnames
    unfold Session.identity? Handle.identity? at hi ⊢
    rw [hlive] at hi
    rw [hmeanwhile.handle, hlive]
    simp only [Handle.identities, ← Chain.identity?_eq] at hi ⊢
    exact hnames id i hi
  · intro c r m past hc _ _ hsound hadmits hties hlive
    have hlive' : m.session.handle = .live := by
      apply Handle.eq_live_of_facility
      rw [← m.session.facility_act m.action, hlive]
      rfl
    exact (hties hlive').act hadmits

end Client

end KernelStats
