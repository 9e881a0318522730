import KernelStats.Proofs.Token.Closing

/-!
# What a request opens and closes

Of all that a client knows about its tokens, the list of which are open is the simplest, and it is all
that matters to the chain's count of closes. Only three kinds of requests touch it: an open appends one
entry, and a close or a release clears the entry of the token that it names.
-/

namespace KernelStats

namespace Client

def opened (c : Client) (r : Request) : List TokenId :=
  match r, (c.perform r).result with
  | .openToken _, .opened (.ok t) => [t]
  | _, _ => []

/-- The token that a request closes or lets go, whether or not it was still open. -/
def released (c : Client) (r : Request) : List TokenId :=
  match r, (c.perform r).result with
  | .close t, .closed _ => [t]
  | .destroy t, .destroyed => [t]
  | _, _ => []

/-- Which tokens are open, in the order of their numbers. -/
def openings (c : Client) : List Bool := c.tokens.map fun token => token.handle.isSome

section

variable {c : Client} {t : TokenId}

@[simp] theorem length_openings (c : Client) : c.openings.length = c.tokens.length := by
  simp [openings]

theorem isOpen_iff : c.isOpen t = true ↔ c.openings[t]? = some true := by
  rw [isOpen_eq, openings, List.getElem?_map]
  cases c.tokens[t]? with
  | none => simp
  | some token => simp

theorem shut_iff : c.Shut t ↔ c.openings[t]? = some false := by
  constructor
  · rintro ⟨hknown, hclosed⟩
    have hlt : t < c.openings.length := by simpa using hknown
    have hnot : c.openings[t]? ≠ some true := by simp [← isOpen_iff, hclosed]
    rw [List.getElem?_eq_getElem hlt] at hnot ⊢
    simpa using hnot
  · intro hfalse
    have hlt := (List.getElem?_eq_some_iff.1 hfalse).1
    refine ⟨by simpa using hlt, ?_⟩
    by_contra hopen
    rw [Bool.not_eq_false, isOpen_iff, hfalse] at hopen
    cases hopen

/-! ### What a request opens and closes -/

theorem openings_settle {s : Session} (hs : c.session? t = some s) (s' : Session) :
    (c.settle t s').openings = c.openings := by
  obtain ⟨token, handle, htoken, hhandle, -⟩ := session?_eq_some_iff.1 hs
  apply List.ext_getElem?
  intro u
  simp only [openings, settle, List.getElem?_map]
  by_cases hut : t = u
  · subst hut
    rw [List.getElem?_modify_eq, htoken]
    simp [hhandle]
  · rw [List.getElem?_modify_ne _ _ hut]

theorem openings_onOpen {α : Type} (c : Client) (t : TokenId) (closed : α)
    (call : Session → Session × α) : (c.onOpen t closed call).client.openings = c.openings := by
  cases hs : c.session? t with
  | none => rw [onOpen_of_none hs]
  | some s => rw [onOpen_of_session? hs, openings_settle hs]

theorem openings_onKStat {α : Type} (c : Client) (k : KStatId)
    (call : Session → Session × Except Failure α) :
    (c.onKStat k call).client.openings = c.openings := by
  unfold onKStat
  split
  · exact openings_onOpen ..
  · rfl

theorem openings_withToken (t : TokenId) {answer : Outcome Reply}
    (h : answer.client.openings = c.openings) : (c.withToken t answer).client.openings = c.openings :=
  withToken_ind (fun o => o.client.openings = c.openings) h rfl

theorem openings_withKStat (k : KStatId) {answer : Outcome Reply}
    (h : answer.client.openings = c.openings) : (c.withKStat k answer).client.openings = c.openings :=
  withKStat_ind (fun o => o.client.openings = c.openings) h rfl

/-- Only three kinds of requests open or close anything. -/
theorem openings_perform (c : Client) {r : Request} (hopen : ∀ facility, r ≠ .openToken facility)
    (hclose : ∀ t, r ≠ .close t) (hdestroy : ∀ t, r ≠ .destroy t) :
    (c.perform r).client.openings = c.openings := by
  cases r with
  | openToken facility => exact absurd rfl (hopen facility)
  | close t => exact absurd rfl (hclose t)
  | destroy t => exact absurd rfl (hdestroy t)
  | isOpen t => exact openings_withToken t rfl
  | cachedCount t => exact openings_withToken t rfl
  | all t => exact openings_withToken t (openings_onOpen ..)
  | lookup t q => exact openings_withToken t (openings_onOpen ..)
  | lookupStatistic t q name => exact openings_withToken t (openings_onOpen ..)
  | refresh k => exact openings_withKStat k (openings_onKStat ..)
  | statistic k name => exact openings_withKStat k (openings_onKStat ..)
  | statistics k => exact openings_withKStat k (openings_onKStat ..)
  | edit e =>
    simp only [perform]
    split
    · next hedit =>
      obtain ⟨chain, -, hc'⟩ := Option.bind_eq_some_iff.1 hedit
      cases hc'
      rfl
    · rfl

theorem openToken_cases (c : Client) (facility : Option Facility) :
    (∃ f, (c.openToken facility).result = .error f ∧
        (c.openToken facility).client.openings = c.openings) ∨
      ((c.openToken facility).result = .ok c.tokens.length ∧
        (c.openToken facility).client.openings = c.openings ++ [true]) := by
  unfold openToken
  cases facility with
  | none => exact .inl ⟨_, rfl, rfl⟩
  | some f =>
    simp only
    split
    · split
      · exact .inr ⟨rfl, by simp [openings]⟩
      · exact .inl ⟨_, rfl, rfl⟩
    · exact .inl ⟨_, rfl, rfl⟩

theorem openings_set_of_closed (hclosed : c.isOpen t = false) : c.openings.set t false = c.openings := by
  apply List.ext_getElem?
  intro u
  by_cases hut : t = u
  · subst hut
    by_cases hlt : t < c.tokens.length
    · have hfalse := shut_iff.1 ⟨hlt, hclosed⟩
      rw [List.getElem?_set_self (by simpa using hlt), hfalse]
    · rw [List.getElem?_eq_none (by simpa using hlt), List.getElem?_eq_none (by simpa using hlt)]
  · rw [List.getElem?_set_ne hut]

theorem openings_close (c : Client) (t : TokenId) :
    (c.close t).client.openings = c.openings.set t false := by
  cases hopen : c.isOpen t with
  | false => rw [close_of_closed hopen, openings_set_of_closed hopen]
  | true =>
    obtain ⟨token, handle, htoken, hhandle⟩ := exists_handle hopen
    rw [close_of_open htoken hhandle]
    simp [openings, List.map_set]

theorem openings_destroy (c : Client) (t : TokenId) :
    (c.destroy t).client.openings = c.openings.set t false := by
  rw [← openings_close, client_destroy]
  apply List.ext_getElem?
  intro u
  simp only [openings, List.getElem?_map]
  by_cases hut : t = u
  · subst hut
    rw [List.getElem?_modify_eq]
    cases (c.close t).client.tokens[t]? with
    | none => rfl
    | some token => rfl
  · rw [List.getElem?_modify_ne _ _ hut]

/-- A close and a release shut the token that they name, and are refused if it is gone. -/
theorem openings_release (hc : c.WellFormed) {r : Request} (hr : r = .close t ∨ r = .destroy t) :
    (c.released r = [] ∧ (c.perform r).client.openings = c.openings) ∨
      (c.released r = [t] ∧ t < c.tokens.length ∧
        (c.perform r).client.openings = c.openings.set t false) := by
  rcases hc.withToken_cases t with ⟨hlt, hanswered⟩ | ⟨-, hrefused⟩
  · right
    rcases hr with rfl | rfl
    · simp only [released, perform, hanswered]
      exact ⟨rfl, hlt, openings_close c t⟩
    · simp only [released, perform, hanswered]
      exact ⟨rfl, hlt, openings_destroy c t⟩
  · left
    rcases hr with rfl | rfl
    · simp only [released, perform, hrefused]
      exact ⟨rfl, rfl⟩
    · simp only [released, perform, hrefused]
      exact ⟨rfl, rfl⟩

theorem openings_cases (hc : c.WellFormed) (r : Request) :
    (c.opened r = [] ∧ c.released r = [] ∧ (c.perform r).client.openings = c.openings) ∨
    (c.opened r = [c.tokens.length] ∧ c.released r = [] ∧
      (c.perform r).client.openings = c.openings ++ [true]) ∨
    ∃ t, c.opened r = [] ∧ c.released r = [t] ∧ t < c.tokens.length ∧
      (c.perform r).client.openings = c.openings.set t false := by
  by_cases hopen : ∃ facility, r = .openToken facility
  · obtain ⟨facility, rfl⟩ := hopen
    rcases c.openToken_cases facility with ⟨f, hresult, hopenings⟩ | ⟨hresult, hopenings⟩
    · exact .inl ⟨by simp [opened, perform, Outcome.map, hresult], rfl, hopenings⟩
    · exact .inr (.inl ⟨by simp [opened, perform, Outcome.map, hresult], rfl, hopenings⟩)
  by_cases hrelease : ∃ t, r = .close t ∨ r = .destroy t
  · obtain ⟨t, hr⟩ := hrelease
    have hnone : c.opened r = [] := by rcases hr with rfl | rfl <;> rfl
    rcases openings_release hc hr with ⟨hreleased, hopenings⟩ | ⟨hreleased, hlt, hopenings⟩
    · exact .inl ⟨hnone, hreleased, hopenings⟩
    · exact .inr (.inr ⟨t, hnone, hreleased, hlt, hopenings⟩)
  -- all that is left neither opens nor closes
  have hopen' : ∀ facility, r ≠ .openToken facility := fun facility hr => hopen ⟨facility, hr⟩
  have hclose : ∀ t, r ≠ .close t := fun t hr => hrelease ⟨t, .inl hr⟩
  have hdestroy : ∀ t, r ≠ .destroy t := fun t hr => hrelease ⟨t, .inr hr⟩
  have hopenings := c.openings_perform hopen' hclose hdestroy
  refine .inl ⟨?_, ?_, hopenings⟩
  · unfold opened
    split
    · exact absurd rfl (hopen' _)
    · rfl
  · unfold released
    split
    · exact absurd rfl (hclose _)
    · exact absurd rfl (hdestroy _)
    · rfl

end

end Client

end KernelStats
