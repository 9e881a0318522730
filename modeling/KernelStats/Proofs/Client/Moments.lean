import KernelStats.Proofs.Client.History
import KernelStats.Proofs.Session.Script
import KernelStats.Proofs.Token.Openings

/-!
# The moments of a token

A token lives through the moments of its own calls. Between two calls others may edit the chain, read
it, or use tokens of their own; all that this does to a session of the token is to change its kernel.
`session_induction` says what follows: a fact about the sessions of a token and the moments that it has
lived through holds after every run, if it holds at the open, outlasts what others do meanwhile, and is
kept by every action.
-/

namespace KernelStats

/-- What others can do to a session between two calls on it: change the kernel. -/
structure Session.Meanwhile (s s' : Session) : Prop where
  token : s'.token = s.token
  handle : s'.handle = s.handle
  objects : ∀ (k : Nat) (kstat : KStat), kstat.token = s.token →
    (s'.kstats[k]? = some kstat ↔ s.kstats[k]? = some kstat)

theorem Session.Meanwhile.rfl (s : Session) : s.Meanwhile s := ⟨Eq.refl _, Eq.refl _, fun _ _ _ => Iff.rfl⟩

theorem Session.Meanwhile.standsFor {s s' : Session} (h : s.Meanwhile s') {k : KStatId} {id : RecordId} :
    s'.StandsFor k id ↔ s.StandsFor k id := by
  unfold StandsFor
  rw [h.token, List.getElem?_map, List.getElem?_map]
  constructor
  · intro hk
    obtain ⟨kstat, hkstat, horigin⟩ := Option.map_eq_some_iff.1 hk
    rw [(h.objects k kstat (congrArg Prod.fst horigin)).1 hkstat, Option.map_some, horigin]
  · intro hk
    obtain ⟨kstat, hkstat, horigin⟩ := Option.map_eq_some_iff.1 hk
    rw [(h.objects k kstat (congrArg Prod.fst horigin)).2 hkstat, Option.map_some, horigin]

theorem Session.Meanwhile.kstat {s s' : Session} (h : s.Meanwhile s') {k : KStatId} {id : RecordId}
    (hk : s.StandsFor k id) : s'.kstat k = s.kstat k := by
  obtain ⟨kstat, hkstat, horigin⟩ := Option.map_eq_some_iff.1 ((List.getElem?_map ..).symm.trans hk)
  have hkstat' := (h.objects k kstat (congrArg Prod.fst horigin)).2 hkstat
  simp only [Session.kstat, List.getD, hkstat, hkstat']

namespace Client

/-- The moments that a token lives through in a request. -/
def moments (t : TokenId) (c : Client) (r : Request) : List Moment :=
  if c.addressee r = some t then ((c.session? t).map fun s => s.moments (s.script r)).getD [] else []

section

variable {c c' : Client} {t : TokenId} {s s' : Session} {r : Request} {who : Option TokenId}

theorem moments_of_ne (hr : c.addressee r ≠ some t) : c.moments t r = [] := if_neg hr

theorem moments_of_none (hs : c.session? t = none) (r : Request) : c.moments t r = [] := by
  unfold moments
  rw [hs]
  split <;> rfl

theorem moments_of_session? (hs : c.session? t = some s) (hr : c.addressee r = some t) :
    c.moments t r = s.moments (s.script r) := by
  unfold moments
  rw [if_pos hr, hs]
  rfl

theorem kernel_of_session? (hs : c.session? t = some s) : s.kernel = c.kernel := by
  obtain ⟨token, handle, -, -, rfl⟩ := session?_eq_some_iff.1 hs
  rfl

theorem token_of_session? (hs : c.session? t = some s) : s.token = t := by
  obtain ⟨token, handle, -, -, rfl⟩ := session?_eq_some_iff.1 hs
  rfl

theorem kstats_of_session? (hs : c.session? t = some s) : s.kstats = c.kstats := by
  obtain ⟨token, handle, -, -, rfl⟩ := session?_eq_some_iff.1 hs
  rfl

theorem lt_of_session? (hs : c.session? t = some s) : t < c.tokens.length := by
  obtain ⟨token, handle, htoken, -, -⟩ := session?_eq_some_iff.1 hs
  exact (List.getElem?_eq_some_iff.1 htoken).1

theorem session?_settle (hs : c.session? t = some s) (hs' : s'.token = t) :
    (c.settle t s').session? t = some { s' with log := [] } := by
  obtain ⟨token, handle, htoken, -, -⟩ := session?_eq_some_iff.1 hs
  refine session?_eq_some_iff.2 ⟨{ token with handle := some s'.handle, cache := s'.cache }, s'.handle, ?_, rfl, ?_⟩
  · simp only [settle, List.getElem?_modify_eq, htoken]
    rfl
  · simp only [settle, ← hs']

theorem plays_of_session? (hc : c.WellFormed) (hs : c.session? t = some s) (hr : c.addressee r = some t) :
    s.Plays (s.script r) (s.serve r).1 :=
  Session.plays_serve (hc.sound hs) fun _ hk => standsFor_of_addressee hs hr hk

/-! ### What others do meanwhile -/

theorem Step.tokens_of_ne (hstep : c.Step who c') (hwho : who ≠ some t) (ht : t < c.tokens.length) :
    c'.tokens[t]? = c.tokens[t]? := by
  cases hstep with
  | same => rfl
  | edited => rfl
  | unopened => rfl
  | opened => exact List.getElem?_append_left ht
  | closed => exact List.getElem?_set_ne fun heq => hwho (congrArg some heq)
  | buried => exact List.getElem?_set_ne fun heq => hwho (congrArg some heq)
  | called => exact List.getElem?_modify_ne _ _ fun heq => hwho (congrArg some heq)

/-- The objects of a token are only touched by requests that are for the token. -/
theorem Step.kstat?_of_ne (hstep : c.Step who c') (hwho : who ≠ some t) {k : KStatId} {kstat : KStat}
    (htoken : kstat.token = t) : c'.kstat? k = some kstat ↔ c.kstat? k = some kstat := by
  cases hstep with
  | @called u s s' hs hmoves =>
    have hne : t ≠ u := fun heq => hwho (congrArg some heq.symm)
    exact (grownBy_of_session? hs hmoves).getElem?_iff hne htoken
  | _ => rfl

theorem Step.meanwhile (hstep : c.Step who c') (hwho : who ≠ some t) (hs : c.session? t = some s) :
    ∃ s', c'.session? t = some s' ∧ s.Meanwhile s' := by
  have htokens := hstep.tokens_of_ne hwho (lt_of_session? hs)
  obtain ⟨token, handle, htoken, hhandle, rfl⟩ := session?_eq_some_iff.1 hs
  refine ⟨_, session?_eq_some_iff.2 ⟨token, handle, htokens.trans htoken, hhandle, rfl⟩, rfl, rfl, ?_⟩
  intro k kstat hkstat
  exact hstep.kstat?_of_ne hwho hkstat

def newSession (c : Client) (t : TokenId) (f : Facility) (handle : Handle) : Session :=
  { token := t, kernel := (f.openHandle c.kernel).kernel, handle, cache := .empty, kstats := c.kstats }

theorem client_openToken (c : Client) (f : Facility) :
    (c.openToken (some f)).client = { c with kernel := (f.openHandle c.kernel).kernel } ∨
      ∃ handle, (f.openHandle c.kernel).handle = some handle ∧
        (c.openToken (some f)).client =
          { c with
            kernel := (f.openHandle c.kernel).kernel
            tokens := c.tokens ++ [{ handle := some handle }] } := by
  unfold openToken
  simp only
  split
  · next handle hhandle =>
    split
    · exact .inr ⟨handle, hhandle, rfl⟩
    · exact .inl rfl
  · exact .inl rfl

theorem outcome_openToken_library (c : Client) :
    c.openToken (some .library) =
      let errno := c.kernel.chain.openErrno
      let counted := { c.kernel with chain := { c.kernel.chain with opens := c.kernel.chain.opens + 1 } }
      if errno = 0 then
        { client :=
            { c with
              kernel := counted
              tokens := c.tokens ++ [{ handle := some (.library (some (.ofChain c.kernel.chain))) }] }
          result := .ok c.tokens.length
          log := [.tokenOpened] }
      else
        { client := { c with kernel := counted.fail errno }
          result := .error (.cannotOpen errno)
          log := [.openFailed errno] } := by
  unfold openToken Facility.openHandle Kernel.openControl
  by_cases hgood : c.kernel.chain.openErrno = 0
  · simp only [if_pos hgood, if_true]
    rfl
  · simp only [if_neg hgood]
    rfl

theorem session?_openToken (f : Facility) (hs' : (c.openToken (some f)).client.session? t = some s') :
    (∃ handle, (f.openHandle c.kernel).handle = some handle ∧ t = c.tokens.length ∧
      s' = c.newSession t f handle) ∨
    ∃ s, c.session? t = some s ∧ s.Meanwhile s' := by
  have hnobody : (none : Option TokenId) ≠ some t := fun hnone => nomatch hnone
  cases hs : c.session? t with
  | some s =>
    obtain ⟨s'', hs'', hmeanwhile⟩ := (step_openToken c (some f)).meanwhile hnobody hs
    rw [hs'] at hs''
    cases hs''
    exact .inr ⟨s, rfl, hmeanwhile⟩
  | none =>
    rcases c.client_openToken f with hsame | ⟨handle, hhandle, hnew⟩
    · -- no token was added, so there is still no session
      rw [hsame] at hs'
      obtain ⟨token, old, htoken, hold, -⟩ := session?_eq_some_iff.1 hs'
      have hsession : c.session? t = some _ := session?_eq_some_iff.2 ⟨token, old, htoken, hold, rfl⟩
      rw [hs] at hsession
      cases hsession
    · left
      rw [hnew] at hs'
      obtain ⟨token, opened, htoken, hopened, rfl⟩ := session?_eq_some_iff.1 hs'
      have hnot : ¬t < c.tokens.length := by
        intro hlt
        rw [List.getElem?_append_left hlt] at htoken
        have hsession : c.session? t = some _ :=
          session?_eq_some_iff.2 ⟨token, opened, htoken, hopened, rfl⟩
        rw [hs] at hsession
        cases hsession
      have hlt' : t < c.tokens.length + 1 := by
        simpa using (List.getElem?_eq_some_iff.1 htoken).1
      obtain rfl : t = c.tokens.length := Nat.le_antisymm (Nat.le_of_lt_succ hlt') (Nat.le_of_not_lt hnot)
      rw [List.getElem?_concat_length] at htoken
      cases htoken
      cases hopened
      exact ⟨handle, hhandle, rfl, rfl⟩

theorem length_tokens_perform (hc : c.WellFormed) (r : Request) :
    c.tokens.length ≤ (c.perform r).client.tokens.length := by
  rw [← length_openings, ← length_openings]
  rcases openings_cases hc r with ⟨-, -, hsame⟩ | ⟨-, -, hnext⟩ | ⟨u, -, -, -, hset⟩
  · exact Nat.le_of_eq (congrArg List.length hsame.symm)
  · rw [hnext, List.length_append]
    exact Nat.le_add_right _ _
  · exact Nat.le_of_eq (by rw [hset, List.length_set])

/-- Where a session of a token comes from: the open, what others did meanwhile, or a call. -/
theorem session?_perform (hc : c.WellFormed) (hs' : (c.perform r).client.session? t = some s') :
    (∃ f handle, r = .openToken (some f) ∧ (f.openHandle c.kernel).handle = some handle ∧
      t = c.tokens.length ∧
      s' = c.newSession t f handle) ∨
    ∃ s, c.session? t = some s ∧
      ((c.addressee r ≠ some t ∧ s.Meanwhile s') ∨
        (c.addressee r = some t ∧ r ≠ .close t ∧ r ≠ .destroy t ∧ s' = { (s.serve r).1 with log := [] })) := by
  by_cases hopen : ∃ facility, r = .openToken facility
  · obtain ⟨facility, rfl⟩ := hopen
    cases facility with
    | none => exact .inr ⟨s', hs', .inl ⟨fun hnone => (nomatch hnone), .rfl s'⟩⟩
    | some f =>
      rcases session?_openToken f hs' with ⟨handle, hnew⟩ | ⟨s, hs, hmeanwhile⟩
      · exact .inl ⟨f, handle, rfl, hnew⟩
      · exact .inr ⟨s, hs, .inl ⟨fun hnone => (nomatch hnone), hmeanwhile⟩⟩
  right
  have hstep := step_perform hc r
  have hlt : t < c.tokens.length := by
    have hlt' := lt_of_session? hs'
    rw [← length_openings] at hlt' ⊢
    rcases openings_cases hc r with ⟨-, -, hsame⟩ | ⟨hopened, -, -⟩ | ⟨u, -, -, -, hset⟩
    · rwa [hsame] at hlt'
    · have hnone : c.opened r = [] := by
        unfold opened
        split
        · exact absurd ⟨_, rfl⟩ hopen
        · rfl
      rw [hnone] at hopened
      cases hopened
    · rwa [hset, List.length_set] at hlt'
  have hnot : ¬(c.perform r).client.Shut t := by
    intro hshut
    rw [hshut.session?] at hs'
    cases hs'
  by_cases hr : c.addressee r = some t
  · obtain ⟨s, hs⟩ : ∃ s, c.session? t = some s := by
      apply exists_session?
      by_contra hclosed
      exact hnot (hstep.shut ⟨hlt, by simpa using hclosed⟩)
    have hclose : r ≠ .close t := fun h => hnot (shut_release hc hlt (.inl h)).1
    have hdestroy : r ≠ .destroy t := fun h => hnot (shut_release hc hlt (.inr h)).1
    refine ⟨s, hs, .inr ⟨hr, hclose, hdestroy, ?_⟩⟩
    have hobject : ∀ k, r.object? = some k → ∃ id, s.StandsFor k id := fun k hk =>
      standsFor_of_addressee hs hr hk
    have htoken : (s.serve r).1.token = t :=
      (Session.moves_serve (hc.sound hs) hobject).advances.token.trans (token_of_session? hs)
    rw [perform_of_session? hc hs hr hclose hdestroy, served, session?_settle hs htoken] at hs'
    exact (Option.some.inj hs').symm
  · obtain ⟨token, handle, htoken, hhandle, rfl⟩ := session?_eq_some_iff.1 hs'
    have hs := session?_eq_some_iff.2
      ⟨token, handle, (hstep.tokens_of_ne hr hlt).symm.trans htoken, hhandle, rfl⟩
    obtain ⟨s'', hs'', hmeanwhile⟩ := hstep.meanwhile hr hs
    rw [hs'] at hs''
    cases hs''
    exact ⟨_, hs, .inl ⟨hr, hmeanwhile⟩⟩

/-! ### The history of a token -/

/-- What holds of a session at the open of its token, outlasts what others do, and is kept by every
action that the token takes, holds after every run. -/
theorem session_induction {P : Client → Request → Prop} (Ties : Session → List Moment → Prop)
    (hopened : ∀ (c : Client) (f : Facility) (handle : Handle), c.WellFormed →
      P c (.openToken (some f)) → (f.openHandle c.kernel).handle = some handle →
      t = c.tokens.length →
      Ties (c.newSession t f handle) [])
    (hmeanwhile : ∀ (c : Client) (r : Request) (s s' : Session) (past : List Moment), c.WellFormed →
      P c r → s.Meanwhile s' → s.kernel = c.kernel → s'.kernel = (c.perform r).client.kernel →
      Ties s past → Ties s' past)
    (hact : ∀ (c : Client) (r : Request) (m : Moment) (past : List Moment), c.WellFormed → P c r →
      m ∈ c.moments t r → m.session.Sound → m.session.Admits m.action → Ties m.session past →
      Ties (m.session.act m.action) (past ++ [m]))
    (hlog : ∀ (s : Session) (past : List Moment), Ties s past → Ties { s with log := [] } past)
    (kernel : Kernel) {requests : List Request} (halong : Along P { kernel } requests)
    (hs : (run { kernel } requests).session? t = some s) :
    Ties s (gather (moments t) { kernel } requests) := by
  -- a token that is still to be opened has no moments yet
  suffices hrun : ((run { kernel } requests).tokens.length ≤ t →
        gather (moments t) { kernel } requests = []) ∧
      ∀ s, (run { kernel } requests).session? t = some s →
        Ties s (gather (moments t) { kernel } requests) from hrun.2 s hs
  refine gather_induction_along (fun c past => (c.tokens.length ≤ t → past = []) ∧
    ∀ s, c.session? t = some s → Ties s past) ?_ (.start kernel) ⟨fun _ => rfl, ?_⟩ halong
  · rintro c past r hc hr ⟨hunknown, hpast⟩
    refine ⟨fun hle => ?_, fun s' hs' => ?_⟩
    · have hle' : c.tokens.length ≤ t := Nat.le_trans (length_tokens_perform hc r) hle
      have hnone : c.session? t = none := by
        cases hs : c.session? t with
        | none => rfl
        | some s => exact absurd (lt_of_session? hs) (Nat.not_lt.2 hle')
      rw [hunknown hle', moments_of_none hnone, List.append_nil]
    rcases session?_perform hc hs' with ⟨f, handle, rfl, hhandle, ht, rfl⟩ |
      ⟨s, hs, ⟨hne, hmean⟩ | ⟨hown, hclose, hdestroy, rfl⟩⟩
    · have hne : c.addressee (.openToken (some f)) ≠ some t := fun hnone => nomatch hnone
      rw [moments_of_ne hne, List.append_nil, hunknown (Nat.le_of_eq ht.symm)]
      exact hopened c f handle hc hr hhandle ht
    · rw [moments_of_ne hne, List.append_nil]
      exact hmeanwhile c r s s' past hc hr hmean (kernel_of_session? hs) (kernel_of_session? hs')
        (hpast s hs)
    · have hsound := hc.sound hs
      have hplays := plays_of_session? hc hs hown
      have hmoments := moments_of_session? hs hown
      rw [hmoments]
      refine hlog _ _ (hplays.induction Ties hsound (fun m hm past hm' hadmits hties => ?_) (hpast s hs))
      exact hact c r m past hc hr (hmoments ▸ hm) hm' hadmits hties
  · intro s hs
    cases hs

end

end Client

end KernelStats
