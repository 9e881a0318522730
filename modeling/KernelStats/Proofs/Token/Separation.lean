import KernelStats.Proofs.Client.Moments
import KernelStats.Proofs.Token.HandedOut

/-!
# Tokens do not interfere

Two tokens on one chain see the same kstats, share what is loaded there, and may even know a kstat by the
same record id. Still nothing that is done through one of them shows in the other, apart from what the
chain itself shows: its handle, its cache and its objects stay as they were, and no object ever comes out
of both.

Which token an object was got through is read off the history alone: it was handed out by a call on the
token, or on an object that was got through it before.
-/

namespace KernelStats

/-- The objects that a history of handing out has given to a token, directly or by way of others. -/
inductive GotThrough (t : TokenId) (history : List (Request × KStatId)) : KStatId → Prop where
  | token {r : Request} {k : KStatId} (hmem : (r, k) ∈ history) (hr : r.token? = some t) :
    GotThrough t history k
  | object {r : Request} {k source : KStatId} (hmem : (r, k) ∈ history) (hr : r.object? = some source)
      (hsource : GotThrough t history source) : GotThrough t history k

/-- A request that is made of a token, or of an object that was got through it. -/
def Request.Uses (r : Request) (t : TokenId) (history : List (Request × KStatId)) : Prop :=
  r.token? = some t ∨ ∃ k, r.object? = some k ∧ GotThrough t history k

namespace Client

def object? (c : Client) (t : TokenId) (id : RecordId) : Option KStatId :=
  c.tokens[t]?.bind (·.cache.find? id)

section

variable {c c' : Client} {t u : TokenId} {r : Request} {k : KStatId}

/-! ### One request -/

theorem Step.tokens_of_other (hstep : c.Step (some t) c') (hne : t ≠ u) : c'.tokens[u]? = c.tokens[u]? := by
  cases hstep with
  | same => rfl
  | closed => exact List.getElem?_set_ne hne
  | buried => exact List.getElem?_set_ne hne
  | called => exact List.getElem?_modify_ne _ _ hne

theorem Step.token_of_new (hstep : c.Step (some t) c') {kstat : KStat} (hnew : c.kstat? k = none)
    (hk : c'.kstat? k = some kstat) : kstat.token = t := by
  have hlength : c.kstats.length ≤ k := List.getElem?_eq_none_iff.1 hnew
  cases hstep with
  | called hs hmoves => exact (grownBy_of_session? hs hmoves).added k kstat hlength hk
  | _ => exact nomatch (hnew.symm.trans hk : (none : Option KStat) = some kstat)

/-! ### The history -/

theorem Accounts.token_of_gotThrough {history : List (Request × KStatId)} (h : c.Accounts history)
    (hk : GotThrough t history k) : ∃ kstat, c.kstat? k = some kstat ∧ kstat.token = t := by
  induction hk with
  | token hmem hr =>
    obtain ⟨kstat, hk, htoken, -⟩ := h _ _ hmem
    exact ⟨kstat, hk, htoken t hr⟩
  | object hmem hr _ ih =>
    obtain ⟨kstat, hk, -, hsource⟩ := h _ _ hmem
    obtain ⟨other, hother, hsame⟩ := hsource _ hr
    obtain ⟨source, hkstat, htoken⟩ := ih
    rw [hother] at hkstat
    cases hkstat
    exact ⟨kstat, hk, hsame.symm.trans htoken⟩

theorem Accounts.addressee_of_uses {history : List (Request × KStatId)} (h : c.Accounts history)
    (hr : r.Uses t history) : c.addressee r = some t := by
  rcases hr with hnamed | ⟨k, hobject, hgot⟩
  · exact addressee_of_token? hnamed
  · obtain ⟨kstat, hk, htoken⟩ := h.token_of_gotThrough hgot
    rw [addressee_of_object? hobject, hk, Option.map_some, htoken]

end

/-- **Tokens do not interfere.** Nothing that is asked of a token, or of an object that was got through it,
opens or closes another token, changes what the other has cached, or touches an object of the other; the
objects that it makes are the token's own. An object that was got through one token is of that token, so
none is ever got through two. -/
theorem tokens_do_not_interfere (kernel : Kernel) (requests : List Request) {t u : TokenId} (hne : t ≠ u) :
    let now := run { kernel } requests
    let history := gather handed { kernel } requests
    (∀ r : Request, r.Uses t history →
      let after := (now.perform r).client
      after.isOpen u = now.isOpen u ∧ after.cachedCount u = now.cachedCount u ∧
      (∀ id, after.object? u id = now.object? u id) ∧
      (∀ k kstat, kstat.token = u → (after.kstat? k = some kstat ↔ now.kstat? k = some kstat)) ∧
      ∀ k kstat, now.kstat? k = none → after.kstat? k = some kstat → kstat.token = t) ∧
    (∀ k, GotThrough u history k → ∃ kstat, now.kstat? k = some kstat ∧ kstat.token = u) ∧
    ∀ k, GotThrough t history k → ¬GotThrough u history k := by
  intro now history
  have hnow : now.WellFormed := (WellFormed.start kernel).run requests
  have haccounts : now.Accounts history := accounts_run kernel requests
  refine ⟨fun r hr => ?_, fun k hk => haccounts.token_of_gotThrough hk, fun k ht hu => ?_⟩
  · have hstep := step_perform hnow r
    rw [haccounts.addressee_of_uses hr] at hstep
    have htokens := hstep.tokens_of_other hne
    have hother : some t ≠ some u := fun heq => hne (Option.some.inj heq)
    refine ⟨?_, ?_, fun id => ?_, fun k kstat htoken => hstep.kstat?_of_ne hother htoken,
      fun k kstat hnew hk => hstep.token_of_new hnew hk⟩
    · rw [isOpen_eq, htokens, ← isOpen_eq]
    · rw [cachedCount, htokens, ← cachedCount]
    · rw [object?, htokens, ← object?]
  · obtain ⟨kstat, hk, htoken⟩ := haccounts.token_of_gotThrough ht
    obtain ⟨kstat', hk', htoken'⟩ := haccounts.token_of_gotThrough hu
    rw [hk] at hk'
    cases hk'
    exact hne (htoken.symm.trans htoken')

/-- Two tokens that found the same kstat have an object each, and letting one of them go, or reading through
its object, does nothing to the other. -/
theorem tokens_do_not_interfere_on_one_kstat :
    let q : Query := ⟨[], Query.anyInstance, []⟩
    let requests : List Request :=
      [.openToken (some .library), .openToken (some .live), .lookup 0 q, .lookup 1 q]
    let now := run { kernel := { chain := Chain.sample } } requests
    let history := gather handed { kernel := { chain := Chain.sample } } requests
    (0 : TokenId) ≠ 1 ∧ GotThrough 0 history 0 ∧ GotThrough 1 history 1 ∧ ¬GotThrough 1 history 0 ∧
      now.object? 0 (.ofIndex 0) = some 0 ∧ now.object? 1 (.ofIndex 0) = some 1 ∧
      (now.perform (.destroy 0)).client.object? 1 (.ofIndex 0) = some 1 ∧
      (now.perform (.refresh 0)).client.kstat? 1 = now.kstat? 1 := by
  intro q requests now history
  have hfirst : GotThrough 0 history 0 := .token (r := .lookup 0 q) (by decide) rfl
  have hsecond : GotThrough 1 history 1 := .token (r := .lookup 1 q) (by decide) rfl
  have hne : (0 : TokenId) ≠ 1 := by decide
  obtain ⟨huses, howned, hdisjoint⟩ := tokens_do_not_interfere { chain := Chain.sample } requests hne
  obtain ⟨-, -, hcached, -⟩ := huses (.destroy 0) (.inl rfl)
  obtain ⟨-, -, -, hkept, -⟩ := huses (.refresh 0) (.inr ⟨0, rfl, hfirst⟩)
  obtain ⟨kstat, hk, htoken⟩ := howned 1 hsecond
  have hobject : now.object? 1 (.ofIndex 0) = some 1 := by decide
  exact ⟨hne, hfirst, hsecond, hdisjoint 0 hfirst, by decide, hobject, (hcached _).trans hobject,
    ((hkept 1 kstat htoken).2 hk).trans hk.symm⟩

end Client

end KernelStats
