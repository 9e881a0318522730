import KernelStats.Chain.Sample
import KernelStats.Proofs.Client.Serving

/-!
# Closing is final

A token that was closed, or let go, never opens again: no step puts a handle back, and only steps of
an open token touch its objects. So whatever is asked afterwards, of the token or of its objects, is
turned away without a look at the kernel, and the objects stay readable as they were at the close.
-/

namespace KernelStats

/-- A call that failed because its token is closed, and did nothing. -/
def Outcome.TurnedAway {α : Type} (o : Outcome (Except Failure α)) (c : Client) : Prop :=
  o.client = c ∧ o.log = [] ∧ ∃ f, o.result = .error f ∧ f.code = .closedToken

namespace Client

/-- A token that was opened once and is not open any more. -/
structure Shut (c : Client) (t : TokenId) : Prop where
  known : t < c.tokens.length
  closed : c.isOpen t = false

section

variable {c c' : Client} {t : TokenId} {who : Option TokenId}

theorem Step.shut (hstep : c.Step who c') (ht : c.Shut t) : c'.Shut t := by
  obtain ⟨hknown, hclosed⟩ := ht
  cases hstep with
  | same => exact ⟨hknown, hclosed⟩
  | edited => exact ⟨hknown, hclosed⟩
  | unopened => exact ⟨hknown, hclosed⟩
  | opened =>
    refine ⟨?_, ?_⟩
    · simp only [List.length_append]
      exact Nat.lt_add_right _ hknown
    · rw [isOpen_eq, List.getElem?_append_left hknown]
      exact hclosed
  | @closed u token handle htoken hhandle alive =>
    refine ⟨by simpa using hknown, ?_⟩
    by_cases hut : u = t
    · subst hut
      rw [isOpen_eq, List.getElem?_set_self hknown]
      rfl
    · rw [isOpen_eq, List.getElem?_set_ne hut]
      exact hclosed
  | @buried u token htoken hnone =>
    refine ⟨by simpa using hknown, ?_⟩
    by_cases hut : u = t
    · subst hut
      rw [isOpen_eq, List.getElem?_set_self hknown]
      simp [hnone]
    · rw [isOpen_eq, List.getElem?_set_ne hut]
      exact hclosed
  | @called u s s' hs hmoves =>
    have hut : u ≠ t := by
      rintro rfl
      rw [isOpen_of_session? hs] at hclosed
      cases hclosed
    refine ⟨by simpa [settle] using hknown, ?_⟩
    simp only [settle, isOpen_eq, List.getElem?_modify_ne _ _ hut]
    exact hclosed

theorem Step.kstat?_iff (hstep : c.Step who c') (hclosed : c.isOpen t = false) {k : KStatId}
    {kstat : KStat} (htoken : kstat.token = t) : c'.kstat? k = some kstat ↔ c.kstat? k = some kstat := by
  cases hstep with
  | same => rfl
  | edited => rfl
  | unopened => rfl
  | opened => rfl
  | closed => rfl
  | buried => rfl
  | @called u s s' hs hmoves =>
    have hut : t ≠ u := by
      rintro rfl
      rw [isOpen_of_session? hs] at hclosed
      cases hclosed
    exact (grownBy_of_session? hs hmoves).getElem?_iff hut htoken

theorem Shut.run (ht : c.Shut t) (hc : c.WellFormed) (requests : List Request) :
    (c.run requests).Shut t := by
  induction requests generalizing c with
  | nil => exact ht
  | cons r rest ih => exact ih ((step_perform hc r).shut ht) (hc.perform r)

theorem Shut.kstat?_run (ht : c.Shut t) (hc : c.WellFormed) (requests : List Request) {k : KStatId}
    {kstat : KStat} (htoken : kstat.token = t) :
    (c.run requests).kstat? k = some kstat ↔ c.kstat? k = some kstat := by
  induction requests generalizing c with
  | nil => rfl
  | cons r rest ih =>
    have hstep := step_perform hc r
    exact (ih (hstep.shut ht) (hc.perform r)).trans (hstep.kstat?_iff ht.closed htoken)

/-! ### The release -/

theorem shut_close (ht : t < c.tokens.length) : (c.close t).client.Shut t := by
  cases hopen : c.isOpen t with
  | false =>
    rw [close_of_closed hopen]
    exact ⟨ht, hopen⟩
  | true =>
    obtain ⟨token, handle, htoken, hhandle⟩ := exists_handle hopen
    rw [close_of_open htoken hhandle]
    refine ⟨by simpa using ht, ?_⟩
    rw [isOpen_eq, List.getElem?_set_self ht]
    rfl

theorem shut_destroy (ht : t < c.tokens.length) : (c.destroy t).client.Shut t := by
  obtain ⟨hknown, hclosed⟩ := shut_close ht
  rw [client_destroy]
  refine ⟨by simpa using hknown, ?_⟩
  rw [isOpen_eq, List.getElem?_modify_eq]
  rw [isOpen_eq] at hclosed
  cases htoken : (c.close t).client.tokens[t]? with
  | none => rfl
  | some token =>
    rw [htoken] at hclosed
    exact hclosed

theorem kstats_close (c : Client) (t : TokenId) : (c.close t).client.kstats = c.kstats := by
  cases hopen : c.isOpen t with
  | false => rw [close_of_closed hopen]
  | true =>
    obtain ⟨token, handle, htoken, hhandle⟩ := exists_handle hopen
    rw [close_of_open htoken hhandle]

theorem shut_release (hc : c.WellFormed) (ht : t < c.tokens.length) {release : Request}
    (hrelease : release = .close t ∨ release = .destroy t) :
    (c.perform release).client.Shut t ∧ (c.perform release).client.kstats = c.kstats := by
  rcases hc.withToken_cases t with ⟨-, hanswered⟩ | ⟨hclosed, hrefused⟩
  · rcases hrelease with rfl | rfl
    · simp only [perform, hanswered]
      exact ⟨shut_close ht, kstats_close c t⟩
    · simp only [perform, hanswered]
      exact ⟨shut_destroy ht, kstats_close c t⟩
  · rcases hrelease with rfl | rfl
    · simp only [perform, hrefused]
      exact ⟨⟨ht, hclosed⟩, rfl⟩
    · simp only [perform, hrefused]
      exact ⟨⟨ht, hclosed⟩, rfl⟩

/-! ### Calls that come too late -/

theorem Shut.cachedCount (ht : c.Shut t) (hc : c.WellFormed) : c.cachedCount t = 0 := by
  have htoken := List.getElem?_eq_getElem ht.known
  have hclosed := ht.closed
  rw [isOpen_eq, htoken] at hclosed
  unfold Client.cachedCount
  rw [htoken, Option.map_some, (hc.tokens t _ htoken).closed (by simpa using hclosed)]
  rfl

theorem Shut.session? (ht : c.Shut t) : c.session? t = none := session?_eq_none_iff.2 ht.closed

theorem Shut.turnedAway_onOpen {α : Type} (ht : c.Shut t) {f : Failure} (hf : f.code = .closedToken)
    (call : Session → Session × Except Failure α) : (c.onOpen t (.error f) call).TurnedAway c := by
  rw [onOpen_of_none ht.session?]
  exact ⟨rfl, rfl, f, rfl, hf⟩

theorem Shut.turnedAway_onKStat {α : Type} (ht : c.Shut t) {k : KStatId} {kstat : KStat}
    (hk : c.kstat? k = some kstat) (htoken : kstat.token = t)
    (call : Session → Session × Except Failure α) : (c.onKStat k call).TurnedAway c := by
  rw [onKStat_of_kstat? hk, htoken]
  exact ht.turnedAway_onOpen rfl call

/-- Nothing that is asked of a shut token or of its objects reaches the kernel or an object. -/
theorem Shut.perform (ht : c.Shut t) (hc : c.WellFormed) {r : Request} (hr : c.addressee r = some t) :
    (c.perform r).client.kernel = c.kernel ∧ (c.perform r).client.kstats = c.kstats := by
  have hstep := step_perform hc r
  rw [hr] at hstep
  exact hstep.unserved ht.session?

end

/-- **Closing is final.** Once a token was closed or let go, every call on it and on its objects is
turned away in every state that comes later, nothing reaches the kernel, and its objects and what is
shown of their statistics stay as they were. -/
theorem closed_for_good {c : Client} (hc : c.Reachable) {t : TokenId} (ht : t < c.tokens.length)
    {release : Request} (hrelease : release = .close t ∨ release = .destroy t)
    (later : List Request) :
    let now := (c.perform release).client.run later
    now.isOpen t = false ∧ now.cachedCount t = 0 ∧
    now.all t = { client := now, result := [] } ∧
    now.close t = { client := now, result := .ok () } ∧
    (∀ q, (now.lookup t q).TurnedAway now) ∧
    (∀ q name, (now.lookupStatistic t q name).TurnedAway now) ∧
    (∀ k kstat, now.kstat? k = some kstat → kstat.token = t →
      (now.refresh k).TurnedAway now ∧ (∀ name, (now.statistic k name).TurnedAway now) ∧
      (now.statistics k).TurnedAway now) ∧
    (∀ r, now.addressee r = some t →
      (now.perform r).client.kernel = now.kernel ∧ (now.perform r).client.kstats = now.kstats) ∧
    (∀ k kstat, kstat.token = t → (now.kstat? k = some kstat ↔ c.kstat? k = some kstat)) ∧
    (∀ statistic kstat, c.owner? statistic = some kstat → kstat.token = t →
      now.document statistic = c.document statistic ∧ now.label statistic = c.label statistic) := by
  intro now
  obtain ⟨hshut, hkstats⟩ := shut_release hc.wellFormed ht hrelease
  have hreleased := hc.wellFormed.perform release
  have hnow : now.Shut t := hshut.run hreleased later
  -- the release leaves every object, and what follows leaves those of a shut token
  have hframe : ∀ k kstat, kstat.token = t → (now.kstat? k = some kstat ↔ c.kstat? k = some kstat) := by
    intro k kstat htoken
    rw [hshut.kstat?_run hreleased later htoken, kstat?, kstat?, hkstats]
  refine ⟨hnow.closed, hnow.cachedCount (hreleased.run later), onOpen_of_none hnow.session? _ _,
    close_of_closed hnow.closed, fun q => hnow.turnedAway_onOpen rfl _,
    fun q name => hnow.turnedAway_onOpen rfl _, fun k kstat hk htoken => ?_,
    fun r hr => hnow.perform (hreleased.run later) hr, hframe, fun statistic kstat howner htoken => ?_⟩
  · exact ⟨hnow.turnedAway_onKStat hk htoken _, fun name => hnow.turnedAway_onKStat hk htoken _,
      hnow.turnedAway_onKStat hk htoken _⟩
  · obtain ⟨k, hparent, hk⟩ := Option.bind_eq_some_iff.1 howner
    have hlater : now.owner? statistic = some kstat := by
      simp only [owner?, hparent, Option.bind_some]
      exact (hframe k kstat htoken).2 hk
    unfold document label
    rw [hlater, howner]
    exact ⟨rfl, rfl⟩

/-- A close that the system reports as failed is final too. -/
theorem closed_for_good_after_failed_close :
    let c := run { kernel := { chain := { Chain.sample with closeErrno := 5 } } }
      [.openToken (some .library), .lookup 0 ⟨[], Query.anyInstance, []⟩]
    let now := (c.perform (.destroy 0)).client.run [.openToken (some .live), .all 1, .refresh 0]
    0 < c.tokens.length ∧ (now.refresh 0).TurnedAway now ∧ now.kstat? 0 = c.kstat? 0 := by
  intro c now
  have hlt : 0 < c.tokens.length := by decide
  obtain ⟨kstat, hk, htoken⟩ : ∃ kstat, c.kstat? 0 = some kstat ∧ kstat.token = 0 :=
    Option.map_eq_some_iff.1 (by decide)
  obtain ⟨-, -, -, -, -, -, hcalls, -, hkept, -⟩ :=
    closed_for_good ⟨_, _, rfl⟩ hlt (.inr rfl) [.openToken (some .live), .all 1, .refresh 0]
  have hnow : now.kstat? 0 = some kstat := (hkept 0 kstat htoken).2 hk
  exact ⟨hlt, (hcalls 0 kstat hnow htoken).1, hnow.trans hk.symm⟩

end Client

end KernelStats
