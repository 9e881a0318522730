import KernelStats.Proofs.Session.Answers
import KernelStats.Proofs.Token.OneObject

/-!
# What is handed out

Objects and statistics leave a client in replies only. Every object in a reply is on the client's list
from then on, under the token that the request was for, and every statistic in a reply has such an object
for its parent.
-/

namespace KernelStats

def Request.token? : Request → Option TokenId
  | .close t | .destroy t | .isOpen t | .cachedCount t | .all t => some t
  | .lookup t _ | .lookupStatistic t _ _ => some t
  | .openToken _ | .refresh _ | .statistic _ _ | .statistics _ | .edit _ => none

namespace Reply

/-- Every statistic in a reply has a parent. -/
def Parented (reply : Reply) : Prop := ∀ one ∈ reply.values, ∃ k, one.parent = some k

namespace Parented

theorem of_values_eq_nil {reply : Reply} (h : reply.values = []) : reply.Parented := by
  simp [Parented, h]

theorem statistic {result : Except Failure Statistic}
    (h : ∀ one, result = .ok one → ∃ k, one.parent = some k) : (Reply.statistic result).Parented := by
  intro one hone
  cases result with
  | error f => cases hone
  | ok only => exact h one (congrArg Except.ok (List.mem_singleton.1 hone).symm)

theorem statistics {result : Except Failure (List Statistic)}
    (h : ∀ many, result = .ok many → ∀ one ∈ many, ∃ k, one.parent = some k) :
    (Reply.statistics result).Parented := by
  intro one hone
  cases result with
  | error f => cases hone
  | ok many => exact h many rfl one hone

end Parented

theorem parent_mem_objects {reply : Reply} {one : Statistic} (hone : one ∈ reply.values) {k : KStatId}
    (hparent : one.parent = some k) : k ∈ reply.objects := by
  cases reply with
  | statistic result =>
    cases result with
    | error f => cases hone
    | ok only =>
      rw [List.mem_singleton.1 hone] at hparent
      simp [objects, hparent]
  | statistics result =>
    cases result with
    | error f => cases hone
    | ok many => exact List.mem_filterMap.2 ⟨one, hone, hparent⟩
  | _ => cases hone

end Reply

theorem Session.parent_lookupStatistic {s : Session} {q : Query} {name : Bytes} {one : Statistic}
    (hok : (s.lookupStatistic q name).2 = .ok one) : ∃ k, one.parent = some k := by
  cases h : (s.lookup q).2 with
  | error f =>
    rw [lookupStatistic_of_error h] at hok
    cases hok
  | ok k =>
    rw [lookupStatistic_of_ok h] at hok
    exact ⟨k, parent_statistic hok⟩

namespace Client

/-- The objects that a request hands out, each with the request. -/
def handed (c : Client) (r : Request) : List (Request × KStatId) :=
  (c.perform r).result.objects.map fun k => (r, k)

def handedStatistics (c : Client) (r : Request) : List Statistic := (c.perform r).result.values

section

variable {c : Client} {t : TokenId} {r : Request} {k : KStatId}

/-! ### Objects -/

theorem addressee_eq (c : Client) (r : Request) :
    c.addressee r = r.token?.or ((r.object?.bind c.kstat?).map KStat.token) := by
  cases r <;> rfl

theorem addressee_of_token? (hr : r.token? = some t) : c.addressee r = some t := by
  rw [addressee_eq, hr, Option.some_or]

theorem token?_of_object? (hr : r.object? = some k) : r.token? = none := by
  cases r with
  | refresh k => rfl
  | statistic k name => rfl
  | statistics k => rfl
  | _ => cases hr

theorem addressee_of_object? (hr : r.object? = some k) :
    c.addressee r = (c.kstat? k).map KStat.token := by
  rw [addressee_eq, token?_of_object? hr, hr, Option.none_or, Option.bind_some]

theorem objects_of_unaddressed (hr : c.addressee r = none) : (c.perform r).result.objects = [] := by
  cases r with
  | openToken facility => rfl
  | edit e =>
    simp only [perform]
    split <;> rfl
  | refresh k => exact withKStat_ind (fun o => o.result.objects = []) rfl rfl
  | statistic k name =>
    have hk : c.kstat? k = none := Option.map_eq_none_iff.1 hr
    exact withKStat_ind (fun o => o.result.objects = []) (by rw [statistic, onKStat, hk]; rfl) rfl
  | statistics k =>
    have hk : c.kstat? k = none := Option.map_eq_none_iff.1 hr
    exact withKStat_ind (fun o => o.result.objects = []) (by rw [statistics, onKStat, hk]; rfl) rfl
  | _ => cases hr

/-- Only requests for a token hand anything out, and what they hand out is the token's. -/
theorem token_of_handed (hc : c.WellFormed) (hk : k ∈ (c.perform r).result.objects) :
    ∃ kstat, (c.perform r).client.kstat? k = some kstat ∧ c.addressee r = some kstat.token := by
  cases hr : c.addressee r with
  | none =>
    rw [objects_of_unaddressed hr] at hk
    cases hk
  | some t =>
    rw [← map_snd_sightings_perform hc hr] at hk
    obtain ⟨⟨id, k⟩, hseen, rfl⟩ := List.mem_map.1 hk
    have horigin := origin_of_sighting hc hseen
    rw [List.getElem?_map] at horigin
    obtain ⟨kstat, hkstat, heq⟩ := Option.map_eq_some_iff.1 horigin
    exact ⟨kstat, hkstat, congrArg some (congrArg Prod.fst heq).symm⟩

/-- What was handed out is on the list of objects: what a token handed out as its own, and what was asked
of an object under the same token as the object. -/
def Accounts (c : Client) (history : List (Request × KStatId)) : Prop :=
  ∀ r k, (r, k) ∈ history → ∃ kstat, c.kstat? k = some kstat ∧
    (∀ t, r.token? = some t → kstat.token = t) ∧
    ∀ source, r.object? = some source → ∃ other, c.kstat? source = some other ∧ other.token = kstat.token

theorem Accounts.perform {history : List (Request × KStatId)} (h : c.Accounts history) (hc : c.WellFormed)
    (r : Request) : (c.perform r).client.Accounts (history ++ c.handed r) := by
  have hstep := step_perform hc r
  intro r' k hmem
  rcases List.mem_append.1 hmem with hearlier | hnow
  · obtain ⟨kstat, hk, htoken, hsource⟩ := h r' k hearlier
    obtain ⟨later, hlater, hbecomes⟩ := hstep.becomes hk
    refine ⟨later, hlater, fun t ht => hbecomes.token.trans (htoken t ht), fun source hr => ?_⟩
    obtain ⟨other, hother, hsame⟩ := hsource source hr
    obtain ⟨other', hother', hbecomes'⟩ := hstep.becomes hother
    exact ⟨other', hother', hbecomes'.token.trans (hsame.trans hbecomes.token.symm)⟩
  · obtain ⟨object, hobject, heq⟩ := List.mem_map.1 hnow
    cases heq
    obtain ⟨kstat, hk, hr⟩ := token_of_handed hc hobject
    refine ⟨kstat, hk, fun t ht => ?_, fun source hsource => ?_⟩
    · rw [addressee_of_token? ht] at hr
      exact (Option.some.inj hr).symm
    · -- the request was answered, so the object that it is for is there
      rw [addressee_of_object? hsource] at hr
      obtain ⟨other, hother, hsame⟩ := Option.map_eq_some_iff.1 hr
      obtain ⟨other', hother', hbecomes⟩ := hstep.becomes hother
      exact ⟨other', hother', hbecomes.token.trans hsame⟩

theorem accounts_run (kernel : Kernel) (requests : List Request) :
    (run { kernel } requests).Accounts (gather handed { kernel } requests) := by
  have hstart : Accounts { kernel } [] := fun _ _ hnone => nomatch hnone
  exact gather_induction Accounts (fun _ _ r hc h => h.perform hc r) (.start kernel) hstart requests

/-! ### Statistics -/

theorem result_onOpen {α : Type} (c : Client) (t : TokenId) (closed : α) (call : Session → Session × α) :
    (c.onOpen t closed call).result = closed ∨ ∃ s, (c.onOpen t closed call).result = (call s).2 := by
  cases hs : c.session? t with
  | none => exact .inl (by rw [onOpen_of_none hs])
  | some s => exact .inr ⟨s, by rw [onOpen_of_session? hs]⟩

theorem result_onKStat {α : Type} (c : Client) (k : KStatId)
    (call : Session → Session × Except Failure α) :
    (∃ f, (c.onKStat k call).result = .error f) ∨ ∃ s, (c.onKStat k call).result = (call s).2 := by
  unfold onKStat
  split
  · next kstat _ =>
    exact (c.result_onOpen kstat.token (.error .closedKStat) call).imp_left fun hclosed => ⟨_, hclosed⟩
  · exact .inl ⟨_, rfl⟩

theorem parented_perform (c : Client) (r : Request) : (c.perform r).result.Parented := by
  cases r with
  | lookupStatistic t q name =>
    refine withToken_ind (fun o => o.result.Parented) (.statistic fun one hok => ?_) (.of_values_eq_nil rfl)
    rcases c.result_onOpen t (.error .closedToken) (·.lookupStatistic q name) with hclosed | ⟨s, hserved⟩
    · cases hclosed.symm.trans hok
    · exact Session.parent_lookupStatistic (hserved.symm.trans hok)
  | statistic k name =>
    refine withKStat_ind (fun o => o.result.Parented) (.statistic fun one hok => ⟨k, ?_⟩)
      (.of_values_eq_nil rfl)
    rcases c.result_onKStat k (·.statistic k name) with ⟨f, hclosed⟩ | ⟨s, hserved⟩
    · cases hclosed.symm.trans hok
    · exact Session.parent_statistic (hserved.symm.trans hok)
  | statistics k =>
    refine withKStat_ind (fun o => o.result.Parented) (.statistics fun many hok one hone => ⟨k, ?_⟩)
      (.of_values_eq_nil rfl)
    rcases c.result_onKStat k (·.statistics k) with ⟨f, hclosed⟩ | ⟨s, hserved⟩
    · cases hclosed.symm.trans hok
    · exact Session.parent_statistics (hserved.symm.trans hok) hone
  | refresh k =>
    exact withKStat_ind (fun o => o.result.Parented) (.of_values_eq_nil rfl) (.of_values_eq_nil rfl)
  | openToken facility => exact .of_values_eq_nil rfl
  | edit e =>
    simp only [perform]
    split <;> exact .of_values_eq_nil rfl
  | _ => exact withToken_ind (fun o => o.result.Parented) (.of_values_eq_nil rfl) (.of_values_eq_nil rfl)

theorem parent_of_gather (kernel : Kernel) (requests : List Request) {one : Statistic}
    (hone : one ∈ gather handedStatistics { kernel } requests) :
    ∃ k kstat, one.parent = some k ∧ (run { kernel } requests).kstat? k = some kstat := by
  have hstart : ∀ one ∈ ([] : List Statistic), ∃ k kstat, one.parent = some k ∧
      ({ kernel } : Client).kstat? k = some kstat := fun _ hnone => nomatch hnone
  refine gather_induction (fun c past => ∀ one ∈ past, ∃ k kstat, one.parent = some k ∧
    c.kstat? k = some kstat) ?_ (.start kernel) hstart requests one hone
  intro c past r hc hpast one hone
  rcases List.mem_append.1 hone with hearlier | hnow
  · obtain ⟨k, kstat, hparent, hk⟩ := hpast one hearlier
    obtain ⟨later, hlater, -⟩ := (step_perform hc r).becomes hk
    exact ⟨k, later, hparent, hlater⟩
  · obtain ⟨k, hparent⟩ := c.parented_perform r one hnow
    obtain ⟨kstat, hk, -⟩ := token_of_handed hc (Reply.parent_mem_objects hnow hparent)
    exact ⟨k, kstat, hparent, hk⟩

/-! ### What is shown of them -/

theorem owner?_of_parent {one : Statistic} {kstat : KStat} (hparent : one.parent = some k)
    (hk : c.kstat? k = some kstat) : c.owner? one = some kstat := by
  rw [owner?, hparent, Option.bind_some, hk]

theorem document_of_parent {one : Statistic} {kstat : KStat} (hparent : one.parent = some k)
    (hk : c.kstat? k = some kstat) : c.document one = one.document (some kstat) := by
  rw [document, owner?_of_parent hparent hk]

theorem document_snaptime {one : Statistic} {kstat : KStat} (hparent : one.parent = some k)
    (hk : c.kstat? k = some kstat) : (c.document one).lookup "snaptime" = some (.int kstat.snaptime) := by
  rw [document_of_parent hparent hk]
  rfl

end

end Client

end KernelStats
