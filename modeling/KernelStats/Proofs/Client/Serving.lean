import KernelStats.Proofs.Client.Steps

/-!
# Requests to an open token

While a token is open, a request to it or to one of its objects is nothing but a call on its session:
`serve` makes the call and puts the result into a reply. A request that no session serves is refused, or
told that its token is closed. With the two facts, what is to be said of requests is said of sessions.
-/

namespace KernelStats

def Request.object? : Request → Option KStatId
  | .refresh k | .statistic k _ | .statistics k => some k
  | _ => none

namespace Session

/-- Answers a request, unless it is one that a session cannot answer. -/
def serve (s : Session) : Request → Session × Reply
  | .isOpen _ => (s, .isOpen true)
  | .cachedCount _ => (s, .cachedCount s.cache.size)
  | .all _ => (s.all.1, .all s.all.2)
  | .lookup _ q => ((s.lookup q).1, .found (s.lookup q).2)
  | .lookupStatistic _ q name => ((s.lookupStatistic q name).1, .statistic (s.lookupStatistic q name).2)
  | .refresh k => ((s.refresh k).1, .refreshed (s.refresh k).2)
  | .statistic k name => ((s.statistic k name).1, .statistic (s.statistic k name).2)
  | .statistics k => ((s.statistics k).1, .statistics (s.statistics k).2)
  | .openToken _ | .close _ | .destroy _ | .edit _ => (s, .noToken)

theorem moves_serve {s : Session} (hs : s.Sound) {r : Request}
    (hr : ∀ k, r.object? = some k → ∃ id, s.StandsFor k id) : s.Moves (s.serve r).1 := by
  cases r with
  | all t => exact s.moves_all
  | lookup t q => exact moves_lookup hs q
  | lookupStatistic t q name => exact moves_lookupStatistic hs q name
  | refresh k =>
    obtain ⟨id, hk⟩ := hr k rfl
    exact .single (.refresh hk)
  | statistic k name =>
    obtain ⟨id, hk⟩ := hr k rfl
    exact moves_statistic hk name
  | statistics k =>
    obtain ⟨id, hk⟩ := hr k rfl
    exact moves_statistics hk
  | _ => exact .refl

end Session

namespace Client

section

variable {c : Client} {t : TokenId} {s : Session}

/-! ### Tokens that are there, and tokens that are not -/

theorem isOpen_eq (c : Client) (t : TokenId) :
    c.isOpen t = (c.tokens[t]?.bind Token.handle).isSome := rfl

theorem WellFormed.isOpen_of_dead (hc : c.WellFormed) {token : Token} (htoken : c.tokens[t]? = some token)
    (hdead : token.alive = false) : c.isOpen t = false := by
  rw [isOpen_eq, htoken]
  cases hhandle : token.handle with
  | none => simp [hhandle]
  | some handle =>
    have halive := (hc.tokens t token htoken).alive handle hhandle
    rw [hdead] at halive
    cases halive

theorem withToken_eq (c : Client) (t : TokenId) (answer : Outcome Reply) :
    c.withToken t answer =
      if c.tokens[t]?.map Token.alive = some true then answer else c.refuse .noToken := by
  unfold withToken
  cases c.tokens[t]? with
  | none => rfl
  | some token =>
    obtain ⟨handle, cache, alive⟩ := token
    cases alive <;> rfl

/-- A request to a token is answered while the token is there, and refused afterwards. -/
theorem WellFormed.withToken_cases (hc : c.WellFormed) (t : TokenId) :
    (t < c.tokens.length ∧ ∀ answer, c.withToken t answer = answer) ∨
      (c.isOpen t = false ∧ ∀ answer, c.withToken t answer = c.refuse .noToken) := by
  simp only [withToken_eq]
  cases htoken : c.tokens[t]? with
  | none => exact .inr ⟨by rw [isOpen_eq, htoken]; rfl, fun answer => rfl⟩
  | some token =>
    cases halive : token.alive with
    | false => exact .inr ⟨hc.isOpen_of_dead htoken halive, fun answer => by simp [halive]⟩
    | true =>
      exact .inl ⟨(List.getElem?_eq_some_iff.1 htoken).1, fun answer => by simp [halive]⟩

/-! ### Requests that nobody serves -/

/-- What is answered to a request that no session serves. There is nothing to list or to close, and calls fail
because their token is closed. -/
inductive Unserved : Request → Reply → Prop where
  | noToken (r : Request) : Unserved r .noToken
  | noKStat (r : Request) : Unserved r .noKStat
  | closed (t : TokenId) : Unserved (.close t) (.closed (.ok ()))
  | destroyed (t : TokenId) : Unserved (.destroy t) .destroyed
  | isOpen (t : TokenId) (isOpen : Bool) : Unserved (.isOpen t) (.isOpen isOpen)
  | cachedCount (t : TokenId) (count : Nat) : Unserved (.cachedCount t) (.cachedCount count)
  | all (t : TokenId) : Unserved (.all t) (.all [])
  | lookup (t : TokenId) (q : Query) : Unserved (.lookup t q) (.found (.error .closedToken))
  | lookupStatistic (t : TokenId) (q : Query) (name : Bytes) :
    Unserved (.lookupStatistic t q name) (.statistic (.error .closedToken))
  | refresh (k : KStatId) : Unserved (.refresh k) (.refreshed (.error .closedKStat))
  | statistic (k : KStatId) (name : Bytes) : Unserved (.statistic k name) (.statistic (.error .closedKStat))
  | statistics (k : KStatId) : Unserved (.statistics k) (.statistics (.error .closedKStat))
  | edited (e : Chain.Edit) : Unserved (.edit e) .edited
  | noRecord (e : Chain.Edit) : Unserved (.edit e) .noRecord

theorem unserved_perform {r : Request} (hr : ∀ t, c.addressee r = some t → c.session? t = none)
    (hopen : ∀ facility, r ≠ .openToken facility) :
    Unserved r (c.perform r).result ∧ (c.perform r).log = [] := by
  have htoken : ∀ (t : TokenId) (answer : Outcome Reply), Unserved r answer.result → answer.log = [] →
      Unserved r (c.withToken t answer).result ∧ (c.withToken t answer).log = [] :=
    fun _ _ hreply hlog =>
      withToken_ind (fun o => Unserved r o.result ∧ o.log = []) ⟨hreply, hlog⟩ ⟨.noToken r, rfl⟩
  have hkstat : ∀ (k : KStatId) (answer : Outcome Reply), Unserved r answer.result → answer.log = [] →
      Unserved r (c.withKStat k answer).result ∧ (c.withKStat k answer).log = [] :=
    fun _ _ hreply hlog =>
      withKStat_ind (fun o => Unserved r o.result ∧ o.log = []) ⟨hreply, hlog⟩ ⟨.noKStat r, rfl⟩
  cases r with
  | openToken facility => exact absurd rfl (hopen facility)
  | close t =>
    rw [perform, close_of_closed (session?_eq_none_iff.1 (hr t rfl))]
    exact htoken t _ (.closed t) rfl
  | destroy t =>
    rw [perform, destroy, close_of_closed (session?_eq_none_iff.1 (hr t rfl))]
    exact htoken t _ (.destroyed t) rfl
  | isOpen t => exact htoken t _ (.isOpen t _) rfl
  | cachedCount t => exact htoken t _ (.cachedCount t _) rfl
  | all t =>
    rw [perform, Client.all, onOpen_of_none (hr t rfl)]
    exact htoken t _ (.all t) rfl
  | lookup t q =>
    rw [perform, Client.lookup, onOpen_of_none (hr t rfl)]
    exact htoken t _ (.lookup t q) rfl
  | lookupStatistic t q name =>
    rw [perform, Client.lookupStatistic, onOpen_of_none (hr t rfl)]
    exact htoken t _ (.lookupStatistic t q name) rfl
  | refresh k =>
    rw [perform, Client.refresh, onKStat_of_none hr]
    exact hkstat k _ (.refresh k) rfl
  | statistic k name =>
    rw [perform, Client.statistic, onKStat_of_none hr]
    exact hkstat k _ (.statistic k name) rfl
  | statistics k =>
    rw [perform, Client.statistics, onKStat_of_none hr]
    exact hkstat k _ (.statistics k) rfl
  | edit e =>
    unfold perform
    simp only
    split
    · exact ⟨.edited e, rfl⟩
    · exact ⟨.noRecord e, rfl⟩

theorem Step.unserved {c' : Client} (hstep : c.Step (some t) c') (hs : c.session? t = none) :
    c'.kernel = c.kernel ∧ c'.kstats = c.kstats := by
  cases hstep with
  | same => exact ⟨rfl, rfl⟩
  | closed htoken hhandle =>
    rw [session?_eq_some_iff.2 ⟨_, _, htoken, hhandle, rfl⟩] at hs
    cases hs
  | buried => exact ⟨rfl, rfl⟩
  | called hs' =>
    rw [hs] at hs'
    cases hs'

/-! ### Serving -/

theorem settle_self (hs : c.session? t = some s) : c.settle t s = c := by
  obtain ⟨⟨_, cache, alive⟩, handle, htoken, rfl, rfl⟩ := session?_eq_some_iff.1 hs
  obtain ⟨hlt, hget⟩ := List.getElem?_eq_some_iff.1 htoken
  have htokens : c.tokens.modify t (fun token => { token with handle := some handle, cache }) = c.tokens := by
    rw [List.modify_eq_set_getElem?, htoken]
    exact (congrArg (c.tokens.set t) hget.symm).trans (List.set_getElem_self hlt)
  unfold settle
  rw [htokens]

theorem cachedCount_of_session? (hs : c.session? t = some s) : c.cachedCount t = s.cache.size := by
  obtain ⟨token, handle, htoken, -, rfl⟩ := session?_eq_some_iff.1 hs
  unfold cachedCount
  rw [htoken]
  rfl

theorem withToken_of_session? (hc : c.WellFormed) (hs : c.session? t = some s)
    (answer : Outcome Reply) : c.withToken t answer = answer := by
  obtain ⟨token, handle, htoken, hhandle, -⟩ := session?_eq_some_iff.1 hs
  have halive := (hc.tokens t token htoken).alive handle hhandle
  rw [withToken_eq, htoken, Option.map_some, halive, if_pos rfl]

theorem withKStat_of_kstat? {k : KStatId} {kstat : KStat} (hk : c.kstat? k = some kstat)
    (answer : Outcome Reply) : c.withKStat k answer = answer :=
  if_pos (List.getElem?_eq_some_iff.1 hk).1

theorem standsFor_of_addressee (hs : c.session? t = some s) {r : Request} (hr : c.addressee r = some t)
    {k : KStatId} (hk : r.object? = some k) : ∃ id, s.StandsFor k id := by
  have hown : (c.kstat? k).map KStat.token = some t := by
    cases r with
    | refresh _ => cases hk; exact hr
    | statistic _ _ => cases hk; exact hr
    | statistics _ => cases hk; exact hr
    | _ => cases hk
  obtain ⟨kstat, hkstat, htoken⟩ := Option.map_eq_some_iff.1 hown
  exact ⟨kstat.record, standsFor_of_kstat? hs hkstat htoken⟩

/-- The client and the reply after a request that the session of its token has served. -/
def served (c : Client) (t : TokenId) (s : Session) (r : Request) : Outcome Reply :=
  { client := c.settle t (s.serve r).1, result := (s.serve r).2, log := (s.serve r).1.log }

/-- A request to an open token, but for its closing, is served by the token's session. -/
theorem perform_of_session? (hc : c.WellFormed) (hs : c.session? t = some s) {r : Request}
    (hr : c.addressee r = some t) (hclose : r ≠ .close t) (hdestroy : r ≠ .destroy t) :
    c.perform r = c.served t s r := by
  have hanswered := withToken_of_session? hc hs
  have hlog : s.log = [] := by
    obtain ⟨token, handle, -, -, rfl⟩ := session?_eq_some_iff.1 hs
    rfl
  have hasked : ∀ k, (c.kstat? k).map KStat.token = some t → ∃ kstat, c.kstat? k = some kstat ∧
      kstat.token = t := fun k hk => Option.map_eq_some_iff.1 hk
  cases r with
  | openToken facility => cases hr
  | edit e => cases hr
  | close u => cases hr; exact absurd rfl hclose
  | destroy u => cases hr; exact absurd rfl hdestroy
  | isOpen u =>
    cases hr
    simp only [perform, hanswered, served, Session.serve, settle_self hs, isOpen_of_session? hs, hlog]
  | cachedCount u =>
    cases hr
    simp only [perform, hanswered, served, Session.serve, settle_self hs, cachedCount_of_session? hs,
      hlog]
  | all u =>
    cases hr
    simp only [perform, hanswered, all, onOpen_of_session? hs]
    rfl
  | lookup u q =>
    cases hr
    simp only [perform, hanswered, lookup, onOpen_of_session? hs]
    rfl
  | lookupStatistic u q name =>
    cases hr
    simp only [perform, hanswered, lookupStatistic, onOpen_of_session? hs]
    rfl
  | refresh k =>
    obtain ⟨kstat, hk, rfl⟩ := hasked k hr
    simp only [perform, withKStat_of_kstat? hk, refresh, onKStat_of_kstat? hk, onOpen_of_session? hs]
    rfl
  | statistic k name =>
    obtain ⟨kstat, hk, rfl⟩ := hasked k hr
    simp only [perform, withKStat_of_kstat? hk, statistic, onKStat_of_kstat? hk, onOpen_of_session? hs]
    rfl
  | statistics k =>
    obtain ⟨kstat, hk, rfl⟩ := hasked k hr
    simp only [perform, withKStat_of_kstat? hk, statistics, onKStat_of_kstat? hk, onOpen_of_session? hs]
    rfl

theorem perform_of_object? (hc : c.WellFormed) (hs : c.session? t = some s) {r : Request}
    (hr : c.addressee r = some t) {k : KStatId} (hk : r.object? = some k) : c.perform r = c.served t s r := by
  refine perform_of_session? hc hs hr ?_ ?_
  · rintro rfl
    cases hk
  · rintro rfl
    cases hk

/-! ### Releases -/

/-- The close of an open token is answered as the chain is told to, and the log has how many objects were dropped
and with which error. -/
theorem close_of_session? (hc : c.WellFormed) (hs : c.session? t = some s) :
    (c.close t).result = (if c.kernel.chain.closeErrno = 0 then .ok ()
      else .error (.closeFailed c.kernel.chain.closeErrno)) ∧
    (c.close t).log = .tokenClosed (c.cachedCount t) ::
      if c.kernel.chain.closeErrno = 0 then [] else [.closeFailed c.kernel.chain.closeErrno] := by
  obtain ⟨token, handle, htoken, hhandle, -⟩ := session?_eq_some_iff.1 hs
  have hcount : c.cachedCount t = token.cache.size := by
    rw [cachedCount, htoken]
    rfl
  rw [outcome_close htoken hhandle ((hc.tokens t token htoken).intact handle hhandle), hcount]
  exact ⟨rfl, rfl⟩

theorem log_destroy_of_session? (hc : c.WellFormed) (hs : c.session? t = some s) :
    (c.destroy t).log = (c.close t).log ++
      if c.kernel.chain.closeErrno = 0 then [] else [.abandoned (.closeFailed c.kernel.chain.closeErrno)] := by
  obtain ⟨hresult, -⟩ := close_of_session? hc hs
  simp only [destroy, hresult]
  by_cases hgood : c.kernel.chain.closeErrno = 0
  · simp only [if_pos hgood]
  · simp only [if_neg hgood]

end

end Client

end KernelStats
