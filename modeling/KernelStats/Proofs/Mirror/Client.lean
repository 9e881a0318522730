import KernelStats.Proofs.Client.Serving
import KernelStats.Proofs.Mirror.Session
import KernelStats.Proofs.Token.Openings

/-!
# Two clients that cannot be told apart

A client whose one token works on the chain itself, and a client whose one token works through the
system library, give the same replies to the same requests. What they have in common is named by
`Mirrors`, before the open, while the token is open, and after its close, and every request but another
open is shown to keep it.
-/

namespace KernelStats

/-- A request that no chain of plain names tells the two facilities apart by: its names fit, and the
chain is edited from outside only. -/
def Request.Tame : Request → Prop
  | .openToken _ => False
  | .lookup _ q => q.Fits
  | .lookupStatistic _ q name => q.Fits ∧ (0 : UInt8) ∉ name
  | .statistic _ name => (0 : UInt8) ∉ name
  | .edit e => e.Outward
  | _ => True

/-- A token on a live handle and one on a library handle that mirrors it, or two that are closed. -/
structure Token.Mirrors (k k' : Kernel) (token token' : Token) : Prop where
  cache : token'.cache = token.cache
  alive : token'.alive = token.alive
  handle : (token.handle = none ∧ token'.handle = none) ∨
    token.handle = some .live ∧
      ∃ control, token'.handle = some (.library (some control)) ∧ control.Mirrors k k'

namespace Client

/-- Clients before the open of their one token on the same plain chain, or after it. -/
def TokensMirror (c c' : Client) : Prop :=
  (c.tokens = [] ∧ c'.tokens = [] ∧ c'.kernel.chain = c.kernel.chain ∧ c.kernel.chain.Plain) ∨
    ∃ token token', c.tokens = [token] ∧ c'.tokens = [token'] ∧
      token.Mirrors c.kernel c'.kernel token'

/-- A client on the chain itself, and a client on the system library that answers like it. -/
structure Mirrors (c c' : Client) : Prop where
  alike : c.kernel.chain.Alike c'.kernel.chain
  kstats : c'.kstats = c.kstats
  shown : ∀ kstat ∈ c.kstats, c.kernel.chain.identity? kstat.record = some kstat.identity
  tokens : c.TokensMirror c'

/-- Two answers that are the same, from clients that mirror one another afterwards. -/
structure Agree {α : Type} (o o' : Outcome α) : Prop where
  result : o'.result = o.result
  log : o'.log = o.log
  client : o.client.Mirrors o'.client

section

variable {c c' : Client} {t : TokenId}

/-! ### Sessions -/

theorem Mirrors.session? (h : c.Mirrors c') (t : TokenId) :
    (c.session? t = none ∧ c'.session? t = none) ∨
      ∃ s s', c.session? t = some s ∧ c'.session? t = some s' ∧ s.Mirrors s' := by
  rcases h.tokens with ⟨hnone, hnone', -, -⟩ | ⟨token, token', hone, hone', hmirrors⟩
  · left
    simp only [Client.session?, hnone, hnone']
    exact ⟨rfl, rfl⟩
  · match t with
    | t + 1 =>
      left
      simp only [Client.session?, hone, hone']
      exact ⟨rfl, rfl⟩
    | 0 =>
      obtain ⟨handle, cache, alive⟩ := token
      obtain ⟨handle', cache', alive'⟩ := token'
      obtain ⟨hcache, halive, ⟨hclosed, hclosed'⟩ | ⟨hlive, control, hlibrary, hcontrol⟩⟩ := hmirrors
      · left
        simp only at hclosed hclosed'
        simp only [Client.session?, hone, hone', hclosed, hclosed']
        exact ⟨rfl, rfl⟩
      · right
        simp only at hlive hlibrary hcache
        simp only [Client.session?, hone, hone', hlive, hlibrary]
        refine ⟨_, _, rfl, rfl, ?_⟩
        exact ⟨rfl, hcache, h.kstats, rfl, rfl, ⟨control, rfl, hcontrol⟩, h.shown⟩

theorem Mirrors.tokens_of_known (h : c.Mirrors c') {token : Token} (ht : c.tokens[t]? = some token) :
    t = 0 ∧ ∃ token', c.tokens = [token] ∧ c'.tokens = [token'] ∧
      token.Mirrors c.kernel c'.kernel token' := by
  rcases h.tokens with ⟨hnone, -, -, -⟩ | ⟨one, one', hone, hone', hmirrors⟩
  · rw [hnone] at ht
    cases ht
  · rw [hone] at ht
    match t with
    | t + 1 => cases ht
    | 0 =>
      cases ht
      exact ⟨rfl, one', hone, hone', hmirrors⟩

theorem Mirrors.map_token {α : Type} (h : c.Mirrors c') (t : TokenId) (view : Token → α)
    (hview : ∀ token token', Token.Mirrors c.kernel c'.kernel token token' → view token' = view token) :
    c'.tokens[t]?.map view = c.tokens[t]?.map view := by
  rcases h.tokens with ⟨hnone, hnone', -, -⟩ | ⟨token, token', hone, hone', htoken⟩
  · rw [hnone, hnone']
  · rw [hone, hone', ← List.getElem?_map, ← List.getElem?_map, List.map_singleton,
      List.map_singleton, hview token token' htoken]

theorem Mirrors.isOpen (h : c.Mirrors c') (t : TokenId) : c'.isOpen t = c.isOpen t := by
  rcases h.session? t with ⟨hnone, hnone'⟩ | ⟨s, s', hs, hs', -⟩
  · rw [session?_eq_none_iff.1 hnone, session?_eq_none_iff.1 hnone']
  · rw [isOpen_of_session? hs, isOpen_of_session? hs']

theorem Mirrors.cachedCount (h : c.Mirrors c') (t : TokenId) : c'.cachedCount t = c.cachedCount t := by
  have hsize := h.map_token t (fun token => token.cache.size) fun _ _ htoken =>
    congrArg Cache.size htoken.cache
  rw [Client.cachedCount, Client.cachedCount, hsize]

theorem Mirrors.settle (h : c.Mirrors c') {s₀ s s' : Session} (hs : c.session? t = some s₀)
    (hmirrors : s.Mirrors s') : (c.settle t s).Mirrors (c'.settle t s') := by
  obtain ⟨control, hhandle', hcontrol⟩ := hmirrors.control
  obtain ⟨token, handle, ht, -, -⟩ := session?_eq_some_iff.1 hs
  obtain ⟨rfl, token', hone, hone', htoken⟩ := h.tokens_of_known ht
  refine ⟨hcontrol.alike, hmirrors.kstats, hmirrors.shown, .inr ?_⟩
  simp only [Client.settle, hone, hone', List.modify_zero_cons]
  refine ⟨_, _, rfl, rfl, hmirrors.cache, htoken.alive, .inr ⟨?_, control, ?_, hcontrol⟩⟩
  · exact congrArg some hmirrors.live
  · exact congrArg some hhandle'

/-! ### Answers -/

theorem Agree.map {α β : Type} {o o' : Outcome α} (h : Agree o o') (f : α → β) :
    Agree (o.map f) (o'.map f) :=
  ⟨congrArg f h.result, h.log, h.client⟩

theorem Mirrors.same {α : Type} (h : c.Mirrors c') (result : α) :
    Agree { client := c, result } { client := c', result } :=
  ⟨rfl, rfl, h⟩

theorem Mirrors.withToken (h : c.Mirrors c') (t : TokenId) {answer answer' : Outcome Reply}
    (hanswer : Agree answer answer') : Agree (c.withToken t answer) (c'.withToken t answer') := by
  rw [withToken_eq, withToken_eq, h.map_token t Token.alive fun _ _ htoken => htoken.alive]
  by_cases hthere : c.tokens[t]?.map Token.alive = some true
  · rw [if_pos hthere, if_pos hthere]
    exact hanswer
  · rw [if_neg hthere, if_neg hthere]
    exact h.same _

theorem Mirrors.withKStat (h : c.Mirrors c') (k : KStatId) {answer answer' : Outcome Reply}
    (hanswer : Agree answer answer') : Agree (c.withKStat k answer) (c'.withKStat k answer') := by
  unfold Client.withKStat
  rw [h.kstats]
  by_cases hlt : k < c.kstats.length
  · rw [if_pos hlt, if_pos hlt]
    exact hanswer
  · rw [if_neg hlt, if_neg hlt]
    exact h.same _

theorem Mirrors.onOpen {α : Type} (h : c.Mirrors c') (closed : α) {call : Session → Session × α}
    (hcall : ∀ s s', c.session? t = some s → s.Mirrors s' → Session.Agree (call s) (call s')) :
    Agree (c.onOpen t closed call) (c'.onOpen t closed call) := by
  rcases h.session? t with ⟨hnone, hnone'⟩ | ⟨s, s', hs, hs', hmirrors⟩
  · rw [onOpen_of_none hnone, onOpen_of_none hnone']
    exact h.same _
  · obtain ⟨hresult, hsession⟩ := hcall s s' hs hmirrors
    rw [onOpen_of_session? hs, onOpen_of_session? hs']
    exact ⟨hresult, hsession.log, h.settle hs hsession⟩

theorem Mirrors.onKStat {α : Type} (h : c.Mirrors c') (k : KStatId)
    {call : Session → Session × Except Failure α}
    (hcall : ∀ s s' id, s.StandsFor k id → s.Mirrors s' → Session.Agree (call s) (call s')) :
    Agree (c.onKStat k call) (c'.onKStat k call) := by
  have hsame : c'.kstat? k = c.kstat? k := congrArg (·[k]?) h.kstats
  cases hk : c.kstat? k with
  | none =>
    simp only [Client.onKStat, hsame, hk]
    exact h.same _
  | some kstat =>
    rw [onKStat_of_kstat? hk, onKStat_of_kstat? (hsame.trans hk)]
    exact h.onOpen _ fun s s' hs hmirrors => hcall s s' _ (standsFor_of_kstat? hs hk rfl) hmirrors

/-! ### Closes -/

theorem Mirrors.close (h : c.Mirrors c') (t : TokenId) : Agree (c.close t) (c'.close t) := by
  rcases h.session? t with ⟨hnone, hnone'⟩ | ⟨s, s', hs, hs', hmirrors⟩
  · rw [close_of_closed (session?_eq_none_iff.1 hnone), close_of_closed (session?_eq_none_iff.1 hnone')]
    exact h.same _
  obtain ⟨token, handle, htoken, hhandle, rfl⟩ := session?_eq_some_iff.1 hs
  obtain ⟨token', handle', htoken', hhandle', rfl⟩ := session?_eq_some_iff.1 hs'
  obtain ⟨control, hlibrary, hcontrol⟩ := hmirrors.control
  have hintact : handle.Intact := by
    have hlive : handle = .live := hmirrors.live
    rw [hlive]
    exact fun hnone => nomatch hnone
  have hintact' : handle'.Intact := by
    have hlibrary' : handle' = .library (some control) := hlibrary
    rw [hlibrary']
    exact fun hnone => nomatch hnone
  have hcache : token'.cache = token.cache := hmirrors.cache
  rw [outcome_close htoken hhandle hintact, outcome_close htoken' hhandle' hintact',
    h.alike.closeErrno, hcache]
  refine ⟨rfl, rfl, ?_, h.kstats, ?_, ?_⟩
  · simp only [Handle.chain_release hintact, Handle.chain_release hintact']
    exact { h.alike with closes := congrArg (· + 1) h.alike.closes }
  · simp only [Handle.chain_release hintact]
    exact h.shown
  · obtain ⟨rfl, one', hone, hone', hone_mirrors⟩ := h.tokens_of_known htoken
    rw [hone'] at htoken'
    cases htoken'
    rw [hone, hone']
    exact .inr ⟨_, _, rfl, rfl, rfl, hone_mirrors.alive, .inl ⟨rfl, rfl⟩⟩

theorem Mirrors.destroy (h : c.Mirrors c') (t : TokenId) : Agree (c.destroy t) (c'.destroy t) := by
  obtain ⟨hresult, hlog, hclient⟩ := h.close t
  refine ⟨rfl, ?_, ?_⟩
  · simp only [Client.destroy, hresult, hlog]
  · rw [client_destroy, client_destroy]
    refine ⟨hclient.alike, hclient.kstats, hclient.shown, ?_⟩
    rcases hclient.tokens with ⟨hnone, hnone', hchain, hplain⟩ | ⟨token, token', hone, hone', htoken⟩
    · refine .inl ⟨?_, ?_, hchain, hplain⟩
      · rw [hnone, List.modify_nil]
      · rw [hnone', List.modify_nil]
    · right
      cases t with
      | succ t =>
        simp only [hone, hone', List.modify_succ_cons, List.modify_nil]
        exact ⟨token, token', rfl, rfl, htoken⟩
      | zero =>
        simp only [hone, hone', List.modify_zero_cons]
        exact ⟨_, _, rfl, rfl, htoken.cache, rfl, htoken.handle⟩

/-! ### Edits -/

theorem Mirrors.edit (h : c.Mirrors c') {e : Chain.Edit} (he : e.Outward) :
    Agree (c.perform (.edit e)) (c'.perform (.edit e)) := by
  simp only [Client.perform, Client.edit]
  rcases h.alike.edit he with ⟨hnone, hnone'⟩ | ⟨d, d', hd, hd', halike⟩
  · rw [hnone, hnone']
    exact h.same _
  · rw [hd, hd']
    refine ⟨rfl, rfl, halike, h.kstats, fun kstat hkstat => ?_, ?_⟩
    · have hsame := Chain.identity?_edit he hd kstat.record
      exact hsame.trans (h.shown kstat hkstat)
    · rcases h.tokens with ⟨hnone, hnone', hchain, hplain⟩ | ⟨token, token', hone, hone', htoken⟩
      · refine .inl ⟨hnone, hnone', ?_, hplain.edit he hd⟩
        rw [hchain, hd] at hd'
        exact (Option.some.inj hd').symm
      · refine .inr ⟨token, token', hone, hone', htoken.cache, htoken.alive, ?_⟩
        rcases htoken.handle with hclosed | ⟨hlive, control, hlibrary, hcontrol⟩
        · exact .inl hclosed
        · exact .inr ⟨hlive, control, hlibrary, hcontrol.edit he hd halike⟩

/-! ### Requests -/

/-- Clients that mirror one another answer a tame request alike and stay as they are to each other. -/
theorem Mirrors.perform (h : c.Mirrors c') (hc : c.WellFormed) {r : Request} (hr : r.Tame) :
    Agree (c.perform r) (c'.perform r) := by
  cases r with
  | openToken facility => cases hr
  | close t => exact h.withToken t ((h.close t).map _)
  | destroy t => exact h.withToken t ((h.destroy t).map _)
  | isOpen t => exact h.withToken t ⟨congrArg Reply.isOpen (h.isOpen t), rfl, h⟩
  | cachedCount t => exact h.withToken t ⟨congrArg Reply.cachedCount (h.cachedCount t), rfl, h⟩
  | all t =>
    exact h.withToken t ((h.onOpen _ fun s s' _ hmirrors => hmirrors.all).map _)
  | lookup t q =>
    exact h.withToken t ((h.onOpen _ fun s s' _ hmirrors => hmirrors.lookup hr).map _)
  | lookupStatistic t q name =>
    refine h.withToken t ((h.onOpen _ fun s s' hs hmirrors => ?_).map _)
    exact hmirrors.lookupStatistic (hc.sound hs) hr.1 hr.2
  | refresh k =>
    exact h.withKStat k ((h.onKStat k fun s s' id _ hmirrors => hmirrors.refresh k).map _)
  | statistic k name =>
    exact h.withKStat k ((h.onKStat k fun s s' id hk hmirrors => hmirrors.statistic hk hr).map _)
  | statistics k =>
    exact h.withKStat k ((h.onKStat k fun s s' id hk hmirrors => hmirrors.statistics hk).map _)
  | edit e => exact h.edit hr

theorem Mirrors.openToken (h : c.Mirrors c') (hnone : c.tokens = []) :
    (c'.openToken (some .library)).result = (c.openToken (some .live)).result ∧
      (c.openToken (some .live)).client.Mirrors (c'.openToken (some .library)).client := by
  rcases h.tokens with ⟨-, hnone', hchain, hplain⟩ | ⟨token, token', hone, -, -⟩
  · have hshown : ∀ kstat ∈ c.kstats,
        c.kernel.countOpen.chain.identity? kstat.record = some kstat.identity := h.shown
    have hplain' : c.kernel.countOpen.chain.Plain :=
      { hplain with records := hplain.records, lookupErrno := hplain.lookupErrno }
    obtain ⟨hkernel, hkernel', herrno, ⟨hlive, hlibrary⟩ | ⟨control, hgood, hlive, hlibrary, hmirrors⟩⟩ :=
      openHandle_cases hplain hchain
    · simp only [Client.openToken, hlive, hlibrary, herrno, true_and]
      refine ⟨?_, h.kstats, ?_, .inl ⟨hnone, hnone', ?_, ?_⟩⟩
      · simp only [hkernel, hkernel']
        exact .refl _
      · simpa only [hkernel] using hshown
      · simp only [hkernel, hkernel']
      · simpa only [hkernel] using hplain'
    · have hgood' := herrno.trans hgood
      simp only [Client.openToken, hlive, hlibrary, if_pos hgood, if_pos hgood', hnone, hnone', true_and]
      refine ⟨hmirrors.alike, h.kstats, ?_, .inr ⟨_, _, rfl, rfl, rfl, rfl, ?_⟩⟩
      · simpa only [hkernel] using hshown
      · exact .inr ⟨rfl, control, rfl, hmirrors⟩
  · rw [hnone] at hone
    cases hone

end

end Client

end KernelStats
