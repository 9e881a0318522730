import KernelStats.Proofs.Session.Failures
import KernelStats.Proofs.Token.Selection
import KernelStats.Proofs.Token.Separation
import KernelStats.Proofs.Token.Statistics

/-!
# Failures

A call that fails hands out nothing, and a caller can go on as if it had not been made. If the token is
closed or the kstat is not a named one, the call has done nothing at all; if a kstat is not found or cannot
be read, the chain has counted that, and everything else is as before: data, headers and clock, handles and
caches, and all fields of all objects. The one thing that stays is the object of a kstat that a lookup has
met for the first time.
-/

namespace KernelStats

theorem Status.isOk_of_iff {α : Type} {P : α → Prop} {result : Except Failure α}
    (hresult : ∀ a, result = .ok a → P a) :
    (Status.of result).isOk = true ↔ ∃ a, result = .ok a ∧ P a := by
  rw [Status.isOk_of]
  cases result with
  | error f => exact iff_of_false nofun (fun ⟨_, hok, _⟩ => nomatch hok)
  | ok a => exact iff_of_true rfl ⟨a, rfl, hresult a rfl⟩

namespace Client

/-- All is as it was, but for the counters of lookups and of the reads of one kstat. -/
structure Spares (before after : Client) (lookups : Nat) (id : RecordId) (reads : Nat) : Prop where
  chain : after.kernel.chain = before.kernel.chain.counting lookups id reads
  tokens : after.tokens = before.tokens
  kstats : after.kstats = before.kstats

/-- A lookup has met a kstat and could not read it: the kstat has an object from now on, and all else is as it
was, but for the counters. -/
structure Meets (before after : Client) (t : TokenId) (id : RecordId) (kstat : KStat) : Prop where
  chain : after.kernel.chain = before.kernel.chain.counting 1 id 1
  kstats : after.kstats = before.kstats ++ [kstat]
  tokens : after.tokens.map (fun token => (token.handle, token.alive)) =
    before.tokens.map fun token => (token.handle, token.alive)
  cached : after.object? t id = some before.kstats.length
  others : ∀ u other, (u, other) ≠ (t, id) → after.object? u other = before.object? u other

/-- What a call on an object leaves if it fails without an answer: nothing, or the count of a read. -/
def Withdraws {α : Type} (c : Client) (k : KStatId) (outcome : Outcome (Except Failure α)) : Prop :=
  ∀ f, outcome.result = .error f → f.Answerless →
    outcome.client = c ∨
      f.code = .readFailure ∧ ∃ kstat, c.kstat? k = some kstat ∧ c.Spares outcome.client 0 kstat.record 1

/-- What a lookup leaves if it fails: nothing if the token is closed, the count of a lookup if there is no such
kstat, and otherwise the count of a read, and an object for the kstat. -/
def LookupWithdraws (c : Client) (t : TokenId) (q : Query) : Prop :=
  ∀ f, (c.lookup t q).result = .error f →
    f.code = .closedToken ∧ (c.lookup t q).client = c ∨
    f.code = .lookupFailure ∧ (∀ id, c.Spares (c.lookup t q).client 1 id 0) ∨
    f.code = .readFailure ∧ ∃ handle id, c.handle? t = some handle ∧
      (handle.lookup c.kernel q).2 = .ok id ∧
      match c.object? t id with
      | some _ => c.Spares (c.lookup t q).client 1 id 1
      | none =>
        c.Meets (c.lookup t q).client t id (KStat.ofHeader t id (handle.header c.kernel id))

section

variable {c : Client} {t : TokenId} {s s' : Session} {k : KStatId} {id : RecordId} {lookups reads : Nat}

theorem spares_settle (hs : c.session? t = some s) (h : s.Spares s' lookups id reads) :
    c.Spares (c.settle t s') lookups id reads where
  chain := by
    rw [← kernel_of_session? hs]
    exact h.chain
  tokens := by
    have hself := congrArg Client.tokens (settle_self hs)
    simp only [settle, h.handle, h.cache]
    exact hself
  kstats := h.kstats.trans (kstats_of_session? hs)

theorem withdraws_onKStat {α : Type} {call : Session → Session × Except Failure α}
    (hcall : ∀ s kstat, c.session? kstat.token = some s → c.kstat? k = some kstat →
      s.Withdraws kstat.record (call s)) : c.Withdraws k (c.onKStat k call) := by
  intro f hf hanswerless
  cases hk : c.kstat? k with
  | none =>
    left
    unfold onKStat
    rw [hk]
  | some kstat =>
    rw [onKStat_of_kstat? hk] at hf ⊢
    cases hs : c.session? kstat.token with
    | none =>
      left
      rw [onOpen_of_none hs]
    | some s =>
      rw [onOpen_of_session? hs] at hf ⊢
      rcases hcall s kstat hs hk f hf hanswerless with ⟨events, hsame⟩ | ⟨hcode, hspares⟩
      · left
        rw [hsame]
        show c.settle kstat.token s = c
        exact settle_self hs
      · exact .inr ⟨hcode, kstat, rfl, spares_settle hs hspares⟩

theorem object?_of_session? (hs : c.session? t = some s) (id : RecordId) :
    c.object? t id = s.cache.find? id := by
  obtain ⟨token, handle, htoken, -, rfl⟩ := session?_eq_some_iff.1 hs
  rw [object?, htoken]
  rfl

theorem handle?_of_session? (hs : c.session? t = some s) : c.handle? t = some s.handle := by
  obtain ⟨token, handle, htoken, hhandle, rfl⟩ := session?_eq_some_iff.1 hs
  rw [handle?, htoken]
  exact hhandle

theorem object?_settle (hs : c.session? t = some s) (s' : Session) (u : TokenId) (other : RecordId) :
    (c.settle t s').object? u other = if u = t then s'.cache.find? other else c.object? u other := by
  by_cases hut : u = t
  · subst hut
    rw [if_pos rfl]
    exact cached_of_settle hs s' other
  · rw [if_neg hut, object?, settle, List.getElem?_modify_ne _ _ (Ne.symm hut), object?]

theorem meets_settle (hs : c.session? t = some s) (hfind : s.cache.find? id = none) (h : s.Meets s' id) :
    c.Meets (c.settle t s') t id (KStat.ofHeader t id (s.handle.header c.kernel id)) where
  chain := by
    rw [← kernel_of_session? hs]
    exact h.chain
  kstats := by
    rw [← kernel_of_session? hs, ← kstats_of_session? hs, ← token_of_session? hs]
    exact h.kstats
  tokens := by
    obtain ⟨token, handle, htoken, hhandle, rfl⟩ := session?_eq_some_iff.1 hs
    apply List.ext_getElem?
    intro u
    rw [List.getElem?_map, List.getElem?_map, settle]
    by_cases hut : t = u
    · subst hut
      rw [List.getElem?_modify_eq, htoken, h.handle]
      simp [hhandle]
    · rw [List.getElem?_modify_ne _ _ hut]
  cached := by
    have hnew : (s.cache.insert id s.kstats.length).2 = s.kstats.length := by simp [Cache.insert, hfind]
    rw [object?_settle hs, if_pos rfl, h.cache, Cache.find?_insert_self, hnew, kstats_of_session? hs]
  others u other hne := by
    rw [object?_settle hs]
    by_cases hut : u = t
    · subst hut
      have hother : other ≠ id := fun heq => hne (by rw [heq])
      rw [if_pos rfl, h.cache, Cache.find?_insert_of_ne hother, object?_of_session? hs]
    · rw [if_neg hut]

/-! ### The calls -/

theorem withdraws_lookup (hc : c.WellFormed) (t : TokenId) (q : Query) : c.LookupWithdraws t q := by
  intro f hf
  cases hs : c.session? t with
  | none =>
    rw [lookup, onOpen_of_none hs] at hf ⊢
    cases hf
    exact .inl ⟨rfl, rfl⟩
  | some s =>
    rw [lookup, onOpen_of_session? hs] at hf ⊢
    right
    cases hfound : (s.handle.lookup s.kernel q).2 with
    | error e =>
      rw [Session.lookup_of_error hfound] at hf ⊢
      cases hf
      exact .inl ⟨rfl, fun id => spares_settle hs (Session.spares_searched s q id)⟩
    | ok id =>
      obtain ⟨hcode, hleft⟩ := Session.lookup_of_unread (hc.sound hs) hfound hf
      rw [kernel_of_session? hs] at hfound
      refine .inr ⟨hcode, s.handle, id, handle?_of_session? hs, hfound, ?_⟩
      rw [object?_of_session? hs]
      cases hfind : s.cache.find? id with
      | some k =>
        rw [hfind] at hleft
        exact spares_settle hs hleft
      | none =>
        rw [hfind] at hleft
        exact meets_settle hs hfind hleft

theorem isOpen_openToken {facility : Option Facility} (hok : (c.openToken facility).result = .ok t) :
    (c.openToken facility).client.isOpen t = true := by
  unfold openToken at hok ⊢
  cases facility with
  | none => cases hok
  | some f =>
    simp only at hok ⊢
    cases hhandle : (f.openHandle c.kernel).handle with
    | none =>
      rw [hhandle] at hok
      cases hok
    | some handle =>
      simp only [hhandle] at hok ⊢
      by_cases hgood : (f.openHandle c.kernel).errno = 0
      · rw [if_pos hgood] at hok ⊢
        cases hok
        rw [isOpen_eq, List.getElem?_concat_length]
        rfl
      · rw [if_neg hgood] at hok
        cases hok

theorem kstat?_lookup (hc : c.WellFormed) {q : Query} (hok : (c.lookup t q).result = .ok k) :
    ∃ kstat, (c.lookup t q).client.kstat? k = some kstat ∧ kstat.token = t := by
  cases hs : c.session? t with
  | none =>
    rw [lookup, onOpen_of_none hs] at hok
    cases hok
  | some s =>
    rw [lookup, onOpen_of_session? hs] at hok ⊢
    obtain ⟨id, -, hk⟩ := Session.standsFor_lookup (hc.sound hs) hok
    refine ⟨_, hk.getElem?, hk.token.trans ?_⟩
    exact (Session.moves_lookup (hc.sound hs) q).advances.token.trans (token_of_session? hs)

theorem parent_statistic {name : Bytes} {one : Statistic} (hok : (c.statistic k name).result = .ok one) :
    one.parent = some k := by
  rcases c.result_onKStat k (·.statistic k name) with ⟨f, hclosed⟩ | ⟨s, hserved⟩
  · cases hclosed.symm.trans hok
  · exact Session.parent_statistic (hserved.symm.trans hok)

theorem parent_statistics {many : List Statistic} (hok : (c.statistics k).result = .ok many) :
    ∀ one ∈ many, one.parent = some k := by
  intro one hone
  rcases c.result_onKStat k (·.statistics k) with ⟨f, hclosed⟩ | ⟨s, hserved⟩
  · cases hclosed.symm.trans hok
  · exact Session.parent_statistics (hserved.symm.trans hok) hone

theorem answers_of_failed_refresh (hc : c.WellFormed)
    (hnames : ∀ s kstat, c.session? kstat.token = some s → c.kstat? k = some kstat →
      kstat.identity.type = .named → s.handle.Names s.kernel kstat.record)
    {f : Failure} (hf : (c.refresh k).result = .error f) :
    (∀ name, ((c.refresh k).client.statistic k name).result = (c.statistic k name).result) ∧
      ((c.refresh k).client.statistics k).result = (c.statistics k).result := by
  cases hk : c.kstat? k with
  | none =>
    have hsame : (c.refresh k).client = c := by rw [refresh, onKStat, hk]
    rw [hsame]
    exact ⟨fun _ => rfl, rfl⟩
  | some kstat =>
    cases hs : c.session? kstat.token with
    | none =>
      have hsame : (c.refresh k).client = c := by rw [refresh, onKStat_of_kstat? hk, onOpen_of_none hs]
      rw [hsame]
      exact ⟨fun _ => rfl, rfl⟩
    | some s =>
      have hstands := standsFor_of_kstat? hs hk rfl
      have hsound := hc.sound hs
      rw [refresh, onKStat_of_kstat? hk, onOpen_of_session? hs] at hf ⊢
      obtain ⟨hbad, -⟩ := Session.refresh_of_error hf
      have hspares := Session.spares_refresh hsound hstands hbad
      have hafter := result_settle hs hstands (.single (.refresh hstands))
      have hnamed := hnames s kstat hs hk
      obtain rfl := kstat_of_kstat? hs hk
      have hcleared : s.Spares { (s.refresh k).1 with log := [] } 0 (s.kstat k).record 1 :=
        ⟨hspares.chain, hspares.handle, hspares.cache, hspares.kstats⟩
      have hsame := hcleared.answers hsound hstands hnamed hbad
      refine ⟨fun name => ?_, ?_⟩
      · rw [hafter.1, hsame.1, result_statistic hs hk rfl]
      · rw [hafter.2, hsame.2, result_statistics hs hk rfl]

end

/-- **A failure hands out nothing and leaves the state alone.** A call comes with a token, an object or
statistics if and only if its status is good. If it fails without an answer, or is a lookup that fails, then
no object, no data, no header and no clock has changed, and no cache either, except that a lookup which cannot
read the kstat it has found leaves it with an object. After a refresh that failed, an object answers as
before. -/
theorem failures_leave_state_alone (kernel : Kernel) (requests : List Request) :
    let now := run { kernel } requests
    (∀ facility, (Status.of (now.openToken facility).result).isOk = true ↔
      ∃ t, (now.openToken facility).result = .ok t ∧ (now.openToken facility).client.isOpen t = true) ∧
    (∀ t q, now.LookupWithdraws t q ∧ ((Status.of (now.lookup t q).result).isOk = true ↔
      ∃ k, (now.lookup t q).result = .ok k ∧
        ∃ kstat, (now.lookup t q).client.kstat? k = some kstat ∧ kstat.token = t)) ∧
    (∀ k, now.Withdraws k (now.refresh k) ∧ ∀ f, (now.refresh k).result = .error f →
      (∀ name, ((now.refresh k).client.statistic k name).result = (now.statistic k name).result) ∧
      ((now.refresh k).client.statistics k).result = (now.statistics k).result) ∧
    (∀ k name, now.Withdraws k (now.statistic k name) ∧
      ((Status.of (now.statistic k name).result).isOk = true ↔
        ∃ one, (now.statistic k name).result = .ok one ∧ one.parent = some k)) ∧
    ∀ k, now.Withdraws k (now.statistics k) ∧ ((Status.of (now.statistics k).result).isOk = true ↔
      ∃ many, (now.statistics k).result = .ok many ∧ ∀ one ∈ many, one.parent = some k) := by
  intro now
  have hnow : now.WellFormed := (WellFormed.start kernel).run requests
  have hsession : ∀ (k : KStatId) s kstat, now.session? kstat.token = some s → now.kstat? k = some kstat →
      s.Sound ∧ s.StandsFor k kstat.record ∧
        ((s.kstat k).identity.type = .named → s.handle.Names s.kernel kstat.record) := by
    intro k s kstat hs hk
    have hstands := standsFor_of_kstat? hs hk rfl
    exact ⟨hnow.sound hs, hstands, names_run kernel requests hs hstands⟩
  refine ⟨fun facility => Status.isOk_of_iff fun t => isOpen_openToken, fun t q => ⟨withdraws_lookup hnow t q, ?_⟩,
    fun k => ⟨?_, fun f hf => ?_⟩, fun k name => ⟨?_, ?_⟩, fun k => ⟨?_, ?_⟩⟩
  · exact Status.isOk_of_iff fun k => kstat?_lookup hnow
  · refine withdraws_onKStat fun s kstat hs hk => ?_
    obtain ⟨hsound, hstands, -⟩ := hsession k s kstat hs hk
    exact Session.withdraws_refresh hsound hstands
  · refine answers_of_failed_refresh hnow (fun s kstat hs hk => ?_) hf
    have hnames := (hsession k s kstat hs hk).2.2
    rwa [kstat_of_kstat? hs hk] at hnames
  · refine withdraws_onKStat fun s kstat hs hk => ?_
    obtain ⟨hsound, hstands, -⟩ := hsession k s kstat hs hk
    exact Session.withdraws_statistic hsound hstands name
  · exact Status.isOk_of_iff fun one => parent_statistic
  · refine withdraws_onKStat fun s kstat hs hk => ?_
    obtain ⟨hsound, hstands, hnames⟩ := hsession k s kstat hs hk
    exact Session.withdraws_statistics hsound hstands hnames
  · exact Status.isOk_of_iff fun many => parent_statistics

/-- A kstat that cannot be read any more keeps the statistics that it was read with. -/
theorem failures_leave_state_alone_on_sample :
    let requests : List Request :=
      [.openToken (some .library), .lookup 0 ⟨[], Query.anyInstance, []⟩, .edit (.amend 0 { readErrno := some 5 })]
    let now := run { kernel := { chain := Chain.sample } } requests
    ∃ f, (now.refresh 0).result = .error f ∧ f.code = .readFailure ∧
      (now.refresh 0).client.tokens = now.tokens ∧ (now.refresh 0).client.kstats = now.kstats ∧
      ((now.refresh 0).client.statistics 0).result = (now.statistics 0).result := by
  intro requests now
  obtain ⟨f, hf, hcode⟩ : ∃ f, (now.refresh 0).result = .error f ∧ f.code = .readFailure := ⟨_, rfl, rfl⟩
  obtain ⟨-, -, hrefresh, -, -⟩ := failures_leave_state_alone { chain := Chain.sample } requests
  obtain ⟨hwithdraws, hanswers⟩ := hrefresh 0
  refine ⟨f, hf, hcode, ?_⟩
  rcases hwithdraws f hf (.inr (.inr hcode)) with hsame | ⟨-, kstat, -, hspares⟩
  · exact ⟨congrArg Client.tokens hsame, congrArg Client.kstats hsame, (hanswers f hf).2⟩
  · exact ⟨hspares.tokens, hspares.kstats, (hanswers f hf).2⟩

end Client

end KernelStats
