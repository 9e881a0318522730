import KernelStats.Proofs.Session.Logging
import KernelStats.Proofs.Token.Errno

/-!
# The log accounts for what happened

Whoever has nothing but the log can still tell what went wrong and what was made. A call of the system that
comes to an error is warned of once, wherever in a request it was made. Of all failures only data of an unknown
layout rings an alarm, and it does so once. A token that is let go has nobody to report to, so a close that
fails then is an error in the log. Objects are noted when they are made, and how many there were when they are
dropped.
-/

namespace KernelStats

def Event.dropped? : Event → Option Nat
  | .tokenClosed dropped => some dropped
  | _ => none

theorem alarmsOf_eq {α : Type} (result : Except Failure α) :
    alarmsOf result = (Failure.of? result).toList.flatMap Failure.alarms := by
  cases result with
  | ok a => rfl
  | error f => exact (List.append_nil _).symm

theorem Session.alarms_script {s : Session} (hs : s.Sound) {r : Request}
    (hr : ∀ k, r.object? = some k → ∃ id, s.StandsFor k id) :
    s.alarms (s.script r) = (s.serve r).2.failure?.toList.flatMap Failure.alarms := by
  cases r with
  | all t => exact s.alarms_all _
  | lookup t q =>
    show s.alarms (s.lookupScript q) = (Failure.of? (s.lookup q).2).toList.flatMap Failure.alarms
    rw [← alarmsOf_eq, alarms_lookupScript, alarmsOf_lookup]
  | lookupStatistic t q name => exact (alarms_lookupStatisticScript hs q name).trans (alarmsOf_eq _)
  | refresh k => exact (s.alarmsOf_refresh k).symm.trans (alarmsOf_eq _)
  | statistic k name =>
    obtain ⟨id, hk⟩ := hr k rfl
    exact (alarms_statisticScript hk name).trans (alarmsOf_eq _)
  | statistics k =>
    obtain ⟨id, hk⟩ := hr k rfl
    exact (alarms_statisticsScript hk).trans (alarmsOf_eq _)
  | _ => rfl

theorem level_of_mem_alarms {failed : Option Failure} {e : Event}
    (he : e ∈ failed.toList.flatMap Failure.alarms) : e.level = .critical := by
  obtain ⟨f, -, hf⟩ := List.mem_flatMap.1 he
  exact Failure.level_of_mem_alarms hf

theorem countP_alarms (failed : Option Failure) :
    (failed.toList.flatMap Failure.alarms).countP (·.level = .critical) =
      if failed.map Failure.code = some .unknownDataType then 1 else 0 := by
  cases failed with
  | none => rfl
  | some f =>
    show (f.alarms ++ []).countP _ = _
    rw [List.append_nil, f.countP_alarms]
    simp only [Option.map_some, Option.some.injEq]

namespace Client

def readErrors (c : Client) (r : Request) : List Errno :=
  ((c.addressee r).map fun t => KernelStats.readErrors (c.moments t r)).getD []

/-- The errors that the closes of a request come to. The chain counts every close that reaches it, and answers
each with the same error. -/
def closeErrors (c : Client) (r : Request) : List Errno :=
  let closes := (c.perform r).client.kernel.chain.closes - c.kernel.chain.closes
  (List.replicate closes c.kernel.chain.closeErrno).filter (· ≠ 0)

variable {c : Client} {t : TokenId} {s : Session} {r : Request}

theorem log_of_session? (hs : c.session? t = some s) : s.log = [] := by
  obtain ⟨token, handle, -, -, rfl⟩ := session?_eq_some_iff.1 hs
  rfl

/-! ### Requests that are served -/

theorem closeErrors_served (hc : c.WellFormed) (hs : c.session? t = some s) (hr : c.addressee r = some t)
    (hserved : c.perform r = c.served t s r) : c.closeErrors r = [] := by
  have hbooks := (plays_of_session? hc hs hr).moves.advances.books.closes
  have hcloses : (c.perform r).client.kernel.chain.closes = c.kernel.chain.closes := by
    rw [hserved, ← kernel_of_session? hs]
    exact hbooks
  rw [closeErrors, hcloses, Nat.sub_self]
  rfl

theorem countP_log_served (hc : c.WellFormed) (hs : c.session? t = some s) (hr : c.addressee r = some t)
    (p : Event → Bool) :
    (c.served t s r).log.countP p =
      ((c.served t s r).result.failure?.toList.flatMap Failure.alarms).countP p +
        ((s.moments (s.script r)).flatMap Moment.notes).countP p := by
  have hlog := (plays_of_session? hc hs hr).log
  rw [log_of_session? hs, List.nil_append] at hlog
  have halarms := Session.alarms_script (hc.sound hs) fun k hk => standsFor_of_addressee hs hr hk
  show (s.serve r).1.log.countP p = ((s.serve r).2.failure?.toList.flatMap Failure.alarms).countP p + _
  rw [hlog, countP_lines, ← halarms]
  rfl

theorem countP_caching_served (hc : c.WellFormed) (hs : c.session? t = some s) (hr : c.addressee r = some t) :
    c.cachedCount t + (c.served t s r).log.countP Event.isCaching = (c.served t s r).client.cachedCount t := by
  have hcaching : ∀ e : Event, e.isCaching = true → e.level ≠ .critical := by
    intro e he
    cases e with
    | cached kstat => exact nofun
    | _ => cases he
  have hsize : (c.served t s r).client.cachedCount t = (s.serve r).1.cache.size := by
    show (c.settle t (s.serve r).1).cachedCount t = _
    rw [← length_cached, cached_settle hs, Cache.length_keys]
  rw [countP_log_served hc hs hr, countP_alarms_eq_zero (fun _ => level_of_mem_alarms) hcaching, Nat.zero_add,
    hsize, (plays_of_session? hc hs hr).size_cache, cachedCount_of_session? hs]

/-! ### Releases -/

theorem closeErrors_release (hc : c.WellFormed) (hs : c.session? t = some s) (hr : r = .close t ∨ r = .destroy t) :
    c.closeErrors r = if c.kernel.chain.closeErrno = 0 then [] else [c.kernel.chain.closeErrno] := by
  have hone : (c.perform r).client.kernel.chain.closes - c.kernel.chain.closes = 1 := by
    rw [chain_release hc hs hr]
    exact Nat.add_sub_cancel_left _ 1
  simp only [closeErrors, hone, List.replicate_one, List.filter_singleton]
  by_cases hgood : c.kernel.chain.closeErrno = 0
  · simp [hgood]
  · simp [hgood]

/-- What a close writes. A token that is let go writes the same, and behind it that the close has failed. -/
theorem log_release (hc : c.WellFormed) (hs : c.session? t = some s) (hr : r = .close t ∨ r = .destroy t) :
    (c.perform r).log =
      .tokenClosed (c.cachedCount t) :: (c.closeErrors r).map .closeFailed ++
        if r = .destroy t then (c.closeErrors r).map fun errno => .abandoned (.closeFailed errno) else [] := by
  obtain ⟨-, hlog⟩ := close_of_session? hc hs
  have hfailed : (c.closeErrors r).map Event.closeFailed =
      if c.kernel.chain.closeErrno = 0 then [] else [.closeFailed c.kernel.chain.closeErrno] := by
    rw [closeErrors_release hc hs hr]
    split <;> rfl
  rw [hfailed, ← hlog]
  rcases hr with rfl | rfl
  · have hkept : Request.close t ≠ .destroy t := by simp
    rw [if_neg hkept, List.append_nil, perform, withToken_of_session? hc hs]
    rfl
  · rw [if_pos (Eq.refl (Request.destroy t)), closeErrors_release hc hs (.inr rfl), perform,
      withToken_of_session? hc hs]
    refine (log_destroy_of_session? hc hs).trans ?_
    split <;> rfl

theorem countP_log_release (hc : c.WellFormed) (hs : c.session? t = some s)
    (hr : r = .close t ∨ r = .destroy t) :
    (c.perform r).log.countP (·.level = .warn) = (c.closeErrors r).length ∧
      (c.perform r).log.countP (·.level = .critical) = 0 ∧
      (c.perform r).log.countP (·.level = .error) =
        (if r = .destroy t ∧ c.closeErrors r ≠ [] then 1 else 0) ∧
      (c.perform r).log.filterMap Event.dropped? = [c.cachedCount t] := by
  have herrors : c.closeErrors r = [] ∨ ∃ errno, c.closeErrors r = [errno] := by
    rw [closeErrors_release hc hs hr]
    split
    · exact .inl rfl
    · exact .inr ⟨_, rfl⟩
  rw [log_release hc hs hr]
  generalize c.closeErrors r = errors at herrors ⊢
  rcases hr with rfl | rfl
  · have hkept : Request.close t ≠ .destroy t := by simp
    rw [if_neg hkept, if_neg fun h => hkept h.1]
    rcases herrors with rfl | ⟨errno, rfl⟩
    · exact ⟨rfl, rfl, rfl, rfl⟩
    · exact ⟨rfl, rfl, rfl, rfl⟩
  · rw [if_pos (Eq.refl (Request.destroy t))]
    rcases herrors with rfl | ⟨errno, rfl⟩
    · rw [if_neg fun h => h.2 rfl]
      exact ⟨rfl, rfl, rfl, rfl⟩
    · rw [if_pos ⟨rfl, nofun⟩]
      exact ⟨rfl, rfl, rfl, rfl⟩

theorem failure?_release (hc : c.WellFormed) (hs : c.session? t = some s) (hr : r = .close t ∨ r = .destroy t) :
    (c.perform r).result.failure?.map Failure.code ≠ some .unknownDataType := by
  rcases hr with rfl | rfl
  · rw [perform, withToken_of_session? hc hs]
    show (Failure.of? (c.close t).result).map Failure.code ≠ _
    rw [(close_of_session? hc hs).1]
    by_cases hgood : c.kernel.chain.closeErrno = 0
    · simp [hgood, Failure.of?]
    · simp [hgood, Failure.of?, Failure.code]
  · rw [perform, withToken_of_session? hc hs]
    simp [Outcome.map, Reply.failure?]

/-- **The log accounts for what happened.** Whatever is asked of an open token or of one of its objects, the log
warns as often as a read or a close of the system came to an error. It has one critical line if the request fails
because data has an unknown layout, and none otherwise, and one error if the token was let go and its close
failed. As many new objects are noted as the cache has grown by; a close notes how many are dropped, which is the
number of different kstats that the token came across since its open. -/
theorem log_accounts_for_request (kernel : Kernel) (requests : List Request) (t : TokenId) (r : Request) :
    let now := run { kernel } requests
    let after := now.perform r
    now.isOpen t = true → now.addressee r = some t →
    after.log.countP (·.level = .warn) = (now.readErrors r).length + (now.closeErrors r).length ∧
    after.log.countP (·.level = .critical) =
      (if after.result.failure?.map Failure.code = some .unknownDataType then 1 else 0) ∧
    after.log.countP (·.level = .error) = (if r = .destroy t ∧ now.closeErrors r ≠ [] then 1 else 0) ∧
    (r ≠ .close t → r ≠ .destroy t →
      now.cachedCount t + after.log.countP Event.isCaching = after.client.cachedCount t) ∧
    (r = .close t ∨ r = .destroy t →
      after.log.filterMap Event.dropped? = [(gather (met t) { kernel } requests).dedup.length]) := by
  intro now after hopen hr
  have hnow : now.WellFormed := (WellFormed.start kernel).run requests
  obtain ⟨s, hs⟩ := exists_session? hopen
  have hreads : now.readErrors r = KernelStats.readErrors (s.moments (s.script r)) := by
    rw [readErrors, hr, Option.map_some, Option.getD_some, moments_of_session? hs hr]
  by_cases hrelease : r = .close t ∨ r = .destroy t
  · obtain ⟨hwarn, hcritical, herror, hdropped⟩ := countP_log_release hnow hs hrelease
    have hunread : now.readErrors r = [] := by
      rw [hreads]
      rcases hrelease with rfl | rfl <;> rfl
    refine ⟨?_, ?_, herror, fun hclose hdestroy => ?_, fun _ => ?_⟩
    · rw [hwarn, hunread, List.length_nil, Nat.zero_add]
    · rw [hcritical, if_neg (failure?_release hnow hs hrelease)]
    · exact absurd hrelease (not_or.2 ⟨hclose, hdestroy⟩)
    · rw [hdropped, cachedCount_run kernel requests hopen]
  · obtain ⟨hclose, hdestroy⟩ := not_or.1 hrelease
    have hserved : after = now.served t s r := perform_of_session? hnow hs hr hclose hdestroy
    have hcounted := countP_log_served hnow hs hr
    have halarms : ∀ {failed : Option Failure} (e : Event), e ∈ failed.toList.flatMap Failure.alarms →
        e.level = .critical := fun _ => level_of_mem_alarms
    rw [closeErrors_served hnow hs hr hserved, hserved, hreads]
    refine ⟨?_, ?_, ?_, fun _ _ => countP_caching_served hnow hs hr, fun h => absurd h hrelease⟩
    · rw [hcounted, countP_alarms_eq_zero halarms (by grind), countP_warn_notes, Nat.zero_add]
      rfl
    · rw [hcounted, countP_alarms, countP_notes_eq_zero _ (by grind), Nat.add_zero]
    · rw [hcounted, countP_alarms_eq_zero halarms (by grind), countP_notes_eq_zero _ (by grind), if_neg]
      exact fun h => hdestroy h.1

/-- A kstat has data of an unknown layout, cannot be read any more, and belongs to a token whose close will fail. -/
theorem log_accounts_for_request_that_fails :
    let kernel : Kernel := { chain := { Chain.sample with closeErrno := 9 } }
    let requests : List Request :=
      [.openToken (some .library), .edit (.retype 0 1 ⟨7⟩), .lookup 0 ⟨utf8 "cpu", Query.anyInstance, utf8 "sys"⟩,
        .edit (.amend 0 { readErrno := some 5 })]
    let now := run { kernel } requests
    let log := fun r => (now.perform r).log
    let other : Request := .lookup 0 ⟨utf8 "link", Query.anyInstance, []⟩
    now.isOpen 0 = true ∧
      (now.addressee (.statistics 0) = some 0 ∧ (log (.statistics 0)).countP (·.level = .critical) = 1 ∧
        (log (.statistics 0)).countP (·.level = .warn) = 0) ∧
      (now.addressee (.refresh 0) = some 0 ∧ (log (.refresh 0)).countP (·.level = .critical) = 0 ∧
        (log (.refresh 0)).countP (·.level = .warn) = 1) ∧
      (now.addressee other = some 0 ∧ now.cachedCount 0 = 1 ∧ 1 + (log other).countP Event.isCaching = 2) ∧
      now.addressee (.destroy 0) = some 0 ∧ (log (.destroy 0)).countP (·.level = .warn) = 1 ∧
        (log (.destroy 0)).countP (·.level = .error) = 1 ∧ (log (.destroy 0)).filterMap Event.dropped? = [1] := by
  intro kernel requests now log other
  have hopen : now.isOpen 0 = true := by decide
  have haccounts := fun r => log_accounts_for_request kernel requests 0 r hopen
  obtain ⟨hwarn, hcritical, -⟩ := haccounts (.statistics 0) (by decide)
  obtain ⟨hwarn', hcritical', -⟩ := haccounts (.refresh 0) (by decide)
  obtain ⟨-, -, -, hcaching, -⟩ := haccounts other (by decide)
  obtain ⟨hwarn'', -, herror, -, hdropped⟩ := haccounts (.destroy 0) (by decide)
  exact ⟨hopen, ⟨by decide, hcritical.trans (by decide), hwarn.trans (by decide)⟩,
    ⟨by decide, hcritical'.trans (by decide), hwarn'.trans (by decide)⟩,
    ⟨by decide, by decide, (hcaching nofun nofun).trans (by decide)⟩, by decide, hwarn''.trans (by decide),
    herror.trans (by decide), (hdropped (.inr rfl)).trans (by decide)⟩

end Client

end KernelStats
