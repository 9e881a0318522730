import KernelStats.Proofs.Client.StaleErrno
import KernelStats.Proofs.Session.Refusals
import KernelStats.Proofs.Token.NeededReads

/-!
# Errors of this request

The system library says why it refuses a call in a number that it shares with all other calls, and that it
does not touch when a call goes well. What a status shows is still about the request that it answers. An
open, a close, a lookup and a read fail if the system refuses them, and only then, and the failure carries the
error that the system gives to this very call. A request that is refused nothing may fail by itself, and its
failure then carries no error of the system. So the number that earlier requests have left is never seen.
-/

namespace KernelStats

/-! ### What is told of a failure -/

/-- The failure that a status in a reply tells of. -/
def Reply.failure? : Reply → Option Failure
  | .opened result => Failure.of? result
  | .closed result => Failure.of? result
  | .found result => Failure.of? result
  | .refreshed result => Failure.of? result
  | .statistic result => Failure.of? result
  | .statistics result => Failure.of? result
  | _ => none

def Event.abandoned? : Event → Option Failure
  | .abandoned f => some f
  | _ => none

/-- The failure that an answered request tells of. A token that is let go can only tell the log. -/
def Outcome.failure? (o : Outcome Reply) : Option Failure :=
  match o.result with
  | .destroyed => o.log.findSome? Event.abandoned?
  | reply => reply.failure?

def Request.OpensLibrary : Request → Prop
  | .openToken facility => facility = some .library
  | _ => True

namespace Client

/-- What the system refuses to a request that it serves through its library, and with which error. Opens and
closes are refused by the errors that the chain is told to answer them with, a lookup that finds nothing by
the one for lookups, and a read by the one of its kstat, or because the kstat is not on the chain any more. -/
def refusal? (c : Client) : Request → Option Refusal
  | .openToken _ => Refusal.of? .openFailure c.kernel.chain.openErrno
  | .close t | .destroy t =>
    if c.isOpen t then Refusal.of? .closeFailure c.kernel.chain.closeErrno else none
  | .lookup t q | .lookupStatistic t q _ =>
    (c.handle? t).bind fun handle => handle.lookupRefusal? c.kernel q
  | r => (c.needed r).findSome? c.kernel.chain.readRefusal?

/-- A request reaches the system through its library, if at all. -/
def ViaLibrary (c : Client) (r : Request) : Prop :=
  r.OpensLibrary ∧ ∀ t f, c.addressee r = some t → c.facility? t = some f → f = .library

open Refusal

variable {c : Client} {t : TokenId} {s : Session} {r : Request}

/-! ### Opens and closes -/

theorem decides_openToken (c : Client) :
    Decides (c.refusal? (.openToken (some .library))) (c.perform (.openToken (some .library))).failure? := by
  have hresult : (c.perform (.openToken (some .library))).failure? = Failure.of?
      (if c.kernel.chain.openErrno = 0 then .ok c.tokens.length
        else .error (.cannotOpen c.kernel.chain.openErrno)) := by
    show Failure.of? (c.openToken (some .library)).result = _
    rw [outcome_openToken_library]
    simp only [apply_ite Outcome.result]
  rw [hresult]
  exact decides_of? (f := .cannotOpen _) rfl _

theorem decides_release (hc : c.WellFormed) (hs : c.session? t = some s) (hr : r = .close t ∨ r = .destroy t) :
    Decides (c.refusal? r) (c.perform r).failure? := by
  have hrefusal : c.refusal? r = Refusal.of? .closeFailure c.kernel.chain.closeErrno := by
    rcases hr with rfl | rfl
    · exact if_pos (isOpen_of_session? hs)
    · exact if_pos (isOpen_of_session? hs)
  have hfailed : (c.perform r).failure? = Failure.of?
      (if c.kernel.chain.closeErrno = 0 then .ok () else .error (.closeFailed c.kernel.chain.closeErrno)) := by
    obtain ⟨hresult, hlog⟩ := close_of_session? hc hs
    rcases hr with rfl | rfl
    · rw [perform, withToken_of_session? hc hs]
      exact congrArg Failure.of? hresult
    · rw [perform, withToken_of_session? hc hs]
      show (c.destroy t).log.findSome? Event.abandoned? = _
      rw [log_destroy_of_session? hc hs, hlog]
      split <;> rfl
  rw [hrefusal, hfailed]
  exact decides_of? (f := .closeFailed _) rfl ()

/-! ### Requests that nobody serves -/

theorem refusal?_of_none (hr : ∀ t, c.addressee r = some t → c.session? t = none)
    (hopen : ∀ facility, r ≠ .openToken facility) : c.refusal? r = none := by
  have hclosed : ∀ t, c.addressee r = some t → ¬c.isOpen t = true := by
    intro t ht
    rw [session?_eq_none_iff.1 (hr t ht)]
    exact nofun
  have hneeded := needed_of_none hr
  cases r with
  | openToken facility => exact absurd rfl (hopen facility)
  | close t => exact if_neg (hclosed t rfl)
  | destroy t => exact if_neg (hclosed t rfl)
  | lookup t q => rw [refusal?, handle?_of_none (hr t rfl), Option.bind_none]
  | lookupStatistic t q name => rw [refusal?, handle?_of_none (hr t rfl), Option.bind_none]
  | _ =>
    show (c.needed _).findSome? _ = none
    rw [hneeded, List.findSome?_nil]

theorem decides_of_none (hr : ∀ t, c.addressee r = some t → c.session? t = none)
    (hopen : ∀ facility, r ≠ .openToken facility) : Decides none (c.perform r).failure? := by
  obtain ⟨hreply, hlog⟩ := unserved_perform hr hopen
  have hsilent : Decides none none := decides_none nofun
  have htoken : Decides none (some .closedToken) := decides_error (Failure.own_of_code (by decide))
  have hkstat : Decides none (some .closedKStat) := decides_error (Failure.own_of_code (by decide))
  unfold Outcome.failure?
  rw [hlog]
  generalize (c.perform r).result = reply at hreply ⊢
  cases hreply with
  | lookup t q => exact htoken
  | lookupStatistic t q name => exact htoken
  | refresh k => exact hkstat
  | statistic k name => exact hkstat
  | statistics k => exact hkstat
  | _ => exact hsilent

/-! ### Requests that a session serves -/

theorem decides_served {past : List Moment} (hs : c.session? t = some s) (hbacked : s.Backed past)
    (hr : c.addressee r = some t) (hclose : r ≠ .close t) (hdestroy : r ≠ .destroy t) :
    Decides (c.refusal? r) (c.served t s r).failure? := by
  have hkernel := kernel_of_session? hs
  have hobject : ∀ k, r.object? = some k → ∃ id, s.StandsFor k id := fun k hk =>
    standsFor_of_addressee hs hr hk
  have hreads : (c.needed r).findSome? c.kernel.chain.readRefusal? = s.readsRefusal? (s.script r) := by
    rw [← needed_of_session? hs hbacked.sound (fun _ => hbacked.labelled) hr, ← hkernel]
    rfl
  have hlookup : ∀ q, ((c.handle? t).bind fun handle => handle.lookupRefusal? c.kernel q) =
      s.handle.lookupRefusal? s.kernel q := by
    intro q
    rw [handle?_of_session? hs, Option.bind_some, hkernel]
  cases r with
  | openToken facility => cases hr
  | edit e => cases hr
  | close u => cases hr; exact absurd rfl hclose
  | destroy u => cases hr; exact absurd rfl hdestroy
  | isOpen u => exact decides_none nofun
  | cachedCount u => exact decides_none nofun
  | all u => exact decides_none nofun
  | lookup u q =>
    cases hr
    rw [refusal?, hlookup]
    exact Session.decides_lookup hbacked.sound q
  | lookupStatistic u q name =>
    cases hr
    rw [refusal?, hlookup]
    exact hbacked.decides_lookupStatistic q name
  | refresh k =>
    show Decides ((c.needed _).findSome? _) _
    rw [hreads]
    exact Session.decides_refresh hbacked.sound k
  | statistic k name =>
    obtain ⟨id, hk⟩ := hobject k rfl
    show Decides ((c.needed _).findSome? _) _
    rw [hreads]
    exact Session.decides_statistic hbacked.sound hk name
  | statistics k =>
    obtain ⟨id, hk⟩ := hobject k rfl
    show Decides ((c.needed _).findSome? _) _
    rw [hreads]
    exact hbacked.decides_statistics hk

/-- What the system refuses decides how a request through its library fails. -/
theorem decides_perform (hc : c.WellFormed)
    (hbacked : ∀ t s, c.session? t = some s → s.handle.facility = .library → ∃ past, s.Backed past)
    (hlibrary : c.ViaLibrary r) : Decides (c.refusal? r) (c.perform r).failure? := by
  by_cases hopen : ∃ facility, r = .openToken facility
  · obtain ⟨facility, rfl⟩ := hopen
    obtain rfl : facility = some .library := hlibrary.1
    exact c.decides_openToken
  have hopen' : ∀ facility, r ≠ .openToken facility := fun facility hr => hopen ⟨facility, hr⟩
  rcases c.session_cases r with ⟨t, s, hr, hs⟩ | hnone
  · by_cases hrelease : r = .close t ∨ r = .destroy t
    · exact decides_release hc hs hrelease
    · have hfacility := hlibrary.2 t _ hr (facility?_eq_some_iff.2 ⟨s, hs, rfl⟩)
      obtain ⟨past, hpast⟩ := hbacked t s hs hfacility
      have hclose : r ≠ .close t := fun h => hrelease (.inl h)
      have hdestroy : r ≠ .destroy t := fun h => hrelease (.inr h)
      rw [perform_of_session? hc hs hr hclose hdestroy]
      exact decides_served hs hpast hr hclose hdestroy
  · rw [refusal?_of_none hnone hopen']
    exact decides_of_none hnone hopen'

/-! ### Runs -/

theorem viaLibrary_run (kernel : Kernel) {requests : List Request} (hrun : ∀ r ∈ requests, r.OpensLibrary)
    (hr : r.OpensLibrary) : (run { kernel } requests).ViaLibrary r := by
  refine ⟨hr, fun t f _ hf => ?_⟩
  obtain ⟨s, hs, rfl⟩ := facility?_eq_some_iff.1 hf
  refine session_induction (P := fun _ r => r.OpensLibrary) (fun s _ => s.handle.facility = .library)
    ?_ ?_ ?_ (fun _ _ hlibrary => hlibrary) kernel (along_of_forall_mem hrun) hs
  · intro c f handle _ hopens hhandle _
    obtain rfl : f = .library := Option.some.inj hopens
    rcases Facility.handle_openHandle hhandle with ⟨hlive, -⟩ | ⟨-, rfl⟩
    · cases hlive
    · rfl
  · intro c r s s' past _ _ hmeanwhile _ _ hlibrary
    rw [hmeanwhile.handle]
    exact hlibrary
  · intro c r m past _ _ _ _ _ hlibrary
    rw [Session.facility_act]
    exact hlibrary

theorem code_of_readRefusal? {chain : Chain} {ids : List RecordId} {refusal : Refusal}
    (h : ids.findSome? chain.readRefusal? = some refusal) : refusal.code = .readFailure := by
  obtain ⟨id, -, hid⟩ := List.exists_of_findSome?_eq_some h
  unfold Chain.readRefusal? Refusal.of? at hid
  split at hid
  · cases hid
  · cases hid
    rfl

/-- **A status carries the error that its own request has met.** If the system refuses something to a request
that reaches it through the library, then the request fails, and the failure has the code of what was refused
and the error that it was refused with: the error of opens, of closes, of lookups that find nothing, or of the
kstat that was to be read. If nothing is refused, the request may still fail, but not with the code of an open, a
read or a close, and without an error of the system; a statistic that is not there is always told by the same
error. What error number earlier requests have left makes no difference to any reply or line of the log, now or
later. -/
theorem errno_is_of_this_request (kernel : Kernel) (requests : List Request) (r : Request)
    (hlibrary : (run { kernel } requests).ViaLibrary r) :
    let now := run { kernel } requests
    let failed := (now.perform r).failure?
    (∀ refusal, now.refusal? r = some refusal → failed.map Failure.refusal = some refusal) ∧
    (now.refusal? r = none → ∀ f, failed = some f →
      f.code ∉ [.openFailure, .readFailure, .closeFailure] ∧
        f.errno = if f.code = .lookupFailure then .noEntry else 0) ∧
    (∀ k name f, r = .statistic k name → failed = some f → f.code = .lookupFailure → f.errno = .noEntry) ∧
    ∀ stale more, (now.withErrno stale).replies more = now.replies more ∧
      (now.withErrno stale).gather logged more = now.gather logged more := by
  intro now failed
  have hwell : now.WellFormed := (WellFormed.start kernel).run requests
  have hdecides : Decides (now.refusal? r) failed :=
    decides_perform hwell (fun t s hs hfacility => ⟨_, backed_run kernel requests hs hfacility⟩) hlibrary
  have hown : now.refusal? r = none → ∀ f, failed = some f →
      f.code ∉ [.openFailure, .readFailure, .closeFailure] ∧
        f.errno = if f.code = .lookupFailure then .noEntry else 0 := fun hnone f hf =>
    ⟨(hdecides.own hnone f hf).code, (hdecides.own hnone f hf).errno⟩
  refine ⟨hdecides.told, hown, ?_, fun stale more => (now.run_withErrno stale more).2⟩
  rintro k name f rfl hf hcode
  cases hrefusal : now.refusal? (.statistic k name) with
  | none => rw [(hown hrefusal f hf).2, if_pos hcode]
  | some refusal =>
    -- it could only be a read that was refused
    have htold := hdecides.told refusal hrefusal
    rw [hf] at htold
    have hread : refusal.code = .readFailure := code_of_readRefusal? hrefusal
    rw [← Option.some.inj htold] at hread
    cases hcode.symm.trans hread

/-- A read has failed and left its error, and then a lookup finds nothing, for which the library has no error of
its own to give. -/
theorem errno_is_of_this_request_after_failed_read :
    let kernel : Kernel := { chain := { Chain.sample with lookupErrno := 0 }, errno := 13 }
    let requests : List Request :=
      [.openToken (some .library), .lookup 0 ⟨utf8 "cpu", Query.anyInstance, utf8 "sys"⟩,
        .edit (.amend 0 { readErrno := some 5 }), .refresh 0]
    let now := run { kernel } requests
    let r : Request := .lookup 0 ⟨utf8 "cpu", Query.anyInstance, utf8 "none"⟩
    now.ViaLibrary r ∧ now.kernel.errno = 5 ∧
      now.refusal? r = some { code := .lookupFailure, errno := .noEntry } ∧
      (now.perform r).failure?.map Failure.refusal = some { code := .lookupFailure, errno := .noEntry } ∧
      (now.withErrno 7).replies [r, .refresh 0] = now.replies [r, .refresh 0] := by
  intro kernel requests now r
  have hrun : ∀ r ∈ requests, r.OpensLibrary := by simp [requests, Request.OpensLibrary]
  have hlibrary : now.ViaLibrary r := viaLibrary_run kernel hrun trivial
  have hrefusal : now.refusal? r = some { code := .lookupFailure, errno := .noEntry } := by decide
  obtain ⟨htold, -, -, hstale⟩ := errno_is_of_this_request kernel requests r hlibrary
  exact ⟨hlibrary, by decide, hrefusal, htold _ hrefusal, (hstale 7 _).1⟩

end Client

end KernelStats
