import KernelStats.Proofs.Client.History
import KernelStats.Proofs.Session.StaleErrno

/-!
# Requests after an earlier failure

What the sessions do not look at cannot show in a reply. Whatever error number an earlier call has left in
the kernel, a request is answered alike, reports the same, and leaves the client in the same state, but for
the number that is there afterwards. The same holds of whole runs, so no reply tells of an error that another
request has met.
-/

namespace KernelStats

def Client.withErrno (c : Client) (e : Errno) : Client := { c with kernel := c.kernel.fail e }

/-- Two outcomes of a request that differ in the error number that is left behind at most. -/
def Outcome.SameButErrno {α : Type} (o o' : Outcome α) : Prop :=
  ∃ e, o' = { o with client := o.client.withErrno e }

theorem Outcome.SameButErrno.map {α β : Type} {o o' : Outcome α} (h : o.SameButErrno o') (f : α → β) :
    (o.map f).SameButErrno (o'.map f) := by
  obtain ⟨e, rfl⟩ := h
  exact ⟨e, rfl⟩

namespace Client

variable (c : Client) (e : Errno)

/-! ### Calls -/

theorem onOpen_withErrno {α : Type} (t : TokenId) (closed : α) {call : Session → Session × α}
    (hcall : ∀ s e, Session.SameButErrno (call s) (call (s.withErrno e))) :
    (c.onOpen t closed call).SameButErrno ((c.withErrno e).onOpen t closed call) := by
  cases hs : c.session? t with
  | none =>
    have hclosed : c.isOpen t = false := session?_eq_none_iff.1 hs
    have hs' : (c.withErrno e).session? t = none := session?_eq_none_iff.2 hclosed
    rw [onOpen_of_none hs, onOpen_of_none hs']
    exact ⟨e, rfl⟩
  | some s =>
    have hs' : (c.withErrno e).session? t = some (s.withErrno e) := by
      obtain ⟨token, handle, htoken, hhandle, rfl⟩ := session?_eq_some_iff.1 hs
      exact session?_eq_some_iff.2 ⟨token, handle, htoken, hhandle, rfl⟩
    obtain ⟨left, hsame⟩ := hcall s e
    rw [onOpen_of_session? hs, onOpen_of_session? hs', hsame]
    exact ⟨left, rfl⟩

theorem onKStat_withErrno {α : Type} (k : KStatId) {call : Session → Session × Except Failure α}
    (hcall : ∀ s e, Session.SameButErrno (call s) (call (s.withErrno e))) :
    (c.onKStat k call).SameButErrno ((c.withErrno e).onKStat k call) := by
  cases hk : c.kstat? k with
  | none =>
    have hk' : (c.withErrno e).kstat? k = none := hk
    unfold onKStat
    rw [hk, hk']
    exact ⟨e, rfl⟩
  | some kstat =>
    rw [onKStat_of_kstat? hk, onKStat_of_kstat? (c := c.withErrno e) hk]
    exact c.onOpen_withErrno e kstat.token _ hcall

theorem openToken_withErrno (facility : Option Facility) :
    (c.openToken facility).SameButErrno ((c.withErrno e).openToken facility) := by
  cases facility with
  | none => exact ⟨e, rfl⟩
  | some f =>
    obtain ⟨left, hopening⟩ := Facility.openHandle_fail c.kernel e f
    refine ⟨left, ?_⟩
    have hopening' : f.openHandle (c.withErrno e).kernel = _ := hopening
    unfold openToken
    simp only [hopening']
    cases (f.openHandle c.kernel).handle with
    | none => rfl
    | some handle =>
      by_cases hgood : (f.openHandle c.kernel).errno = 0
      · simp only [if_pos hgood]
        rfl
      · simp only [if_neg hgood]
        rfl

theorem close_withErrno (t : TokenId) : (c.close t).SameButErrno ((c.withErrno e).close t) := by
  cases hopen : c.isOpen t with
  | false =>
    rw [close_of_closed hopen, close_of_closed (c := c.withErrno e) hopen]
    exact ⟨e, rfl⟩
  | true =>
    obtain ⟨⟨_, cache, alive⟩, handle, htoken, rfl⟩ := exists_handle hopen
    have htoken' : (c.withErrno e).tokens[t]? = _ := htoken
    obtain ⟨between, hclose⟩ := handle.close_fail c.kernel e
    obtain ⟨left, hdrop⟩ := (handle.close c.kernel).2.1.drop_fail (handle.close c.kernel).1 between
    have hclose' : handle.close (c.withErrno e).kernel = _ := hclose
    refine ⟨left, ?_⟩
    unfold close
    rw [htoken, htoken']
    simp only [hclose', hdrop]
    by_cases hgood : (handle.close c.kernel).2.2 = 0
    · simp only [if_pos hgood]
      rfl
    · simp only [if_neg hgood]
      rfl

theorem destroy_withErrno (t : TokenId) : (c.destroy t).SameButErrno ((c.withErrno e).destroy t) := by
  obtain ⟨left, hclose⟩ := c.close_withErrno e t
  refine ⟨left, ?_⟩
  simp only [destroy, hclose]
  rfl

theorem edit_withErrno (change : Chain.Edit) :
    (c.perform (.edit change)).SameButErrno ((c.withErrno e).perform (.edit change)) := by
  refine ⟨e, ?_⟩
  have hchain : (c.withErrno e).kernel.chain.edit change = c.kernel.chain.edit change := rfl
  simp only [perform, edit, hchain]
  cases c.kernel.chain.edit change with
  | none => rfl
  | some chain => rfl

/-! ### Requests -/

theorem withToken_withErrno (t : TokenId) {answer answer' : Outcome Reply} (h : answer.SameButErrno answer') :
    (c.withToken t answer).SameButErrno ((c.withErrno e).withToken t answer') := by
  have htokens : (c.withErrno e).tokens = c.tokens := rfl
  rw [withToken_eq, withToken_eq, htokens]
  split
  · exact h
  · exact ⟨e, rfl⟩

theorem withKStat_withErrno (k : KStatId) {answer answer' : Outcome Reply} (h : answer.SameButErrno answer') :
    (c.withKStat k answer).SameButErrno ((c.withErrno e).withKStat k answer') := by
  have hkstats : (c.withErrno e).kstats = c.kstats := rfl
  rw [withKStat, withKStat, hkstats]
  split
  · exact h
  · exact ⟨e, rfl⟩

theorem perform_withErrno (r : Request) : (c.perform r).SameButErrno ((c.withErrno e).perform r) := by
  cases r with
  | openToken facility => exact (c.openToken_withErrno e facility).map _
  | close t => exact c.withToken_withErrno e t ((c.close_withErrno e t).map _)
  | destroy t => exact c.withToken_withErrno e t ((c.destroy_withErrno e t).map _)
  | isOpen t => exact c.withToken_withErrno e t ⟨e, rfl⟩
  | cachedCount t => exact c.withToken_withErrno e t ⟨e, rfl⟩
  | all t =>
    exact c.withToken_withErrno e t ((c.onOpen_withErrno e t _ Session.all_withErrno).map _)
  | lookup t q =>
    exact c.withToken_withErrno e t ((c.onOpen_withErrno e t _ fun s e => s.lookup_withErrno e q).map _)
  | lookupStatistic t q name =>
    exact c.withToken_withErrno e t
      ((c.onOpen_withErrno e t _ fun s e => s.lookupStatistic_withErrno e q name).map _)
  | refresh k =>
    exact c.withKStat_withErrno e k ((c.onKStat_withErrno e k fun s e => s.refresh_withErrno e k).map _)
  | statistic k name =>
    exact c.withKStat_withErrno e k
      ((c.onKStat_withErrno e k fun s e => s.statistic_withErrno e k name).map _)
  | statistics k =>
    exact c.withKStat_withErrno e k ((c.onKStat_withErrno e k fun s e => s.statistics_withErrno e k).map _)
  | edit change => exact c.edit_withErrno e change

/-- All replies of a run are the same, whatever number was there before it, and so is all that is reported. -/
theorem run_withErrno (requests : List Request) :
    (∃ left, (c.withErrno e).run requests = (c.run requests).withErrno left) ∧
      (c.withErrno e).replies requests = c.replies requests ∧
      (c.withErrno e).gather logged requests = c.gather logged requests := by
  induction requests generalizing c e with
  | nil => exact ⟨⟨e, rfl⟩, rfl, rfl⟩
  | cons r rest ih =>
    obtain ⟨between, hfirst⟩ := c.perform_withErrno e r
    obtain ⟨hlast, hreplies, hlogs⟩ := ih (c.perform r).client between
    refine ⟨?_, ?_, ?_⟩
    · rw [run_cons, hfirst]
      exact hlast
    · rw [replies, replies, hfirst, ← hreplies]
    · rw [gather, gather, logged, logged, hfirst, ← hlogs]

end Client

end KernelStats
