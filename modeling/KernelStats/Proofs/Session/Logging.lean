import KernelStats.Proofs.Session.Records

/-!
# What a call writes to the log

The log of a call is made of the lines of its moments, one after the other. A moment notes a new object, a
read that failed, or a time that runs backwards; beside that, a call for statistics may ring the alarm of
its result. The two never mix: an alarm is critical and a note is not, so that what is counted in a log is
counted in the moments.
-/

namespace KernelStats

/-! ### Lines of a moment -/

/-- What a moment reports of the result of its call. -/
def Moment.alarms (m : Moment) : List Event :=
  match m.action with
  | .report events => events
  | _ => []

/-- What a moment notes of its own work. -/
def Moment.notes (m : Moment) : List Event :=
  match m.action with
  | .intern id =>
    if (m.session.cache.find? id).isSome then []
    else [.cached (m.session.handle.header m.session.kernel id).toIdentity]
  | .refresh k =>
    let kstat := m.session.kstat k
    let snaptime := ((m.session.reading k).header k).snaptime
    if m.session.readErrno k ≠ 0 then [.readFailed kstat.identity (m.session.readErrno k)]
    else if kstat.snaptime ≤ snaptime then []
    else [.staleSnaptime snaptime kstat.snaptime kstat.identity]
  | _ => []

def Moment.lines (m : Moment) : List Event := m.alarms ++ m.notes

/-- The error of a moment's read, if it makes a read that comes to one. -/
def Moment.readError? (m : Moment) : Option Errno :=
  match m.action with
  | .refresh k => if m.session.readErrno k = 0 then none else some (m.session.readErrno k)
  | _ => none

def readErrors (past : List Moment) : List Errno := past.filterMap Moment.readError?

def Event.isCaching : Event → Bool
  | .cached _ => true
  | _ => false

/-! ### Alarms -/

theorem Failure.level_of_mem_alarms {f : Failure} {e : Event} (he : e ∈ f.alarms) : e.level = .critical := by
  cases f with
  | unknownDataType statistic type =>
    rw [List.mem_singleton.1 he]
    rfl
  | _ => cases he

theorem Failure.countP_alarms (f : Failure) :
    f.alarms.countP (·.level = .critical) = if f.code = .unknownDataType then 1 else 0 := by
  cases f <;> rfl

theorem countP_alarms_eq_zero {alarms : List Event} (halarms : ∀ e ∈ alarms, e.level = .critical)
    {p : Event → Bool} (hp : ∀ e, p e = true → e.level ≠ .critical) : alarms.countP p = 0 :=
  List.countP_eq_zero.2 fun e he hcounted => hp e hcounted (halarms e he)

/-! ### Notes -/

namespace Moment

variable (m : Moment)

theorem countP_warn_notes : m.notes.countP (·.level = .warn) = m.readError?.toList.length := by
  obtain ⟨s, a⟩ := m
  cases a with
  | intern id =>
    simp only [notes, readError?]
    split <;> rfl
  | refresh k =>
    simp only [notes, readError?]
    by_cases hgood : s.readErrno k = 0
    · rw [if_neg (not_not_intro hgood), if_pos hgood]
      split <;> rfl
    · rw [if_pos hgood, if_neg hgood]
      rfl
  | _ => rfl

theorem level_of_mem_notes {m : Moment} {e : Event} (he : e ∈ m.notes) : e.level = .warn ∨ e.level = .debug := by
  obtain ⟨s, a⟩ := m
  cases a with
  | intern id =>
    simp only [notes] at he
    split at he
    · cases he
    · exact .inr (List.mem_singleton.1 he ▸ rfl)
  | refresh k =>
    simp only [notes] at he
    split at he
    · exact .inl (List.mem_singleton.1 he ▸ rfl)
    · split at he
      · cases he
      · exact .inr (List.mem_singleton.1 he ▸ rfl)
  | _ => cases he

end Moment

theorem countP_lines (p : Event → Bool) (past : List Moment) :
    (past.flatMap Moment.lines).countP p =
      (past.flatMap Moment.alarms).countP p + (past.flatMap Moment.notes).countP p := by
  induction past with
  | nil => rfl
  | cons m rest ih =>
    simp only [List.flatMap_cons, List.countP_append, Moment.lines, ih]
    omega

/-- Notes warn of every read that came to an error, once, and of nothing else. -/
theorem countP_warn_notes (past : List Moment) :
    (past.flatMap Moment.notes).countP (·.level = .warn) = (readErrors past).length := by
  induction past with
  | nil => rfl
  | cons m rest ih =>
    have hfirst : readErrors (m :: rest) = m.readError?.toList ++ readErrors rest := by
      unfold readErrors
      rw [List.filterMap_cons]
      cases m.readError? <;> rfl
    rw [List.flatMap_cons, List.countP_append, ih, m.countP_warn_notes, hfirst, List.length_append]

theorem countP_notes_eq_zero (past : List Moment) {p : Event → Bool}
    (hp : ∀ e, p e = true → e.level ≠ .warn ∧ e.level ≠ .debug) : (past.flatMap Moment.notes).countP p = 0 := by
  refine List.countP_eq_zero.2 fun e he hcounted => ?_
  obtain ⟨m, -, hnote⟩ := List.mem_flatMap.1 he
  rcases Moment.level_of_mem_notes hnote with hlevel | hlevel
  · exact (hp e hcounted).1 hlevel
  · exact (hp e hcounted).2 hlevel

namespace Session

variable {s s' : Session} {k : KStatId} {id : RecordId}

/-! ### The log of a call -/

theorem log_act (s : Session) (a : Action) : (s.act a).log = s.log ++ Moment.lines ⟨s, a⟩ := by
  cases a with
  | report events => exact congrArg (s.log ++ ·) (List.append_nil events).symm
  | search q => exact (List.append_nil s.log).symm
  | pick id name => exact (List.append_nil s.log).symm
  | intern id =>
    show (s.intern id).1.log = _
    cases h : s.cache.find? id with
    | some k => simp [intern_of_find? h, Moment.lines, Moment.alarms, Moment.notes, h]
    | none => simp [intern_of_none h, report, Moment.lines, Moment.alarms, Moment.notes, h]
  | refresh k =>
    show (s.refresh k).1.log = _
    rw [refresh_eq]
    simp only [Moment.lines, Moment.alarms, Moment.notes, List.nil_append]
    by_cases hgood : s.readErrno k = 0
    · rw [if_pos hgood, if_neg (not_not_intro hgood)]
      rfl
    · rw [if_neg hgood, if_pos hgood]
      rfl

/-- The log of a call is made of the lines of its moments. -/
theorem Plays.log {actions : List Action} (h : s.Plays actions s') :
    s'.log = s.log ++ (s.moments actions).flatMap Moment.lines := by
  induction h with
  | nil s => simp [moments]
  | @cons s s' a rest _ _ ih => rw [ih, log_act, moments, List.flatMap_cons, List.append_assoc]

/-! ### The cache of a call -/

theorem size_act (s : Session) (a : Action) :
    (s.act a).cache.size = s.cache.size + (Moment.notes ⟨s, a⟩).countP Event.isCaching := by
  cases a with
  | report events => rfl
  | search q => rfl
  | pick id name => rfl
  | intern id =>
    show (s.intern id).1.cache.size = _
    cases h : s.cache.find? id with
    | some k => simp [intern_of_find? h, Moment.notes, h]
    | none =>
      rw [intern_of_none h]
      simp only [report, Cache.size_insert_of_none h, Moment.notes, h]
      rfl
  | refresh k =>
    show (s.refresh k).1.cache.size = _
    rw [cache_refresh]
    simp only [Moment.notes]
    split
    · rfl
    · split <;> rfl

/-- Every object that a call adds to the cache is noted, and no other. -/
theorem Plays.size_cache {actions : List Action} (h : s.Plays actions s') :
    s'.cache.size =
      s.cache.size + ((s.moments actions).flatMap Moment.notes).countP Event.isCaching := by
  induction h with
  | nil s => rfl
  | @cons s s' a rest _ _ ih =>
    rw [ih, size_act, moments, List.flatMap_cons, List.countP_append, Nat.add_assoc]

/-! ### The alarms of a call -/

def alarms (s : Session) (actions : List Action) : List Event := (s.moments actions).flatMap Moment.alarms

theorem Plays.alarms_append {actions : List Action} (h : s.Plays actions s') (more : List Action) :
    s.alarms (actions ++ more) = s.alarms actions ++ s'.alarms more := by
  rw [alarms, h.moments_append, List.flatMap_append]
  rfl

theorem alarms_all (s : Session) (ids : List RecordId) : s.alarms (ids.map .intern) = [] := by
  induction ids generalizing s with
  | nil => rfl
  | cons id ids ih => exact ih (s.intern id).1

theorem alarms_lookupScript (s : Session) (q : Query) : s.alarms (s.lookupScript q) = [] := by
  unfold lookupScript
  cases (s.handle.lookup s.kernel q).2 with
  | error e => rfl
  | ok id => rfl

theorem alarms_prepareScript (s : Session) (k : KStatId) : s.alarms (s.prepareScript k) = [] := by
  unfold prepareScript
  split <;> rfl

theorem alarmsOf_refresh (s : Session) (k : KStatId) : alarmsOf (s.refresh k).2 = [] := by
  rw [result_refresh]
  split <;> rfl

theorem alarmsOf_lookup (s : Session) (q : Query) : alarmsOf (s.lookup q).2 = [] := by
  cases h : (s.handle.lookup s.kernel q).2 with
  | error e => rw [lookup_of_error h]; rfl
  | ok id =>
    rw [lookup_of_ok h, result_refresh]
    split <;> rfl

theorem alarms_of_prepare {f : Failure} (h : (s.prepare k).2 = .error f) : f.alarms = [] := by
  rcases prepare_of_error h with ⟨-, rfl⟩ | ⟨-, -, rfl⟩
  · rfl
  · rfl

theorem alarms_statisticScript (hk : s.StandsFor k id) (name : Bytes) :
    s.alarms (s.statisticScript k name) = alarmsOf (s.statistic k name).2 := by
  rw [statisticScript, (plays_prepare hk).alarms_append, alarms_prepareScript, List.nil_append]
  cases h : (s.prepare k).2 with
  | error f =>
    rw [statistic_of_error h]
    exact (alarms_of_prepare h).symm
  | ok _ => exact List.append_nil _

theorem alarms_statisticsScript (hk : s.StandsFor k id) :
    s.alarms (s.statisticsScript k) = alarmsOf (s.statistics k).2 := by
  rw [statisticsScript, (plays_prepare hk).alarms_append, alarms_prepareScript, List.nil_append]
  cases h : (s.prepare k).2 with
  | error f =>
    rw [statistics_of_error h]
    exact (alarms_of_prepare h).symm
  | ok _ => exact List.append_nil _

theorem alarms_lookupStatisticScript (hs : s.Sound) (q : Query) (name : Bytes) :
    s.alarms (s.lookupStatisticScript q name) = alarmsOf (s.lookupStatistic q name).2 := by
  rw [lookupStatisticScript, (plays_lookup hs q).alarms_append, alarms_lookupScript, List.nil_append]
  have hsilent := s.alarmsOf_lookup q
  cases h : (s.lookup q).2 with
  | error f =>
    rw [h] at hsilent
    rw [lookupStatistic_of_error h]
    exact hsilent.symm
  | ok k =>
    obtain ⟨id, -, hk⟩ := standsFor_lookup hs h
    rw [lookupStatistic_of_ok h]
    exact alarms_statisticScript hk name

end Session

end KernelStats
