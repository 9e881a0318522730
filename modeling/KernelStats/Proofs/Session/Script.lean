import KernelStats.Proofs.Client.Serving

/-!
# What a call does, action by action

The moves of a session say that a call is put together from five kinds of effects, but not from which.
Here the effects are data: a call follows a `script`, and playing the script leads to the very session
that the call leads to, log included. A `Moment` is an action of a script with the session in which it is
taken, so a list of moments is all that a call has done, each read in the state that it was made in.

A fact about whole calls is then proved of one action at a time: `Plays.induction` carries what one
action keeps through a script, together with the moments that have passed.
-/

namespace KernelStats

inductive Action where
  | report (events : List Event)
  | search (query : Query)
  | pick (id : RecordId) (name : Bytes)
  | intern (id : RecordId)
  | refresh (object : KStatId)

def alarmsOf {α : Type} : Except Failure α → List Event
  | .ok _ => []
  | .error f => f.alarms

structure Moment where
  session : Session
  action : Action

namespace Session

def act (s : Session) : Action → Session
  | .report events => s.report events
  | .search q => s.searched q
  | .pick id name => s.picked id name
  | .intern id => (s.intern id).1
  | .refresh k => (s.refresh k).1

/-- Ids are taken from the walk, and objects belong to the token. -/
def Admits (s : Session) : Action → Prop
  | .intern id => id ∈ s.handle.walk s.kernel
  | .refresh k => ∃ id, s.StandsFor k id
  | _ => True

theorem Admits.move {s : Session} {a : Action} (h : s.Admits a) : s.Move (s.act a) := by
  cases a with
  | report events => exact .report s events
  | search q => exact .search s q
  | pick id name => exact .pick s id name
  | intern id => exact .intern h
  | refresh k =>
    obtain ⟨id, hk⟩ := h
    exact .refresh hk

def moments (s : Session) : List Action → List Moment
  | [] => []
  | a :: rest => ⟨s, a⟩ :: (s.act a).moments rest

/-- Playing a script, each action of which is admitted when its turn comes. -/
inductive Plays : Session → List Action → Session → Prop where
  | nil (s : Session) : Plays s [] s
  | cons {s s' : Session} {a : Action} {rest : List Action} (hadmits : s.Admits a)
    (hrest : (s.act a).Plays rest s') : Plays s (a :: rest) s'

namespace Plays

variable {s s' s'' : Session} {actions more : List Action}

theorem single {a : Action} (hadmits : s.Admits a) : s.Plays [a] (s.act a) := .cons hadmits (.nil _)

theorem append (hfirst : s.Plays actions s') (hsecond : s'.Plays more s'') :
    s.Plays (actions ++ more) s'' := by
  induction hfirst with
  | nil => exact hsecond
  | cons hadmits _ ih => exact .cons hadmits (ih hsecond)

theorem moments_append (hfirst : s.Plays actions s') (more : List Action) :
    s.moments (actions ++ more) = s.moments actions ++ s'.moments more := by
  induction hfirst with
  | nil => rfl
  | cons _ _ ih => exact congrArg (_ :: ·) ih

theorem moves (h : s.Plays actions s') : s.Moves s' := by
  induction h with
  | nil => exact .refl
  | cons hadmits _ ih => exact .head hadmits.move ih

/-- What ties a session to the moments that have passed, if every action keeps it, holds at the end. -/
theorem induction (Ties : Session → List Moment → Prop) (h : s.Plays actions s') (hs : s.Sound)
    (hact : ∀ m ∈ s.moments actions, ∀ past, m.session.Sound → m.session.Admits m.action →
      Ties m.session past → Ties (m.session.act m.action) (past ++ [m]))
    {past : List Moment} (hpast : Ties s past) : Ties s' (past ++ s.moments actions) := by
  induction h generalizing past with
  | nil =>
    rw [moments, List.append_nil]
    exact hpast
  | @cons s s' a rest hadmits _ ih =>
    have hfirst : Ties (s.act a) (past ++ [⟨s, a⟩]) := hact _ List.mem_cons_self past hs hadmits hpast
    have hrest := ih (hadmits.move.sound hs) (fun m hm => hact m (List.mem_cons_of_mem _ hm)) hfirst
    rwa [List.append_assoc] at hrest

end Plays

/-! ### Scripts -/

def lookupScript (s : Session) (q : Query) : List Action :=
  .search q ::
    match (s.handle.lookup s.kernel q).2 with
    | .error _ => []
    | .ok id => [.intern id, .refresh (s.matched q id).2]

/-- A statistic is only looked for in data that is there, and the handle is asked for it if it is not. -/
def prepareScript (s : Session) (k : KStatId) : List Action :=
  if (s.kstat k).identity.type = .named ∧ (s.header k).hasData = false then [.refresh k] else []

def statisticScript (s : Session) (k : KStatId) (name : Bytes) : List Action :=
  s.prepareScript k ++
    match (s.prepare k).2 with
    | .error _ => []
    | .ok () => [.pick ((s.prepare k).1.kstat k).record name, .report (alarmsOf (s.statistic k name).2)]

def statisticsScript (s : Session) (k : KStatId) : List Action :=
  s.prepareScript k ++
    match (s.prepare k).2 with
    | .error _ => []
    | .ok () => [.report (alarmsOf (s.statistics k).2)]

def lookupStatisticScript (s : Session) (q : Query) (name : Bytes) : List Action :=
  s.lookupScript q ++
    match (s.lookup q).2 with
    | .error _ => []
    | .ok k => (s.lookup q).1.statisticScript k name

/-- The script of the call that serves a request. -/
def script (s : Session) : Request → List Action
  | .all _ => (s.handle.walk s.kernel).map .intern
  | .lookup _ q => s.lookupScript q
  | .lookupStatistic _ q name => s.lookupStatisticScript q name
  | .refresh k => [.refresh k]
  | .statistic k name => s.statisticScript k name
  | .statistics k => s.statisticsScript k
  | _ => []

/-! ### Calls play their scripts -/

theorem plays_internAll {s : Session} {ids : List RecordId}
    (hids : ∀ id ∈ ids, id ∈ s.handle.walk s.kernel) :
    s.Plays (ids.map .intern) (s.internAll ids).1 := by
  induction ids generalizing s with
  | nil => exact .nil s
  | cons id ids ih =>
    refine .cons (hids id List.mem_cons_self) (ih fun other hother => ?_)
    show other ∈ (s.intern id).1.handle.walk (s.intern id).1.kernel
    rw [handle_intern, kernel_intern]
    exact hids other (List.mem_cons_of_mem _ hother)

theorem plays_lookup {s : Session} (hs : s.Sound) (q : Query) :
    s.Plays (s.lookupScript q) (s.lookup q).1 := by
  unfold lookupScript
  cases h : (s.handle.lookup s.kernel q).2 with
  | error e =>
    rw [lookup_of_error h]
    exact .single (a := .search q) trivial
  | ok id =>
    rw [lookup_of_ok h]
    have hobject : (s.matched q id).1.Admits (.refresh (s.matched q id).2) :=
      ⟨id, standsFor_matched hs q id⟩
    exact .cons trivial (.cons (mem_walk_searched h) (.single hobject))

section

variable {s : Session} {k : KStatId} {id : RecordId}

theorem prepare_of_unnamed (htype : (s.kstat k).identity.type ≠ .named) :
    s.prepare k = (s, .error (.notNamed (s.kstat k).identity)) := if_neg htype

theorem prepare_of_data (htype : (s.kstat k).identity.type = .named)
    (hdata : (s.header k).hasData = true) : s.prepare k = (s, .ok ()) := by
  rw [prepare, if_pos htype, if_pos hdata]

theorem prepare_of_no_data (htype : (s.kstat k).identity.type = .named)
    (hdata : (s.header k).hasData = false) : s.prepare k = s.refresh k := by
  rw [prepare, if_pos htype, hdata]
  rfl

theorem plays_prepare (hk : s.StandsFor k id) : s.Plays (s.prepareScript k) (s.prepare k).1 := by
  unfold prepareScript
  by_cases htype : (s.kstat k).identity.type = .named
  · cases hdata : (s.header k).hasData with
    | true =>
      rw [prepare_of_data htype hdata, if_neg (by simp)]
      exact .nil s
    | false =>
      rw [prepare_of_no_data htype hdata, if_pos ⟨htype, rfl⟩]
      exact .single (a := .refresh k) ⟨id, hk⟩
  · rw [prepare_of_unnamed htype, if_neg fun h => htype h.1]
    exact .nil s

theorem answer_eq {α : Type} (s : Session) (r : Except Failure α) :
    s.answer r = (s.report (alarmsOf r), r) := by
  cases r with
  | ok a => simp [answer, report, alarmsOf]
  | error f => rfl

theorem plays_statistic (hk : s.StandsFor k id) (name : Bytes) :
    s.Plays (s.statisticScript k name) (s.statistic k name).1 := by
  unfold statisticScript
  refine (plays_prepare hk).append ?_
  cases h : (s.prepare k).2 with
  | error f =>
    rw [statistic_of_error h]
    exact .nil _
  | ok _ =>
    simp only [statistic_of_ok h, answer_eq]
    exact .cons trivial (.single trivial)

theorem plays_statistics (hk : s.StandsFor k id) :
    s.Plays (s.statisticsScript k) (s.statistics k).1 := by
  unfold statisticsScript
  refine (plays_prepare hk).append ?_
  cases h : (s.prepare k).2 with
  | error f =>
    rw [statistics_of_error h]
    exact .nil _
  | ok _ =>
    simp only [statistics_of_ok h, answer_eq]
    exact .single trivial

end

theorem plays_lookupStatistic {s : Session} (hs : s.Sound) (q : Query) (name : Bytes) :
    s.Plays (s.lookupStatisticScript q name) (s.lookupStatistic q name).1 := by
  unfold lookupStatisticScript
  refine (plays_lookup hs q).append ?_
  cases h : (s.lookup q).2 with
  | error f =>
    rw [lookupStatistic_of_error h]
    exact .nil _
  | ok k =>
    rw [lookupStatistic_of_ok h]
    obtain ⟨id, -, hk⟩ := standsFor_lookup hs h
    exact plays_statistic hk name

/-- No call does anything that its script does not say, and everything that it says. -/
theorem plays_serve {s : Session} (hs : s.Sound) {r : Request}
    (hr : ∀ k, r.object? = some k → ∃ id, s.StandsFor k id) : s.Plays (s.script r) (s.serve r).1 := by
  cases r with
  | all t => exact plays_internAll fun _ hid => hid
  | lookup t q => exact plays_lookup hs q
  | lookupStatistic t q name => exact plays_lookupStatistic hs q name
  | refresh k => exact .single (hr k rfl)
  | statistic k name =>
    obtain ⟨id, hk⟩ := hr k rfl
    exact plays_statistic hk name
  | statistics k =>
    obtain ⟨id, hk⟩ := hr k rfl
    exact plays_statistics hk
  | _ => exact .nil s

end Session

end KernelStats
