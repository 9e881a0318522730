import KernelStats.Proofs.Session.Readings
import KernelStats.Proofs.Session.Records

/-!
# The reads of a call

A call reads a kstat when its script says so, and at no other time: the reads of a call are those of its
moments, failed ones included. A lookup reads what it has found, and a call for statistics reads its kstat
if the handle has no data of it yet. A lookup for a statistic makes one read, not two, because a read that
goes well leaves data.

The chain counts the reads of each kstat. Through a live handle it is also changed by them, and by nothing
else that a call does but count a lookup.
-/

namespace KernelStats

/-! ### Reads as the chain sees them -/

namespace Chain

def reads? (c : Chain) (id : RecordId) : Option Nat := (c.entry? id).map Entry.reads

def readAll (c : Chain) (ids : List RecordId) : Chain := ids.foldl (fun c id => (c.read id).1) c

variable {c : Chain} {id : RecordId}

theorem readAll_append (c : Chain) (first second : List RecordId) :
    c.readAll (first ++ second) = (c.readAll first).readAll second := List.foldl_append

theorem read_setLookups (c : Chain) (lookups : Nat) (id : RecordId) :
    (({ c with lookups } : Chain).read id).1 = { (c.read id).1 with lookups } := by
  cases hentry : c.entry? id with
  | none =>
    have hentry' : Chain.entry? { c with lookups } id = none := hentry
    rw [read_of_none hentry, read_of_none hentry']
  | some e =>
    have hentry' : Chain.entry? { c with lookups } id = some e := hentry
    by_cases hgood : e.readErrno = 0
    · rw [read_of_good hentry hgood, read_of_good hentry' hgood]
      rfl
    · rw [read_of_bad hentry hgood, read_of_bad hentry' hgood]
      rfl

theorem readAll_setLookups (c : Chain) (lookups : Nat) (ids : List RecordId) :
    ({ c with lookups } : Chain).readAll ids = { c.readAll ids with lookups } := by
  induction ids generalizing c with
  | nil => rfl
  | cons id ids ih =>
    show ((({ c with lookups } : Chain).read id).1).readAll ids = _
    rw [read_setLookups, ih]
    rfl

theorem Touched.reads? {c' : Chain} (h : c.Touched id c') (other : RecordId) :
    c'.reads? other = (c.reads? other).map (· + [id].count other) := by
  obtain ⟨f, clock, htouch, rfl⟩ := h
  show (other.get? (id.update f c.entries)).map Entry.reads = _
  rw [RecordId.get?_update, Chain.reads?, entry?, List.count_singleton]
  by_cases hid : other = id
  · subst hid
    simp [Function.comp_def, htouch.reads]
  · rw [if_neg hid, if_neg (by simpa using Ne.symm hid)]
    exact Option.map_id'.symm

end Chain

namespace Handle

/-- The kstat that a query selects first on the handle's chain. -/
def selected? (k : Kernel) (h : Handle) (q : Query) : Option RecordId :=
  ((h.identities k).findIdx? (q.selects h.key)).map .ofIndex

theorem lookup_of_selected? {h : Handle} (hintact : h.Intact) {k : Kernel} {q : Query} {id : RecordId}
    (hselected : h.selected? k q = some id) : (h.lookup k q).2 = .ok id := by
  obtain ⟨i, hi, rfl⟩ := Option.map_eq_some_iff.1 hselected
  rw [lookup_eq hintact, hi]

theorem lookup_of_selected?_none {h : Handle} (hintact : h.Intact) {k : Kernel} {q : Query}
    (hselected : h.selected? k q = none) : (h.lookup k q).2 = .error (h.searchErrno k) := by
  rw [lookup_eq hintact, Option.map_eq_none_iff.1 hselected]

end Handle

/-! ### Reads as a call makes them -/

def Moment.read? (m : Moment) : Option RecordId :=
  match m.action with
  | .refresh k => some (m.session.kstat k).record
  | _ => none

/-- The kstats that are read in a list of moments, in order and with every read. -/
def reads (past : List Moment) : List RecordId := past.filterMap Moment.read?

@[simp] theorem reads_append (past more : List Moment) : reads (past ++ more) = reads past ++ reads more :=
  List.filterMap_append

theorem reads_cons (m : Moment) (rest : List Moment) : reads (m :: rest) = reads [m] ++ reads rest :=
  reads_append [m] rest

namespace Session

variable {s s' : Session} {k : KStatId} {q : Query}

theorem reads_lookupScript (hs : s.Sound) (q : Query) :
    reads (s.moments (s.lookupScript q)) = (s.handle.selected? s.kernel q).toList := by
  unfold lookupScript
  cases hselected : s.handle.selected? s.kernel q with
  | none =>
    rw [Handle.lookup_of_selected?_none hs.intact hselected]
    rfl
  | some id =>
    rw [Handle.lookup_of_selected? hs.intact hselected]
    -- the object that is read is the one that was just taken for the id
    show [((s.matched q id).1.kstat (s.matched q id).2).record] = [id]
    rw [(standsFor_matched hs q id).record]

theorem reads_prepareScript (s : Session) (k : KStatId) :
    reads (s.moments (s.prepareScript k)) =
      if (s.kstat k).identity.type = .named ∧ (s.header k).hasData = false then [(s.kstat k).record]
      else [] := by
  unfold prepareScript
  split
  · rfl
  · rfl

theorem reads_statisticScript {id : RecordId} (hk : s.StandsFor k id) (name : Bytes) :
    reads (s.moments (s.statisticScript k name)) = reads (s.moments (s.prepareScript k)) := by
  rw [statisticScript, (plays_prepare hk).moments_append, reads_append]
  cases (s.prepare k).2 with
  | error f => exact List.append_nil _
  | ok _ => exact List.append_nil _

theorem reads_statisticsScript {id : RecordId} (hk : s.StandsFor k id) :
    reads (s.moments (s.statisticsScript k)) = reads (s.moments (s.prepareScript k)) := by
  rw [statisticsScript, (plays_prepare hk).moments_append, reads_append]
  cases (s.prepare k).2 with
  | error f => exact List.append_nil _
  | ok _ => exact List.append_nil _

theorem reads_all (s : Session) (ids : List RecordId) : reads (s.moments (ids.map .intern)) = [] := by
  induction ids generalizing s with
  | nil => rfl
  | cons id ids ih => exact ih (s.intern id).1

/-- A library handle names what its token has an object of a named kstat for, if the labels are true. -/
theorem names_of_labelled (hlabelled : s.handle.facility = .library → s.Labelled fun i => i)
    {record : RecordId} (hk : s.StandsFor k record) (htype : (s.kstat k).identity.type = .named) :
    s.handle.Names s.kernel record := by
  intro hlibrary
  obtain ⟨i, hi, hlabel⟩ := hlabelled hlibrary k record hk
  obtain rfl : (s.kstat k).identity = i := hlabel
  exact ⟨_, hi, htype⟩

theorem hasData_lookup (hs : s.Sound) (hlabelled : s.handle.facility = .library → s.Labelled fun i => i)
    (hfound : (s.lookup q).2 = .ok k) (htype : ((s.lookup q).1.kstat k).identity.type = .named) :
    ((s.lookup q).1.header k).hasData = true := by
  cases hlookup : (s.handle.lookup s.kernel q).2 with
  | error e =>
    rw [lookup_of_error hlookup] at hfound
    cases hfound
  | ok record =>
    have hmatched : (s.matched q record).1.Sound := (moves_matched hlookup).sound hs
    have hstands := standsFor_matched hs q record
    have hplays : s.Plays [.search q, .intern record] (s.matched q record).1 :=
      .cons trivial (.single (a := .intern record) (mem_walk_searched hlookup))
    have hread : (s.matched q record).1.readErrno (s.matched q record).2 = 0 := by
      by_contra hbad
      rw [lookup_of_ok hlookup, result_refresh, if_neg hbad] at hfound
      cases hfound
    rw [lookup_of_ok hlookup, result_refresh, if_pos hread] at hfound
    obtain rfl : (s.matched q record).2 = k := Except.ok.inj hfound
    rw [lookup_of_ok hlookup] at htype ⊢
    have hafter := (Move.refresh hstands).advances
    rw [hafter.identity hstands] at htype
    rw [header, (hafter.standsFor hstands).record, kernel_refresh, handle_refresh, hstands.record]
    rw [readErrno, hstands.record] at hread
    refine (Handle.loaded_of_read hmatched.intact (names_of_labelled (fun hlibrary => ?_) hstands htype) hread).1
    rw [matched, handle_intern] at hlibrary
    exact (hlabelled hlibrary).plays hplays

/-- What a lookup has answered with needs no read before its statistics can be asked for. -/
theorem reads_prepareScript_lookup (hs : s.Sound)
    (hlabelled : s.handle.facility = .library → s.Labelled fun i => i) (hfound : (s.lookup q).2 = .ok k) :
    reads ((s.lookup q).1.moments ((s.lookup q).1.prepareScript k)) = [] := by
  rw [reads_prepareScript]
  apply if_neg
  rintro ⟨htype, hdata⟩
  rw [hasData_lookup hs hlabelled hfound htype] at hdata
  cases hdata

theorem reads_lookupStatisticScript (hs : s.Sound)
    (hlabelled : s.handle.facility = .library → s.Labelled fun i => i) (q : Query) (name : Bytes) :
    reads (s.moments (s.lookupStatisticScript q name)) = reads (s.moments (s.lookupScript q)) := by
  rw [lookupStatisticScript, (plays_lookup hs q).moments_append, reads_append]
  cases hfound : (s.lookup q).2 with
  | error f => exact List.append_nil _
  | ok k =>
    obtain ⟨id, -, hk⟩ := standsFor_lookup hs hfound
    simp only [reads_statisticScript hk, reads_prepareScript_lookup hs hlabelled hfound, List.append_nil]

/-! ### What the reads do to the chain -/

theorem reads?_act (hs : s.Sound) (a : Action) (id : RecordId) :
    (s.act a).kernel.chain.reads? id =
      (s.kernel.chain.reads? id).map (· + (reads [⟨s, a⟩]).count id) := by
  have hnone : s.kernel.chain.reads? id = (s.kernel.chain.reads? id).map (· + 0) := by simp
  cases a with
  | report events => exact hnone
  | search q =>
    show (s.handle.lookup s.kernel q).1.chain.reads? id = _
    rw [Handle.chain_lookup]
    exact hnone
  | pick record name =>
    show (s.handle.record? s.kernel record name).1.chain.reads? id = _
    rw [Handle.chain_record?]
    exact hnone
  | intern record =>
    show (s.intern record).1.kernel.chain.reads? id = _
    rw [kernel_intern]
    exact hnone
  | refresh k =>
    show (s.refresh k).1.kernel.chain.reads? id = _
    rw [kernel_refresh]
    exact (Handle.touched_read hs.intact s.kernel (s.kstat k).record).reads? id

/-- The chain counts every read of a call, and no other. -/
theorem Plays.reads? {actions : List Action} (h : s.Plays actions s') (hs : s.Sound) (id : RecordId) :
    s'.kernel.chain.reads? id =
      (s.kernel.chain.reads? id).map (· + (reads (s.moments actions)).count id) := by
  induction h with
  | nil s => simp [moments, reads]
  | @cons s s' a rest hadmits _ ih =>
    rw [ih (hadmits.move.sound hs), reads?_act hs, moments, reads_cons _ ((s.act a).moments rest),
      List.count_append, Option.map_map]
    congr 1
    funext n
    exact Nat.add_assoc _ _ _

theorem chain_act_live (hlive : s.handle = .live) (a : Action) :
    (s.act a).kernel.chain =
      { s.kernel.chain.readAll (reads [⟨s, a⟩]) with lookups := (s.act a).kernel.chain.lookups } := by
  cases a with
  | report events => rfl
  | search q =>
    show (s.handle.lookup s.kernel q).1.chain =
      { s.kernel.chain with lookups := (s.handle.lookup s.kernel q).1.chain.lookups }
    rw [Handle.chain_lookup]
  | pick record name =>
    show (s.handle.record? s.kernel record name).1.chain =
      { s.kernel.chain with lookups := (s.handle.record? s.kernel record name).1.chain.lookups }
    rw [Handle.chain_record?]
  | intern record =>
    show (s.intern record).1.kernel.chain =
      { s.kernel.chain with lookups := (s.intern record).1.kernel.chain.lookups }
    rw [kernel_intern]
  | refresh k =>
    show (s.refresh k).1.kernel.chain =
      { (s.kernel.chain.read (s.kstat k).record).1 with
        lookups := (s.refresh k).1.kernel.chain.lookups }
    rw [kernel_refresh, hlive]
    rfl

theorem handle_act_live (hlive : s.handle = .live) (a : Action) : (s.act a).handle = .live := by
  apply Handle.eq_live_of_facility
  rw [facility_act, hlive]
  rfl

/-- A call through a live handle leaves the chain as its reads do. -/
theorem Plays.chain_live {actions : List Action} (h : s.Plays actions s') (hlive : s.handle = .live) :
    s'.kernel.chain =
      { s.kernel.chain.readAll (reads (s.moments actions)) with lookups := s'.kernel.chain.lookups } := by
  induction h with
  | nil s => rfl
  | @cons s s' a rest _ _ ih =>
    have hrest := ih (handle_act_live hlive a)
    rw [chain_act_live hlive a, Chain.readAll_setLookups] at hrest
    rw [moments, reads_cons _ ((s.act a).moments rest), Chain.readAll_append]
    exact hrest

end Session

end KernelStats
