import KernelStats.Proofs.Client.Moments
import KernelStats.Proofs.Handle.Reads

/-!
# Readings

A reading is a read that went well, kept as it was at its moment: whose object it was made through, what
records the chain then had, and when it was by the clock. The moments of a token leave a list of
readings, and the `latest` of a kstat is all that a library handle remembers of it: the private copy has
the records of that reading and no others. What happens to the chain afterwards, reads that fail, and
what other tokens do leave no trace in it.
-/

namespace KernelStats

/-- A read that went well. -/
structure Reading where
  object : KStatId
  record : RecordId
  /-- What the chain had for the kstat at that moment. -/
  records : List Record
  /-- The time of that moment by the clock of the chain. -/
  clock : Int64
  /-- The snapshot time that the handle reported right after the read. -/
  snaptime : Int64

/-- The reading that a moment brings, if its action is a read and goes well. -/
def Moment.reading? (m : Moment) : Option Reading :=
  match m.action with
  | .refresh k =>
    if m.session.readErrno k = 0 then
      some
        { object := k
          record := (m.session.kstat k).record
          records := m.session.kernel.chain.recordsOf (m.session.kstat k).record
          clock := m.session.kernel.chain.clock
          snaptime := ((m.session.reading k).header k).snaptime }
    else none
  | _ => none

theorem Moment.reading?_refresh {s : Session} {k : KStatId} (hgood : s.readErrno k = 0) :
    Moment.reading? ⟨s, .refresh k⟩ =
      some
        { object := k
          record := (s.kstat k).record
          records := s.kernel.chain.recordsOf (s.kstat k).record
          clock := s.kernel.chain.clock
          snaptime := ((s.reading k).header k).snaptime } :=
  if_pos hgood

def readings (past : List Moment) : List Reading := past.filterMap Moment.reading?

/-- The latest read of a kstat that went well. -/
def latest (past : List Moment) (id : RecordId) : Option Reading :=
  ((readings past).filter (·.record = id)).getLast?

@[simp] theorem readings_append (past more : List Moment) :
    readings (past ++ more) = readings past ++ readings more :=
  List.filterMap_append

theorem latest_append_of_unread {past more : List Moment} {id : RecordId}
    (hmore : ∀ reading ∈ readings more, reading.record ≠ id) : latest (past ++ more) id = latest past id := by
  have hnone : (readings more).filter (·.record = id) = [] := by simpa using hmore
  rw [latest, readings_append, List.filter_append, hnone, List.append_nil, latest]

theorem latest_append_of_silent {past more : List Moment} (hmore : readings more = []) (id : RecordId) :
    latest (past ++ more) id = latest past id :=
  latest_append_of_unread fun _ hreading => absurd (hmore ▸ hreading) List.not_mem_nil

theorem latest_concat_of_reading {past : List Moment} {m : Moment} {reading : Reading}
    (hm : m.reading? = some reading) (id : RecordId) :
    latest (past ++ [m]) id = if reading.record = id then some reading else latest past id := by
  have hlast : readings [m] = [reading] := by simp [readings, hm]
  by_cases hid : reading.record = id
  · rw [latest, readings_append, hlast, if_pos hid]
    simp [hid]
  · rw [latest, readings_append, hlast, if_neg hid]
    simp [hid, latest]

/-- The snapshot times that the handle reported right after the reads made through an object. -/
def reported (past : List Moment) (k : KStatId) : List Int64 :=
  ((readings past).filter (·.object = k)).map Reading.snaptime

theorem reported_append (past more : List Moment) (k : KStatId) :
    reported (past ++ more) k = reported past k ++ reported more k := by
  simp [reported]

theorem reported_of_silent {past : List Moment} (hpast : readings past = []) (k : KStatId) :
    reported past k = [] := by
  simp [reported, hpast]

/-! ### What a copy remembers -/

/-- A copied kstat that holds what its latest reading brought, and no data if it was never read. -/
structure Control.Item.Holds (i : Item) (last : Option Reading) : Prop where
  data : i.data = last.map Reading.records
  ndata : ∀ reading, last = some reading → i.ndata = UInt32.ofNat reading.records.length
  snaptime : ∀ reading, last = some reading → i.snaptime = reading.clock

namespace Session

variable {s s' : Session} {past : List Moment}

@[simp] theorem facility_act (s : Session) (a : Action) :
    (s.act a).handle.facility = s.handle.facility := by
  cases a with
  | intern id => exact congrArg Handle.facility (handle_intern s id)
  | refresh k =>
    show (s.refresh k).1.handle.facility = _
    rw [handle_refresh, Handle.facility_read]
  | _ => rfl

theorem Plays.facility {actions : List Action} (h : s.Plays actions s') :
    s'.handle.facility = s.handle.facility := by
  induction h with
  | nil => rfl
  | cons _ _ ih => exact ih.trans (facility_act _ _)

/-- An action that brings no reading: the handle and the clock are left alone, and so is every object
that is there. -/
structure Quiet (s : Session) (a : Action) : Prop where
  silent : readings [⟨s, a⟩] = []
  handle : (s.act a).handle = s.handle
  clock : (s.act a).kernel.chain.clock = s.kernel.chain.clock
  objects : ∀ k < s.kstats.length, (s.act a).kstats[k]? = s.kstats[k]?

theorem quiet_intern (s : Session) (id : RecordId) : s.Quiet (.intern id) where
  silent := rfl
  handle := handle_intern s id
  clock := congrArg (·.chain.clock) (kernel_intern s id)
  objects k hk := by
    show (s.intern id).1.kstats[k]? = _
    cases hfind : s.cache.find? id with
    | some cached => rw [intern_of_find? hfind]
    | none =>
      rw [intern_of_none hfind]
      exact List.getElem?_append_left hk

theorem quiet_of_failed {k : KStatId} (hbad : s.readErrno k ≠ 0) : s.Quiet (.refresh k) where
  silent := List.filterMap_cons_none (if_neg hbad)
  handle := (handle_refresh s k).trans (Handle.read_of_failed hbad).1
  clock := (congrArg (·.chain.clock) (kernel_refresh s k)).trans (Handle.read_of_failed hbad).2
  objects i _ := by
    show (s.refresh k).1.kstats[i]? = _
    rw [refresh_eq, if_neg hbad]
    rfl

theorem quiet_or_read (s : Session) (a : Action) : s.Quiet a ∨ ∃ k, a = .refresh k ∧ s.readErrno k = 0 := by
  cases a with
  | report events => exact .inl ⟨rfl, rfl, rfl, fun _ _ => rfl⟩
  | search q =>
    have hclock := congrArg Chain.clock (Handle.chain_lookup s.kernel s.handle q)
    exact .inl ⟨rfl, rfl, hclock, fun _ _ => rfl⟩
  | pick id name =>
    have hclock := congrArg Chain.clock (Handle.chain_record? s.kernel s.handle id name)
    exact .inl ⟨rfl, rfl, hclock, fun _ _ => rfl⟩
  | intern id => exact .inl (s.quiet_intern id)
  | refresh k =>
    by_cases hread : s.readErrno k = 0
    · exact .inr ⟨k, rfl, hread⟩
    · exact .inl (quiet_of_failed hread)

/-- An object takes over what the handle reports after its reads, and no action does more to it. -/
theorem getElem?_act (s : Session) (a : Action) {k : Nat} (hk : k < s.kstats.length) :
    (s.act a).kstats[k]? =
      s.kstats[k]?.map fun kstat => (reported [⟨s, a⟩] k).foldl KStat.observe kstat := by
  rcases s.quiet_or_read a with hquiet | ⟨object, rfl, hread⟩
  · rw [hquiet.objects k hk, reported_of_silent hquiet.silent]
    exact Option.map_id'.symm
  · have hreading := Moment.reading?_refresh hread
    show (s.refresh object).1.kstats[k]? = _
    rw [refresh_eq, if_pos hread]
    simp only [report, reading]
    by_cases hobject : object = k
    · subst hobject
      rw [List.getElem?_modify_eq]
      simp [reported, readings, hreading, reading]
    · rw [List.getElem?_modify_ne _ _ hobject]
      simp [reported, readings, hreading, hobject]

/-- Through an intact handle, the chain says whether a read goes well. -/
theorem readErrno_eq (hs : s.Sound) (k : KStatId) :
    s.readErrno k = s.kernel.chain.readErrno (s.kstat k).record :=
  Handle.errno_read hs.intact s.kernel _

/-- A lookup reads what it has found, and the search before has not changed how that goes. -/
theorem readErrno_matched (hs : s.Sound) (q : Query) (id : RecordId) :
    (s.matched q id).1.readErrno (s.matched q id).2 = s.kernel.chain.readErrno id := by
  have hsound : (s.matched q id).1.Sound := sound_intern (sound_searched hs q) id
  rw [readErrno_eq hsound, (standsFor_matched hs q id).record, matched, kernel_intern]
  show (s.handle.lookup s.kernel q).1.chain.readErrno id = _
  rw [Handle.chain_lookup]
  rfl

theorem exists_control (hs : s.Sound) (hlibrary : s.handle.facility = .library) :
    ∃ control, s.handle = .library (some control) := by
  match hhandle : s.handle with
  | .live => cases hhandle ▸ hlibrary
  | .library none => exact absurd hhandle hs.intact
  | .library (some control) => exact ⟨control, rfl⟩

theorem handle_refresh_library {control : Control} (hhandle : s.handle = .library (some control))
    (k : KStatId) :
    (s.refresh k).1.handle =
      .library (some (if s.kernel.chain.readErrno (s.kstat k).record = 0
        then control.load (s.kstat k).record s.kernel.chain.clock
          (s.kernel.chain.recordsOf (s.kstat k).record)
        else control)) := by
  rw [handle_refresh, hhandle, Handle.handle_read_library]

/-- The private copy of a library handle holds the latest readings of its token. -/
def Remembers (s : Session) (past : List Moment) : Prop :=
  ∀ control, s.handle = .library (some control) →
    ∀ id item, control.item? id = some item → item.Holds (latest past id)

theorem Remembers.act (hs : s.Sound) (h : s.Remembers past) (a : Action) :
    (s.act a).Remembers (past ++ [⟨s, a⟩]) := by
  rcases s.quiet_or_read a with hquiet | ⟨k, rfl, hread⟩
  · intro control hcontrol id item hitem
    rw [latest_append_of_silent hquiet.silent]
    exact h control (hquiet.handle.symm.trans hcontrol) id item hitem
  · intro control' hcontrol' id item hitem
    have hfacility : s.handle.facility = .library := by
      rw [← s.facility_act (.refresh k), hcontrol']
      rfl
    obtain ⟨control, hcontrol⟩ := exists_control hs hfacility
    replace hcontrol' : (s.refresh k).1.handle = .library (some control') := hcontrol'
    rw [handle_refresh_library hcontrol, ← readErrno_eq hs, if_pos hread] at hcontrol'
    cases hcontrol'
    rw [latest_concat_of_reading (Moment.reading?_refresh hread)]
    rw [Control.item?_load] at hitem
    split at hitem
    · next hid =>
      obtain ⟨old, -, rfl⟩ := Option.map_eq_some_iff.1 hitem
      rw [if_pos hid.symm]
      refine ⟨rfl, fun reading hlast => ?_, fun reading hlast => ?_⟩
      · cases hlast
        rfl
      · cases hlast
        rfl
    · next hid =>
      rw [if_neg (Ne.symm hid)]
      exact h control hcontrol id item hitem

theorem Plays.latest_append {actions more : List Action} (h : s.Plays actions s')
    (hmore : readings (s'.moments more) = []) (id : RecordId) :
    latest (past ++ s.moments (actions ++ more)) id = latest (past ++ s.moments actions) id := by
  rw [h.moments_append, ← List.append_assoc, latest_append_of_silent hmore]

theorem remembers_of_ofChain {chain : Chain} (hhandle : s.handle = .library (some (.ofChain chain))) :
    s.Remembers [] := by
  intro control hcontrol id item hitem
  cases hhandle.symm.trans hcontrol
  have hitem : id.get? (chain.entries.map Control.Item.ofEntry) = some item := hitem
  rw [RecordId.map_get?] at hitem
  obtain ⟨e, -, rfl⟩ := Option.map_eq_some_iff.1 hitem
  exact ⟨rfl, fun reading hlast => (nomatch hlast), fun reading hlast => (nomatch hlast)⟩

theorem remembers_of_live (hhandle : s.handle = .live) (past : List Moment) : s.Remembers past := by
  intro control hcontrol
  cases hhandle.symm.trans hcontrol

end Session

end KernelStats
