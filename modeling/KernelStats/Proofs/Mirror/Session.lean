import KernelStats.Proofs.Mirror.Handle
import KernelStats.Proofs.Session.Calls

/-!
# Two sessions that cannot be told apart

A session on a live handle and one on a library handle that mirrors it have the same cache, the same
objects and the same log. Each call is shown to give both the same result and to leave them as they
were to each other. The calls are put together from others, and so are the proofs.
-/

namespace KernelStats

namespace Session

/-- A session on a live handle, and one on a library handle that mirrors it. -/
structure Mirrors (s s' : Session) : Prop where
  token : s'.token = s.token
  cache : s'.cache = s.cache
  kstats : s'.kstats = s.kstats
  log : s'.log = s.log
  live : s.handle = .live
  control : ∃ control, s'.handle = .library (some control) ∧ control.Mirrors s.kernel s'.kernel
  shown : ∀ kstat ∈ s.kstats, s.kernel.chain.identity? kstat.record = some kstat.identity

/-- Two calls with the same result, whose sessions mirror one another afterwards. -/
structure Agree {α : Type} (o o' : Session × α) : Prop where
  result : o'.2 = o.2
  session : o.1.Mirrors o'.1

section

variable {s s' : Session}

/-! ### What is asked of the handle -/

theorem Mirrors.kstat (h : s.Mirrors s') (k : KStatId) : s'.kstat k = s.kstat k := by
  simp only [Session.kstat, h.kstats]

theorem Mirrors.walk (h : s.Mirrors s') : s'.handle.walk s'.kernel = s.handle.walk s.kernel := by
  obtain ⟨control, hhandle, hmirrors⟩ := h.control
  rw [hhandle, h.live, hmirrors.walk_eq]

theorem Mirrors.handleHeader (h : s.Mirrors s') (id : RecordId) :
    s'.handle.header s'.kernel id = s.handle.header s.kernel id := by
  obtain ⟨control, hhandle, hmirrors⟩ := h.control
  rw [hhandle, h.live, hmirrors.header_eq]

theorem Mirrors.header (h : s.Mirrors s') (k : KStatId) : s'.header k = s.header k := by
  rw [Session.header, Session.header, h.handleHeader, h.kstat]

theorem Mirrors.report (h : s.Mirrors s') (events : List Event) :
    (s.report events).Mirrors (s'.report events) :=
  { h with log := congrArg (· ++ events) h.log }

theorem Mirrors.answer {α : Type} (h : s.Mirrors s') (r : Except Failure α) :
    Agree (s.answer r) (s'.answer r) := by
  cases r with
  | ok a => exact ⟨rfl, h⟩
  | error f => exact ⟨rfl, h.report f.alarms⟩

/-! ### Objects -/

theorem identity?_of_mem_walk {k : Kernel} {id : RecordId} (hid : id ∈ Handle.live.walk k) :
    k.chain.identity? id = some (Handle.live.header k id).toIdentity := by
  obtain ⟨i, hlt, rfl⟩ := Handle.mem_walk.1 hid
  have hentry : k.chain.entry? (.ofIndex i) = some k.chain.entries[i] := List.getElem?_eq_getElem hlt
  simp only [Chain.identity?, Handle.header, hentry]
  rfl

theorem Mirrors.intern (h : s.Mirrors s') {id : RecordId} (hid : id ∈ s.handle.walk s.kernel) :
    Agree (s.intern id) (s'.intern id) := by
  have hcache := h.cache
  cases hfind : s.cache.find? id with
  | some k =>
    rw [intern_of_find? hfind, intern_of_find? (hcache.symm ▸ hfind)]
    exact ⟨rfl, h⟩
  | none =>
    rw [intern_of_none hfind, intern_of_none (hcache.symm ▸ hfind), h.handleHeader, h.kstats, h.token, hcache]
    refine ⟨rfl, Mirrors.report ?_ _⟩
    refine ⟨rfl, rfl, rfl, h.log, h.live, h.control, fun kstat hkstat => ?_⟩
    rcases List.mem_append.1 hkstat with hold | hnew
    · exact h.shown kstat hold
    · rw [List.mem_singleton.1 hnew, h.live]
      rw [h.live] at hid
      exact identity?_of_mem_walk hid

theorem Mirrors.internAll (h : s.Mirrors s') {ids : List RecordId}
    (hids : ∀ id ∈ ids, id ∈ s.handle.walk s.kernel) : Agree (s.internAll ids) (s'.internAll ids) := by
  induction ids generalizing s s' with
  | nil => exact ⟨rfl, h⟩
  | cons id ids ih =>
    obtain ⟨hfirst, hsession⟩ := h.intern (hids id List.mem_cons_self)
    have hrest : ∀ other ∈ ids, other ∈ (s.intern id).1.handle.walk (s.intern id).1.kernel := by
      intro other hother
      rw [handle_intern, kernel_intern]
      exact hids other (List.mem_cons_of_mem _ hother)
    obtain ⟨hresult, hlast⟩ := ih hsession hrest
    rw [internAll_cons, internAll_cons, hfirst, hresult]
    exact ⟨rfl, hlast⟩

theorem Mirrors.all (h : s.Mirrors s') : Agree s.all s'.all := by
  rw [Session.all, Session.all, h.walk]
  exact h.internAll fun _ hid => hid

/-! ### Reads -/

theorem Mirrors.reading (h : s.Mirrors s') (k : KStatId) :
    (s.reading k).Mirrors (s'.reading k) ∧ s'.readErrno k = s.readErrno k := by
  obtain ⟨control, hhandle, hmirrors⟩ := h.control
  obtain ⟨control', kernel, e, hread', hread, hmirrors'⟩ := hmirrors.read (s.kstat k).record
  have hkept : ∀ id, (s.reading k).kernel.chain.identity? id = s.kernel.chain.identity? id := by
    intro id
    simp only [Session.reading, h.live]
    exact (Chain.touched_read _ _).identity? id
  have herrno : s'.readErrno k = s.readErrno k := by
    simp only [Session.readErrno, h.kstat, hhandle, h.live, hread', hread]
  refine ⟨⟨h.token, h.cache, h.kstats, h.log, ?_, ⟨control', ?_⟩, ?_⟩, herrno⟩
  · simp only [Session.reading, h.live, hread]
  · have hhandle' : (s'.reading k).handle = .library (some control') := by
      simp only [Session.reading, h.kstat, hhandle, hread']
    have hkernel' : (s'.reading k).kernel = kernel := by
      simp only [Session.reading, h.kstat, hhandle, hread']
    have hkernel : (s.reading k).kernel = (Handle.live.read s.kernel (s.kstat k).record).1 := by
      simp only [Session.reading, h.live]
    refine ⟨hhandle', ?_⟩
    rw [hkernel, hkernel']
    exact hmirrors'
  · intro kstat hkstat
    rw [hkept]
    exact h.shown kstat hkstat

theorem Mirrors.observe (h : s.Mirrors s') (k : KStatId) (snaptime : Int64) :
    ({ s with kstats := s.kstats.modify k (·.observe snaptime) } : Session).Mirrors
      { s' with kstats := s'.kstats.modify k (·.observe snaptime) } := by
  refine { h with kstats := congrArg (·.modify k (·.observe snaptime)) h.kstats, shown := ?_ }
  intro kstat hkstat
  -- what is shown of an object is its record and its identity, and both stay
  have hview : ∀ kstat : KStat, ((kstat.observe snaptime).record, (kstat.observe snaptime).identity) =
      (kstat.record, kstat.identity) := fun kstat =>
    Prod.ext (kstat.becomes_observe snaptime).record (kstat.identity_observe snaptime)
  have hmem : (kstat.record, kstat.identity) ∈
      (s.kstats.modify k (·.observe snaptime)).map fun kstat => (kstat.record, kstat.identity) :=
    List.mem_map_of_mem hkstat
  rw [map_modify _ hview] at hmem
  obtain ⟨old, hold, hsame⟩ := List.mem_map.1 hmem
  obtain ⟨hrecord, hidentity⟩ := Prod.mk.inj hsame
  rw [← hrecord, ← hidentity]
  exact h.shown old hold

theorem Mirrors.refresh (h : s.Mirrors s') (k : KStatId) : Agree (s.refresh k) (s'.refresh k) := by
  obtain ⟨hreading, herrno⟩ := h.reading k
  rw [refresh_eq, refresh_eq, herrno, h.kstat, hreading.header]
  by_cases hgood : s.readErrno k = 0
  · rw [if_pos hgood, if_pos hgood]
    exact ⟨rfl, (hreading.observe k _).report _⟩
  · rw [if_neg hgood, if_neg hgood]
    exact ⟨rfl, hreading.report _⟩

/-! ### Lookups -/

theorem Mirrors.searched (h : s.Mirrors s') (q : Query) : (s.searched q).Mirrors (s'.searched q) := by
  obtain ⟨control, hhandle, hmirrors⟩ := h.control
  have hafter := hmirrors.lookup q
  refine { h with control := ⟨control, hhandle, ?_⟩, shown := fun kstat hkstat => ?_ }
  · rw [Session.searched, Session.searched, h.live, hhandle]
    exact hafter
  · rw [← h.shown kstat hkstat, Session.searched, Handle.chain_lookup]
    rfl

theorem Mirrors.found (h : s.Mirrors s') {q : Query} (hq : q.Fits) :
    (s'.handle.lookup s'.kernel q).2 = (s.handle.lookup s.kernel q).2 := by
  obtain ⟨control, hhandle, hmirrors⟩ := h.control
  rw [hhandle, h.live, hmirrors.lookup_eq hq]

theorem Mirrors.lookup (h : s.Mirrors s') {q : Query} (hq : q.Fits) :
    Agree (s.lookup q) (s'.lookup q) := by
  have hfound := h.found hq
  cases hlookup : (s.handle.lookup s.kernel q).2 with
  | error e =>
    rw [lookup_of_error hlookup, lookup_of_error (hfound.trans hlookup)]
    exact ⟨rfl, h.searched q⟩
  | ok id =>
    rw [lookup_of_ok hlookup, lookup_of_ok (hfound.trans hlookup)]
    obtain ⟨hobject, hmatched⟩ := (h.searched q).intern (mem_walk_searched hlookup)
    have hobject' : (s'.matched q id).2 = (s.matched q id).2 := hobject
    obtain ⟨hread, hsession⟩ := Mirrors.refresh hmatched (s.matched q id).2
    rw [hobject']
    exact ⟨congrArg (Except.map fun _ => (s.matched q id).2) hread, hsession⟩

/-! ### Statistics -/

theorem Mirrors.prepare (h : s.Mirrors s') (k : KStatId) : Agree (s.prepare k) (s'.prepare k) := by
  rw [Session.prepare, Session.prepare, h.kstat, h.header]
  by_cases htype : (s.kstat k).identity.type = .named
  · rw [if_pos htype, if_pos htype]
    cases (s.header k).hasData with
    | true => exact ⟨rfl, h⟩
    | false => exact h.refresh k
  · rw [if_neg htype, if_neg htype]
    exact ⟨rfl, h⟩

theorem Mirrors.picked (h : s.Mirrors s') (id : RecordId) (name : Bytes) :
    (s.picked id name).Mirrors (s'.picked id name) := by
  obtain ⟨control, hhandle, hmirrors⟩ := h.control
  have hafter := hmirrors.record? id name
  refine { h with control := ⟨control, hhandle, ?_⟩, shown := fun kstat hkstat => ?_ }
  · rw [Session.picked, Session.picked, h.live, hhandle]
    exact hafter
  · rw [← h.shown kstat hkstat, Session.picked, Handle.chain_record?]

theorem Mirrors.named (h : s.Mirrors s') {k : KStatId} {id : RecordId} (hk : s.StandsFor k id)
    (htype : (s.kstat k).identity.type = .named) (i : Identity)
    (hi : s.kernel.chain.identity? (s.kstat k).record = some i) : i.type = .named := by
  have hshown := h.shown (s.kstat k) (List.mem_of_getElem? hk.getElem?)
  rw [hi] at hshown
  rwa [Option.some.inj hshown]

theorem Mirrors.decode (h : s.Mirrors s') (k : KStatId) (r : Record) : s'.decode k r = s.decode k r := by
  rw [Session.decode, Session.decode, h.kstat]

theorem Mirrors.record?_eq (h : s.Mirrors s') {k : KStatId} {id : RecordId} (hk : s.StandsFor k id)
    (htype : (s.kstat k).identity.type = .named) {name : Bytes} (hname : (0 : UInt8) ∉ name) :
    (s'.handle.record? s'.kernel (s.kstat k).record name).2 =
      (s.handle.record? s.kernel (s.kstat k).record name).2 := by
  obtain ⟨control, hhandle, hmirrors⟩ := h.control
  rw [hhandle, h.live]
  exact hmirrors.record?_eq (h.named hk htype) hname

theorem Mirrors.statisticAt (h : s.Mirrors s') {k : KStatId} {id : RecordId} (hk : s.StandsFor k id)
    (htype : (s.kstat k).identity.type = .named) {index : Nat}
    (hindex : index < (s.header k).ndata.toNat) (count : Nat) :
    s'.statisticAt k count index = s.statisticAt k count index := by
  obtain ⟨control, hhandle, hmirrors⟩ := h.control
  rw [Session.header, h.live] at hindex
  have hrecord := hmirrors.recordAt?_eq (h.named hk htype) hindex
  simp only [Session.statisticAt, h.kstat, h.decode]
  rw [hhandle, h.live, hrecord]

theorem Mirrors.statistic (h : s.Mirrors s') {k : KStatId} {id : RecordId} (hk : s.StandsFor k id)
    {name : Bytes} (hname : (0 : UInt8) ∉ name) : Agree (s.statistic k name) (s'.statistic k name) := by
  obtain ⟨hresult, hready⟩ := h.prepare k
  cases hprepare : (s.prepare k).2 with
  | error f =>
    rw [statistic_of_error hprepare, statistic_of_error (hresult.trans hprepare)]
    exact ⟨rfl, hready⟩
  | ok _ =>
    have hstands := (moves_prepare hk).advances.standsFor hk
    have hrecord := hready.record?_eq hstands (named_of_prepare hk hprepare) hname
    rw [statistic_of_ok hprepare, statistic_of_ok (hresult.trans hprepare)]
    simp only [hready.kstat, hready.decode, hrecord]
    exact (hready.picked _ name).answer _

theorem Mirrors.statistics (h : s.Mirrors s') {k : KStatId} {id : RecordId} (hk : s.StandsFor k id) :
    Agree (s.statistics k) (s'.statistics k) := by
  obtain ⟨hresult, hready⟩ := h.prepare k
  cases hprepare : (s.prepare k).2 with
  | error f =>
    rw [statistics_of_error hprepare, statistics_of_error (hresult.trans hprepare)]
    exact ⟨rfl, hready⟩
  | ok _ =>
    have hstands := (moves_prepare hk).advances.standsFor hk
    have htype := named_of_prepare hk hprepare
    have hcollect : ∀ count, count = ((s.prepare k).1.header k).ndata.toNat →
        collect ((s'.prepare k).1.statisticAt k count) count 0 =
          collect ((s.prepare k).1.statisticAt k count) count 0 := by
      intro count hcount
      apply collect_congr
      intro i _ hi
      exact hready.statisticAt hstands htype (by omega) count
    rw [statistics_of_ok hprepare, statistics_of_ok (hresult.trans hprepare)]
    simp only [hready.header, hcollect _ rfl]
    exact hready.answer _

theorem Mirrors.lookupStatistic (h : s.Mirrors s') (hs : s.Sound) {q : Query} (hq : q.Fits)
    {name : Bytes} (hname : (0 : UInt8) ∉ name) :
    Agree (s.lookupStatistic q name) (s'.lookupStatistic q name) := by
  obtain ⟨hresult, hfound⟩ := h.lookup hq
  cases hlookup : (s.lookup q).2 with
  | error f =>
    rw [lookupStatistic_of_error hlookup, lookupStatistic_of_error (hresult.trans hlookup)]
    exact ⟨rfl, hfound⟩
  | ok k =>
    obtain ⟨id, -, hk⟩ := standsFor_lookup hs hlookup
    rw [lookupStatistic_of_ok hlookup, lookupStatistic_of_ok (hresult.trans hlookup)]
    exact hfound.statistic hk hname

end

end Session

end KernelStats
