import KernelStats.Proofs.Handle.Records
import KernelStats.Proofs.Session.Script

/-!
# Error numbers from earlier calls

The error number of the kernel tells of the last call of the system library that failed, however long ago
that was. No call on a handle looks at it before one of its own has set it: a read and a close look only
after a failure, and a lookup clears it first. So a call on a session has the same outcome whatever number
was left behind, but for the number that it leaves behind itself.
-/

namespace KernelStats

/-! ### Handles -/

namespace Handle

variable {k : Kernel}

theorem length_fail (k : Kernel) (e : Errno) (h : Handle) : h.length (k.fail e) = h.length k := by
  match h with
  | live => rfl
  | library none => rfl
  | library (some control) => rfl

theorem walk_fail (k : Kernel) (e : Errno) (h : Handle) : h.walk (k.fail e) = h.walk k := by
  rw [walk_eq, walk_eq, length_fail]

theorem header_fail (k : Kernel) (e : Errno) (h : Handle) (id : RecordId) :
    h.header (k.fail e) id = h.header k id := header_congr rfl h id

theorem recordAt?_fail (k : Kernel) (e : Errno) (h : Handle) (id : RecordId) (index : Nat) :
    h.recordAt? (k.fail e) id index = h.recordAt? k id index := by
  cases h with
  | live => rfl
  | library control => rfl

theorem read_fail (k : Kernel) (e : Errno) (h : Handle) (id : RecordId) :
    ∃ e', h.read (k.fail e) id = ((h.read k id).1.fail e', (h.read k id).2) := by
  match h with
  | live => exact ⟨e, rfl⟩
  | library none => exact ⟨e, rfl⟩
  | library (some control) =>
    cases hentry : k.chain.entry? id with
    | none =>
      rw [read_library_of_none hentry, read_library_of_none (k := k.fail e) hentry]
      exact ⟨.noAddress, rfl⟩
    | some entry =>
      by_cases hgood : entry.readErrno = 0
      · rw [read_library_of_good hentry hgood, read_library_of_good (k := k.fail e) hentry hgood]
        exact ⟨e, rfl⟩
      · rw [read_library_of_bad hentry hgood, read_library_of_bad (k := k.fail e) hentry hgood]
        exact ⟨entry.readErrno, rfl⟩

theorem lookup_fail (k : Kernel) (e : Errno) (h : Handle) (q : Query) :
    ∃ e', h.lookup (k.fail e) q = ((h.lookup k q).1.fail e', (h.lookup k q).2) := by
  cases h with
  | live =>
    refine ⟨e, ?_⟩
    unfold lookup
    simp only
    cases hfind : k.chain.entries.findIdx? fun entry => q.admits entry.header.toIdentity with
    | none => simp only [Kernel.fail, hfind]
    | some index => simp only [Kernel.fail, hfind]
  -- the number is cleared before the library is asked
  | library control => exact ⟨((library control).lookup k q).1.errno, rfl⟩

theorem record?_fail (k : Kernel) (e : Errno) (h : Handle) (id : RecordId) (name : Bytes) :
    ∃ e', h.record? (k.fail e) id name = ((h.record? k id name).1.fail e', (h.record? k id name).2) := by
  cases h with
  | live =>
    refine ⟨e, ?_⟩
    unfold record?
    cases hentry : k.chain.entry? id with
    | none => simp only [Kernel.fail, hentry]
    | some entry => simp only [Kernel.fail, hentry]
  | library control =>
    unfold record? Kernel.recordControl
    simp only
    split
    · split
      · split
        · exact ⟨e, rfl⟩
        · exact ⟨.noEntry, rfl⟩
      · exact ⟨.invalid, rfl⟩
    · exact ⟨.invalid, rfl⟩

end Handle

/-- A close of the library that goes well leaves the number that was there, and otherwise its own. -/
theorem Kernel.closeControl_fail (k : Kernel) (e : Errno) :
    (∃ k', k.closeControl = (k', true) ∧ (k.fail e).closeControl = (k'.fail e, true)) ∨
      (k.fail e).closeControl = k.closeControl := by
  by_cases hgood : k.chain.closeErrno = 0
  · exact .inl ⟨_, by simp [closeControl, hgood]; rfl, by simp [closeControl, fail, hgood]⟩
  · exact .inr (by simp [closeControl, fail, hgood])

namespace Handle

theorem close_fail (k : Kernel) (e : Errno) (h : Handle) :
    ∃ e', h.close (k.fail e) = ((h.close k).1.fail e', (h.close k).2) := by
  match h with
  | live => exact ⟨e, rfl⟩
  | library none => exact ⟨e, rfl⟩
  | library (some control) =>
    rcases k.closeControl_fail e with ⟨k', hclose, hclose'⟩ | hsame
    · simp only [close, hclose, hclose']
      exact ⟨e, rfl⟩
    · simp only [close, hsame]
      exact ⟨_, rfl⟩

theorem drop_fail (k : Kernel) (e : Errno) (h : Handle) :
    ∃ e', h.drop (k.fail e) = ((h.drop k).1.fail e', (h.drop k).2) := by
  match h with
  | live => exact ⟨e, rfl⟩
  | library none => exact ⟨e, rfl⟩
  | library (some control) =>
    rcases k.closeControl_fail e with ⟨k', hclose, hclose'⟩ | hsame
    · simp only [drop, hclose, hclose']
      exact ⟨e, rfl⟩
    · simp only [drop, hsame]
      exact ⟨_, rfl⟩

end Handle

theorem Facility.openHandle_fail (k : Kernel) (e : Errno) (f : Facility) :
    ∃ e', f.openHandle (k.fail e) = { f.openHandle k with kernel := (f.openHandle k).kernel.fail e' } := by
  cases f with
  | live =>
    refine ⟨e, ?_⟩
    by_cases hgood : k.chain.openErrno = 0
    · simp [openHandle, Kernel.fail, hgood]
    · simp [openHandle, Kernel.fail, hgood]
  | library =>
    by_cases hgood : k.chain.openErrno = 0
    · exact ⟨e, by simp [openHandle, Kernel.openControl, Kernel.fail, hgood]⟩
    · exact ⟨k.chain.openErrno, by simp [openHandle, Kernel.openControl, Kernel.fail, hgood]⟩
  | unsupported => exact ⟨e, rfl⟩
  | barren => exact ⟨e, rfl⟩

/-! ### Sessions -/

namespace Session

def withErrno (s : Session) (e : Errno) : Session := { s with kernel := s.kernel.fail e }

/-- Two outcomes of a call that differ in the error number that is left behind at most. -/
def SameButErrno {α : Type} (o o' : Session × α) : Prop := ∃ e, o' = (o.1.withErrno e, o.2)

section

variable (s : Session) (e : Errno) (k : KStatId)

theorem header_withErrno : (s.withErrno e).header k = s.header k := Handle.header_fail s.kernel e s.handle _

theorem answer_withErrno {α : Type} (r : Except Failure α) :
    (s.withErrno e).answer r = ((s.answer r).1.withErrno e, (s.answer r).2) := by
  cases r with
  | ok a => rfl
  | error f => rfl

theorem statisticAt_withErrno (count index : Nat) :
    (s.withErrno e).statisticAt k count index = s.statisticAt k count index := by
  have hrecord : (s.withErrno e).handle.recordAt? (s.withErrno e).kernel ((s.withErrno e).kstat k).record index =
      s.handle.recordAt? s.kernel (s.kstat k).record index :=
    Handle.recordAt?_fail s.kernel e s.handle _ index
  rw [statisticAt, statisticAt, hrecord]
  rfl

theorem searched_withErrno (q : Query) :
    ∃ e₁, (s.withErrno e).searched q = (s.searched q).withErrno e₁ ∧
      ((s.withErrno e).handle.lookup (s.withErrno e).kernel q).2 = (s.handle.lookup s.kernel q).2 := by
  obtain ⟨e₁, hlookup⟩ := Handle.lookup_fail s.kernel e s.handle q
  exact ⟨e₁, congrArg (fun o => { s with kernel := o.1 }) hlookup, congrArg (·.2) hlookup⟩

theorem picked_withErrno (id : RecordId) (name : Bytes) :
    ∃ e₁, (s.withErrno e).picked id name = (s.picked id name).withErrno e₁ ∧
      ((s.withErrno e).handle.record? (s.withErrno e).kernel id name).2 =
        (s.handle.record? s.kernel id name).2 := by
  obtain ⟨e₁, hrecord⟩ := Handle.record?_fail s.kernel e s.handle id name
  exact ⟨e₁, congrArg (fun o => { s with kernel := o.1 }) hrecord, congrArg (·.2) hrecord⟩

theorem reading_withErrno :
    ∃ e₁, (s.withErrno e).reading k = (s.reading k).withErrno e₁ ∧
      (s.withErrno e).readErrno k = s.readErrno k := by
  obtain ⟨e₁, hread⟩ := Handle.read_fail s.kernel e s.handle (s.kstat k).record
  exact ⟨e₁, congrArg (fun o => { s with kernel := o.1, handle := o.2.1 }) hread,
    congrArg (·.2.2) hread⟩

end

theorem intern_withErrno (s : Session) (e : Errno) (id : RecordId) :
    SameButErrno (s.intern id) ((s.withErrno e).intern id) := by
  refine ⟨e, ?_⟩
  cases hfind : s.cache.find? id with
  | some k => rw [intern_of_find? hfind, intern_of_find? (s := s.withErrno e) hfind]
  | none =>
    have hheader : (s.withErrno e).handle.header (s.withErrno e).kernel id = s.handle.header s.kernel id :=
      Handle.header_fail s.kernel e s.handle id
    rw [intern_of_none hfind, intern_of_none (s := s.withErrno e) hfind, hheader]
    rfl

theorem internAll_withErrno (s : Session) (e : Errno) (ids : List RecordId) :
    SameButErrno (s.internAll ids) ((s.withErrno e).internAll ids) := by
  induction ids generalizing s e with
  | nil => exact ⟨e, rfl⟩
  | cons id ids ih =>
    obtain ⟨e₁, hfirst⟩ := s.intern_withErrno e id
    obtain ⟨e₂, hrest⟩ := ih (s.intern id).1 e₁
    refine ⟨e₂, ?_⟩
    rw [internAll_cons, internAll_cons, hfirst, hrest]

theorem all_withErrno (s : Session) (e : Errno) : SameButErrno s.all (s.withErrno e).all := by
  have hwalk : (s.withErrno e).handle.walk (s.withErrno e).kernel = s.handle.walk s.kernel :=
    Handle.walk_fail s.kernel e s.handle
  rw [all, all, hwalk]
  exact s.internAll_withErrno e _

theorem refresh_withErrno (s : Session) (e : Errno) (k : KStatId) :
    SameButErrno (s.refresh k) ((s.withErrno e).refresh k) := by
  obtain ⟨e₁, hreading, herrno⟩ := s.reading_withErrno e k
  refine ⟨e₁, ?_⟩
  rw [refresh_eq, refresh_eq, herrno, hreading, header_withErrno]
  by_cases hgood : s.readErrno k = 0
  · rw [if_pos hgood, if_pos hgood]
    rfl
  · rw [if_neg hgood, if_neg hgood]
    rfl

theorem lookup_withErrno (s : Session) (e : Errno) (q : Query) :
    SameButErrno (s.lookup q) ((s.withErrno e).lookup q) := by
  obtain ⟨e₁, hsearched, hfound⟩ := s.searched_withErrno e q
  cases hlookup : (s.handle.lookup s.kernel q).2 with
  | error errno =>
    refine ⟨e₁, ?_⟩
    rw [lookup_of_error hlookup, lookup_of_error (hfound.trans hlookup), hsearched]
  | ok id =>
    obtain ⟨e₂, hintern⟩ := (s.searched q).intern_withErrno e₁ id
    have hmatched : (s.withErrno e).matched q id = ((s.matched q id).1.withErrno e₂, (s.matched q id).2) := by
      rw [matched, hsearched]
      exact hintern
    obtain ⟨e₃, hrefresh⟩ := (s.matched q id).1.refresh_withErrno e₂ (s.matched q id).2
    refine ⟨e₃, ?_⟩
    rw [lookup_of_ok hlookup, lookup_of_ok (hfound.trans hlookup), hmatched, hrefresh]

theorem prepare_withErrno (s : Session) (e : Errno) (k : KStatId) :
    SameButErrno (s.prepare k) ((s.withErrno e).prepare k) := by
  by_cases htype : (s.kstat k).identity.type = .named
  · cases hdata : (s.header k).hasData with
    | true =>
      refine ⟨e, ?_⟩
      rw [prepare_of_data htype hdata,
        prepare_of_data (s := s.withErrno e) htype ((s.header_withErrno e k).symm ▸ hdata)]
    | false =>
      rw [prepare_of_no_data htype hdata,
        prepare_of_no_data (s := s.withErrno e) htype ((s.header_withErrno e k).symm ▸ hdata)]
      exact s.refresh_withErrno e k
  · refine ⟨e, ?_⟩
    rw [prepare_of_unnamed htype, prepare_of_unnamed (s := s.withErrno e) htype]
    rfl

theorem statistic_withErrno (s : Session) (e : Errno) (k : KStatId) (name : Bytes) :
    SameButErrno (s.statistic k name) ((s.withErrno e).statistic k name) := by
  obtain ⟨e₁, hprepare⟩ := s.prepare_withErrno e k
  cases hready : (s.prepare k).2 with
  | error f =>
    refine ⟨e₁, ?_⟩
    rw [statistic_of_error hready, statistic_of_error ((congrArg Prod.snd hprepare).trans hready), hprepare]
  | ok _ =>
    obtain ⟨e₂, hpicked, hrecord⟩ :=
      (s.prepare k).1.picked_withErrno e₁ ((s.prepare k).1.kstat k).record name
    refine ⟨e₂, ?_⟩
    rw [statistic_of_ok hready, statistic_of_ok ((congrArg Prod.snd hprepare).trans hready), hprepare]
    simp only
    rw [← answer_withErrno, ← hpicked, ← hrecord]
    rfl

theorem statistics_withErrno (s : Session) (e : Errno) (k : KStatId) :
    SameButErrno (s.statistics k) ((s.withErrno e).statistics k) := by
  obtain ⟨e₁, hprepare⟩ := s.prepare_withErrno e k
  refine ⟨e₁, ?_⟩
  cases hready : (s.prepare k).2 with
  | error f =>
    rw [statistics_of_error hready, statistics_of_error ((congrArg Prod.snd hprepare).trans hready), hprepare]
  | ok _ =>
    have hcollect : ∀ count, ((s.prepare k).1.withErrno e₁).statisticAt k count =
        (s.prepare k).1.statisticAt k count := fun count => funext fun index =>
      (s.prepare k).1.statisticAt_withErrno e₁ k count index
    rw [statistics_of_ok hready, statistics_of_ok ((congrArg Prod.snd hprepare).trans hready), hprepare]
    simp only
    rw [← answer_withErrno, header_withErrno, hcollect]

theorem lookupStatistic_withErrno (s : Session) (e : Errno) (q : Query) (name : Bytes) :
    SameButErrno (s.lookupStatistic q name) ((s.withErrno e).lookupStatistic q name) := by
  obtain ⟨e₁, hlookup⟩ := s.lookup_withErrno e q
  cases hfound : (s.lookup q).2 with
  | error f =>
    refine ⟨e₁, ?_⟩
    rw [lookupStatistic_of_error hfound,
      lookupStatistic_of_error ((congrArg Prod.snd hlookup).trans hfound), hlookup]
  | ok k =>
    obtain ⟨e₂, hstatistic⟩ := (s.lookup q).1.statistic_withErrno e₁ k name
    refine ⟨e₂, ?_⟩
    rw [lookupStatistic_of_ok hfound, lookupStatistic_of_ok ((congrArg Prod.snd hlookup).trans hfound),
      hlookup, hstatistic]

end Session

end KernelStats
