import KernelStats.Proofs.Session.Answers

/-!
# Reads and the clock

Each read that goes well is dated by the clock and moves the clock on by one, and nothing else that a
call does touches the clock. A call makes two reads at most, so a clock that is not behind after a
call was not behind at any moment of the call either: it cannot have run over its 64 bits.

While the clock does not go back, a private copy is dated up to the clock at most, so no read of it is
older than what an object knows. An object of a library token then always has the snapshot time that
the header of its kstat has: the object takes over what each read reports, and since a kstat has one
object only, no read escapes it.
-/

namespace KernelStats

/-- A clock that is not behind after two ticks was not behind in between. -/
theorem Int64.le_of_ticks {clock : Int64} {n i j : Nat} (hn : n ≤ 2)
    (hforward : clock ≤ clock + Int64.ofNat n) (hij : i ≤ j) (hjn : j ≤ n) :
    clock + Int64.ofNat i ≤ clock + Int64.ofNat j := by
  have hlt := clock.toInt_lt
  have hge := clock.le_toInt
  have hsum : ∀ m ≤ 2, (clock + Int64.ofNat m).toInt = (clock.toInt + m).bmod (2 ^ 64) := by
    intro m hm
    rw [Int64.toInt_add, Int64.toInt_ofNat_of_lt (by omega)]
  -- a clock that ran over would be far behind
  have hroom : clock.toInt + n < 2 ^ 63 := by
    by_contra hover
    have hback : (clock.toInt + n).bmod (2 ^ 64) = clock.toInt + n - 2 ^ 64 := by
      rw [← Int.sub_mul_bmod_self_right _ 1]
      apply Int.bmod_eq_of_le <;> omega
    rw [Int64.le_iff_toInt_le, hsum n hn, hback] at hforward
    omega
  have hexact : ∀ m ≤ n, (clock.toInt + m).bmod (2 ^ 64) = clock.toInt + m := by
    intro m hm
    apply Int.bmod_eq_of_le <;> omega
  rw [Int64.le_iff_toInt_le, hsum i (by omega), hsum j (by omega), hexact i (by omega), hexact j hjn]
  omega

def Action.isRead : Action → Bool
  | .refresh _ => true
  | _ => false

namespace Session

variable {s s' : Session} {past : List Moment}

/-! ### Ticks -/

theorem clock_act (hs : s.Sound) (a : Action) :
    (s.act a).kernel.chain.clock = s.kernel.chain.clock + Int64.ofNat (readings [⟨s, a⟩]).length := by
  rcases s.quiet_or_read a with hquiet | ⟨k, rfl, hread⟩
  · simp [hquiet.silent, hquiet.clock]
  · have hclock : (s.act (.refresh k)).kernel.chain.clock = _ :=
      (congrArg (·.chain.clock) (s.kernel_refresh k)).trans (Handle.clock_read hs.intact _ _)
    rw [hclock, ← readErrno_eq hs, if_pos hread]
    simp [readings, Moment.reading?_refresh hread]

theorem readings_cons (m : Moment) (rest : List Moment) :
    readings (m :: rest) = readings [m] ++ readings rest := readings_append [m] rest

/-- Where the clock stands before and after each moment of a script, and at its end. -/
theorem Plays.clock {actions : List Action} (h : s.Plays actions s') (hs : s.Sound) :
    let clock (n : Nat) := s.kernel.chain.clock + Int64.ofNat n
    let total := (readings (s.moments actions)).length
    s'.kernel.chain.clock = clock total ∧
      ∀ m ∈ s.moments actions, ∃ i j, i ≤ j ∧ j ≤ total ∧ m.session.kernel.chain.clock = clock i ∧
        (m.session.act m.action).kernel.chain.clock = clock j := by
  induction h with
  | nil s =>
    refine ⟨?_, fun m hm => nomatch hm⟩
    simp [moments, readings]
  | @cons s s' a rest hadmits _ ih =>
    have hfirst := clock_act hs a
    obtain ⟨hlast, hbetween⟩ := ih (hadmits.move.sound hs)
    have htotal : (readings (s.moments (a :: rest))).length =
        (readings [⟨s, a⟩]).length + (readings ((s.act a).moments rest)).length := by
      rw [moments, readings_cons, List.length_append]
    simp only [hfirst, Int64.add_assoc, ← Int64.ofNat_add] at hlast hbetween
    simp only [htotal]
    refine ⟨hlast, fun m hm => ?_⟩
    rcases List.mem_cons.1 hm with rfl | hrest
    · exact ⟨0, _, Nat.zero_le _, Nat.le_add_right _ _, by simp, hfirst⟩
    · obtain ⟨i, j, hij, hj, hbefore, hafter⟩ := hbetween m hrest
      exact ⟨_, _, Nat.add_le_add_left hij _, Nat.add_le_add_left hj _, hbefore, hafter⟩

theorem length_readings_le (s : Session) (actions : List Action) :
    (readings (s.moments actions)).length ≤ actions.countP Action.isRead := by
  induction actions generalizing s with
  | nil => exact Nat.le_refl _
  | cons a rest ih =>
    rw [moments, readings_cons, List.length_append, List.countP_cons, Nat.add_comm]
    apply Nat.add_le_add (ih _)
    cases a with
    | refresh k => exact List.length_filterMap_le _ _
    | _ => exact Nat.le_refl _

/-- A call makes two reads at most: one for a lookup, and one for data that is not there. -/
theorem countP_script_le (s : Session) (r : Request) : (s.script r).countP Action.isRead ≤ 2 := by
  have hprepare : ∀ (s : Session) k, (s.prepareScript k).countP Action.isRead ≤ 1 := by
    intro s k
    unfold prepareScript
    split
    · exact Nat.le_refl 1
    · exact Nat.zero_le 1
  have hlookup : ∀ (s : Session) q, (s.lookupScript q).countP Action.isRead ≤ 1 := by
    intro s q
    unfold lookupScript
    split
    · exact Nat.zero_le 1
    · exact Nat.le_refl 1
  have hstatistic : ∀ (s : Session) k name, (s.statisticScript k name).countP Action.isRead ≤ 1 := by
    intro s k name
    unfold statisticScript
    rw [List.countP_append]
    split
    · exact hprepare s k
    · exact hprepare s k
  cases r with
  | all t =>
    have hnone : ((s.handle.walk s.kernel).map Action.intern).countP Action.isRead = 0 := by
      simp [List.countP_eq_zero, Action.isRead]
    exact Nat.le_trans (Nat.le_of_eq hnone) (Nat.zero_le 2)
  | lookup t q => exact Nat.le_succ_of_le (hlookup s q)
  | lookupStatistic t q name =>
    rw [script, lookupStatisticScript, List.countP_append]
    cases (s.lookup q).2 with
    | error f => exact Nat.add_le_add (hlookup s q) (Nat.zero_le 1)
    | ok k => exact Nat.add_le_add (hlookup s q) (hstatistic _ k name)
  | refresh k => exact Nat.le_succ 1
  | statistic k name => exact Nat.le_succ_of_le (hstatistic s k name)
  | statistics k =>
    rw [script, statisticsScript, List.countP_append]
    apply Nat.le_succ_of_le
    split
    · exact hprepare s k
    · exact hprepare s k
  | _ => exact Nat.zero_le 2

/-- If the clock is not behind after a call, it never goes back in the call. -/
theorem Plays.forward {r : Request} (h : s.Plays (s.script r) s') (hs : s.Sound)
    (hforward : s.kernel.chain.clock ≤ s'.kernel.chain.clock) {m : Moment} (hm : m ∈ s.moments (s.script r)) :
    m.session.kernel.chain.clock ≤ (m.session.act m.action).kernel.chain.clock := by
  obtain ⟨hlast, hbetween⟩ := h.clock hs
  obtain ⟨i, j, hij, hj, hbefore, hafter⟩ := hbetween m hm
  have htotal := Nat.le_trans (s.length_readings_le (s.script r)) (s.countP_script_le r)
  rw [hlast] at hforward
  rw [hbefore, hafter]
  exact Int64.le_of_ticks htotal hforward hij hj

/-! ### Dates -/

/-- The copy is dated up to the clock at most, and the objects have the dates of the copy. -/
structure Dated (s : Session) : Prop where
  elapsed : ∀ control, s.handle = .library (some control) →
    ∀ id item, control.item? id = some item → item.snaptime ≤ s.kernel.chain.clock
  shown : ∀ k id, s.StandsFor k id → (s.kstat k).snaptime = (s.handle.header s.kernel id).snaptime

section

variable {k : KStatId} {id : RecordId}

theorem header_eq_of_handle (hlibrary : s.handle.facility = .library) (hhandle : s'.handle = s.handle)
    (id : RecordId) : s'.handle.header s'.kernel id = s.handle.header s.kernel id := by
  rw [hhandle]
  match h : s.handle with
  | .live =>
    rw [h] at hlibrary
    cases hlibrary
  | .library none => rfl
  | .library (some control) => rfl

theorem Dated.meanwhile (h : s.Dated) (hlibrary : s.handle.facility = .library)
    (hmeanwhile : s.Meanwhile s') (hclock : s.kernel.chain.clock ≤ s'.kernel.chain.clock) : s'.Dated where
  elapsed control hcontrol id item hitem :=
    Int64.le_trans (h.elapsed control (hmeanwhile.handle ▸ hcontrol) id item hitem) hclock
  shown k id hk := by
    have hk := hmeanwhile.standsFor.1 hk
    rw [hmeanwhile.kstat hk, header_eq_of_handle hlibrary hmeanwhile.handle, h.shown k id hk]

theorem kstat_act (hk : s.StandsFor k id) (a : Action) :
    (s.act a).kstat k = (reported [⟨s, a⟩] k).foldl KStat.observe (s.kstat k) := by
  have hlt : k < s.kstats.length := (List.getElem?_eq_some_iff.1 hk.getElem?).1
  have hafter := s.getElem?_act a hlt
  rw [hk.getElem?, Option.map_some] at hafter
  simp only [kstat, List.getD, hafter, Option.getD_some]

theorem snaptime_refresh {control : Control} (hhandle : s.handle = .library (some control))
    (hk : s.StandsFor k id) (hgood : s.kernel.chain.readErrno id = 0) (other : RecordId) :
    ((s.act (.refresh k)).handle.header (s.act (.refresh k)).kernel other).snaptime =
      if other = id ∧ (control.item? other).isSome then s.kernel.chain.clock
      else (s.handle.header s.kernel other).snaptime := by
  rw [show (s.act (.refresh k)).handle = _ from handle_refresh_library hhandle k, hhandle, hk.record,
    if_pos hgood]
  simp only [Handle.header, Control.item?_load]
  by_cases hother : other = id
  · rw [if_pos hother]
    cases control.item? other with
    | none => simp
    | some item => simp [hother, Control.Item.load, Control.Item.header]
  · simp [hother]

theorem reported_refresh (hk : s.StandsFor k id) (hread : s.readErrno k = 0) (other : KStatId) :
    reported [⟨s, .refresh k⟩] other =
      if k = other then [((s.act (.refresh k)).handle.header (s.act (.refresh k)).kernel id).snaptime]
      else [] := by
  have hafter : (s.reading k).header k =
      (s.act (.refresh k)).handle.header (s.act (.refresh k)).kernel id := by
    rw [show (s.act (.refresh k)).handle = _ from s.handle_refresh k,
      show (s.act (.refresh k)).kernel = _ from s.kernel_refresh k]
    exact congrArg ((s.reading k).handle.header (s.reading k).kernel) hk.record
  rw [← hafter]
  rw [reported, readings, List.filterMap_cons_some (Moment.reading?_refresh hread), List.filterMap_nil]
  by_cases hother : k = other
  · simp [hother]
  · simp [hother]

theorem Dated.refresh (hs : s.Sound) (h : s.Dated) (hlibrary : s.handle.facility = .library)
    (hk : s.StandsFor k id) (hread : s.readErrno k = 0)
    (hclock : s.kernel.chain.clock ≤ (s.act (.refresh k)).kernel.chain.clock) :
    (s.act (.refresh k)).Dated := by
  obtain ⟨control, hhandle⟩ := exists_control hs hlibrary
  have hgood : s.kernel.chain.readErrno id = 0 := by
    rw [← hk.record, ← readErrno_eq hs, hread]
  have hafter : (s.act (.refresh k)).handle = _ := handle_refresh_library hhandle k
  rw [hk.record, if_pos hgood] at hafter
  refine ⟨fun control' hcontrol' other item hitem => ?_, fun k' id' hk' => ?_⟩
  · cases hafter.symm.trans hcontrol'
    apply Int64.le_trans _ hclock
    rw [Control.item?_load] at hitem
    split at hitem
    · obtain ⟨before, -, rfl⟩ := Option.map_eq_some_iff.1 hitem
      exact Int64.le_refl _
    · exact h.elapsed control hhandle other item hitem
  · have hbefore : s.StandsFor k' id' := (standsFor_of_act hk').resolve_right fun hnew => nomatch hnew.1
    rw [kstat_act hbefore, reported_refresh hk hread]
    by_cases hsame : k = k'
    · -- the object knows nothing later than what it is told now
      subst hsame
      obtain rfl : id' = id := hbefore.record.symm.trans hk.record
      have hlater : (s.kstat k).snaptime ≤
          ((s.act (.refresh k)).handle.header (s.act (.refresh k)).kernel id').snaptime := by
        rw [h.shown k id' hk, snaptime_refresh hhandle hk hgood]
        split
        · next hhere =>
          obtain ⟨item, hitem⟩ := Option.isSome_iff_exists.1 hhere.2
          rw [hhandle]
          simp only [Handle.header, hitem, Option.map_some, Option.getD_some]
          exact h.elapsed control hhandle id' item hitem
        · exact Int64.le_refl _
      rw [if_pos rfl, List.foldl_cons, List.foldl_nil, KStat.observe, if_pos hlater]
    · -- another object stands for another kstat
      have hother : id' ≠ id := fun heq => hsame (hk.unique hs (heq ▸ hbefore))
      rw [if_neg hsame, List.foldl_nil, snaptime_refresh hhandle hk hgood, if_neg fun hboth => hother hboth.1]
      exact h.shown k' id' hbefore

theorem Dated.act (hs : s.Sound) (h : s.Dated) (hlibrary : s.handle.facility = .library) {a : Action}
    (ha : s.Admits a) (hclock : s.kernel.chain.clock ≤ (s.act a).kernel.chain.clock) : (s.act a).Dated := by
  rcases s.quiet_or_read a with hquiet | ⟨k, rfl, hread⟩
  · refine ⟨fun control hcontrol id item hitem => ?_, fun k id hk => ?_⟩
    · exact Int64.le_trans (h.elapsed control (hquiet.handle ▸ hcontrol) id item hitem) hclock
    · rw [header_eq_of_handle hlibrary hquiet.handle]
      rcases standsFor_of_act hk with hold | ⟨rfl, hfind, rfl⟩
      · rw [kstat_act hold, reported_of_silent hquiet.silent]
        exact h.shown k id hold
      · rw [kstat_intern hfind]
        rfl
  · obtain ⟨id, hk⟩ := ha
    exact h.refresh hs hlibrary hk hread hclock

end

end Session

end KernelStats
