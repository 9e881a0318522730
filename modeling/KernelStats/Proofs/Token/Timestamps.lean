import KernelStats.Proofs.Session.Timing
import KernelStats.Proofs.Token.HandedOut
import KernelStats.Proofs.Token.OneRead

/-!
# Values and their times

The snapshot time that is shown with a statistic is not kept with the statistic, it is that of the
object at the time of showing. While the clock does not go back, the two still belong together when a
statistic is handed out: the object has the date of the copy that the value was taken from.
-/

namespace KernelStats

namespace Client

/-- A request after which the clock is not behind. It would be if it was set back, or if the reads made
it run over its 64 bits. -/
def Forward (c : Client) (r : Request) : Prop :=
  c.kernel.chain.clock ≤ (c.perform r).client.kernel.chain.clock

/-- A request that copies the chain, if at all, when no kstat is dated later than the clock. -/
def InTime (c : Client) (r : Request) : Prop :=
  r = .openToken (some .library) → ∀ e ∈ c.kernel.chain.entries, e.header.snaptime ≤ c.kernel.chain.clock

instance (c : Client) (r : Request) : Decidable (c.Forward r) := inferInstanceAs (Decidable (_ ≤ _))

instance (c : Client) (r : Request) : Decidable (c.InTime r) := inferInstanceAs (Decidable (_ → _))

section

variable {c : Client} {t : TokenId} {s : Session} {r : Request}

theorem Forward.moments (hforward : c.Forward r) (hc : c.WellFormed) {m : Moment} (hm : m ∈ c.moments t r) :
    m.session.kernel.chain.clock ≤ (m.session.act m.action).kernel.chain.clock := by
  by_cases hr : c.addressee r = some t
  · cases hs : c.session? t with
    | none =>
      rw [moments_of_none hs] at hm
      cases hm
    | some s =>
      rw [moments_of_session? hs hr] at hm
      have hclose : r ≠ .close t := by
        rintro rfl
        cases hm
      have hdestroy : r ≠ .destroy t := by
        rintro rfl
        cases hm
      have hplays := plays_of_session? hc hs hr
      refine hplays.forward (hc.sound hs) ?_ hm
      rw [Forward, perform_of_session? hc hs hr hclose hdestroy, ← kernel_of_session? hs] at hforward
      exact hforward
  · rw [moments_of_ne hr] at hm
    cases hm

theorem dated_of_open {f : Facility} {handle : Handle} (hhandle : (f.openHandle c.kernel).handle = some handle)
    (hintime : c.InTime (.openToken (some f))) (hnone : ∀ kstat ∈ c.kstats, kstat.token ≠ t) :
    (c.newSession t f handle).Dated where
  elapsed control hcontrol id item hitem := by
    obtain ⟨opens, hchain⟩ := f.chain_openHandle c.kernel
    rcases Facility.handle_openHandle hhandle with ⟨-, rfl⟩ | ⟨rfl, rfl⟩
    · cases hcontrol
    · cases hcontrol
      show item.snaptime ≤ (Facility.openHandle c.kernel .library).kernel.chain.clock
      rw [hchain]
      have hitem : id.get? (c.kernel.chain.entries.map Control.Item.ofEntry) = some item := hitem
      rw [RecordId.map_get?] at hitem
      obtain ⟨e, he, rfl⟩ := Option.map_eq_some_iff.1 hitem
      exact hintime rfl e (RecordId.mem_of_get? he)
  shown k id hk := by
    obtain ⟨kstat, hkstat, horigin⟩ := Option.map_eq_some_iff.1 ((List.getElem?_map ..).symm.trans hk)
    exact absurd (congrArg Prod.fst horigin) (hnone kstat (List.mem_of_getElem? hkstat))

/-- The dates of a library token are right after every run in which the clock does not go back. -/
theorem dated_run (kernel : Kernel) {requests : List Request}
    (halong : Along (fun c r => c.Forward r ∧ c.InTime r) { kernel } requests)
    (hs : (run { kernel } requests).session? t = some s) (hlibrary : s.handle.facility = .library) :
    s.Dated := by
  revert hlibrary
  refine session_induction (fun s _ => s.handle.facility = .library → s.Dated) ?_ ?_ ?_ ?_ kernel halong hs
  · intro c f handle hc hopen hhandle ht _
    exact dated_of_open hhandle hopen.2 fun kstat hkstat => Nat.ne_of_lt (ht ▸ hc.owned kstat hkstat)
  · intro c r s s' past hc hr hmeanwhile hbefore hafter hdated hlibrary
    rw [hmeanwhile.handle] at hlibrary
    refine (hdated hlibrary).meanwhile hlibrary hmeanwhile ?_
    rw [hbefore, hafter]
    exact hr.1
  · intro c r m past hc hr hm hsound hadmits hdated hlibrary
    rw [Session.facility_act] at hlibrary
    exact (hdated hlibrary).act hsound hlibrary hadmits (hr.1.moments hc hm)
  · intro s past hdated hlibrary
    exact ⟨(hdated hlibrary).elapsed, (hdated hlibrary).shown⟩

theorem snaptime_of_explains {past : List Moment} (hbacked : s.Backed past) (hdated : s.Dated)
    {k : KStatId} {id : RecordId} {reading : Reading} (hk : s.StandsFor k id)
    (hlast : latest past id = some reading) : (s.kstat k).snaptime = reading.clock := by
  obtain ⟨control, item, hhandle, hitem, hholds, -⟩ := hbacked.item hk
  rw [hdated.shown k id hk, hhandle, ← hholds.snaptime reading hlast]
  simp only [Handle.header, hitem, Option.map_some, Option.getD_some, Control.Item.header]

end

/-- **Values and their times belong together.** Take a run in which the clock does not go back and the
chain is copied only when nothing on it is dated later than the clock. Then each object that an open
library token has cached knows the time that the handle's own header gives for its kstat, and a
statistic that is handed out is shown with the time of the very read that brought its value. -/
theorem timestamps_belong_to_values (kernel : Kernel) (requests : List Request) (t : TokenId)
    (halong : Along (fun c r => c.Forward r ∧ c.InTime r) { kernel } requests)
    (hlibrary : (run { kernel } requests).facility? t = some .library) :
    let now := run { kernel } requests
    let past := gather (moments t) { kernel } requests
    (∀ token handle id k, now.tokens[t]? = some token → token.handle = some handle →
      token.cache.find? id = some k →
      ∃ kstat, now.kstat? k = some kstat ∧ kstat.origin = (t, id) ∧
        kstat.snaptime = (handle.header now.kernel id).snaptime) ∧
    (∀ r, now.addressee r = some t → now.Forward r → ∀ one ∈ (now.perform r).result.values,
      ∃ k kstat reading record, one.parent = some k ∧ (now.perform r).client.kstat? k = some kstat ∧
        latest (past ++ now.moments t r) kstat.record = some reading ∧
        record ∈ reading.records ∧ record.decode (some (k, kstat.identity)) = .ok one ∧
        ((now.perform r).client.document one).lookup "snaptime" = some (.int reading.clock)) := by
  intro now past
  have hnow : now.WellFormed := (WellFormed.start kernel).run requests
  obtain ⟨s, hs, hfacility⟩ := facility?_eq_some_iff.1 hlibrary
  have hdated := dated_run kernel halong hs hfacility
  refine ⟨fun token handle id k htoken hhandle hcached => ?_, fun r hr hforward one hone => ?_⟩
  · obtain ⟨token', handle', htoken', hhandle', rfl⟩ := session?_eq_some_iff.1 hs
    obtain rfl : token = token' := Option.some.inj (htoken.symm.trans htoken')
    obtain rfl : handle = handle' := Option.some.inj (hhandle.symm.trans hhandle')
    have hstands := ((hnow.sound hs).indexed.find?_iff id k).1 hcached
    exact ⟨_, Session.StandsFor.getElem? hstands, Session.StandsFor.origin hstands, hdated.shown k id hstands⟩
  · have hbacked : s.Backed past := backed_run kernel requests hs hfacility
    obtain ⟨hkstats, k, id, reading, record, hparent, hstands, hlast, hrecord, hdecode⟩ :=
      explains_perform hnow hs hbacked hr hone
    have hobject : ∀ k, r.object? = some k → ∃ id, s.StandsFor k id := fun k hk =>
      standsFor_of_addressee hs hr hk
    have hplays := Session.plays_serve (hnow.sound hs) hobject
    -- the session after the call, as the run leads to it
    have htoken := hplays.moves.advances.token.trans (token_of_session? hs)
    have hafter : (run { kernel } (requests ++ [r])).session? t = some { (s.serve r).1 with log := [] } := by
      rw [run_append]
      show (now.perform r).client.session? t = _
      rw [served_of_values hnow hs hr hone, served, session?_settle hs htoken]
    have hfacility' : (s.serve r).1.handle.facility = .library := (hbacked.plays hplays).library
    have hbacked' := backed_run kernel (requests ++ [r]) hafter hfacility'
    have hintime : now.InTime r := by
      rintro rfl
      cases hr
    have halong' : Along (fun c r => c.Forward r ∧ c.InTime r) { kernel } (requests ++ [r]) :=
      along_append.2 ⟨halong, ⟨hforward, hintime⟩, trivial⟩
    have hdated' := dated_run kernel halong' hafter hfacility'
    rw [gather_concat] at hbacked'
    have hkept := hstands.getElem?
    rw [← hkstats] at hkept
    refine ⟨k, _, reading, record, hparent, hkept, ?_, hrecord, hdecode, ?_⟩
    · rw [Session.StandsFor.record hstands, hlast]
    · rw [document_snaptime hparent hkept]
      exact congrArg (fun time => some (Value.int time)) (snaptime_of_explains hbacked' hdated' hstands hlast)

/-- The time is that of the read, not that of an edit which dates the kstat anew on the chain. -/
theorem timestamps_belong_to_values_after_edits :
    let requests : List Request :=
      [.openToken (some .library), .lookup 0 ⟨[], Query.anyInstance, []⟩,
        .edit (.set (some 2000) none none none), .edit (.amend 0 { snaptime := some 3000 })]
    let now := run { kernel := { chain := Chain.sample } } requests
    Along (fun c r => c.Forward r ∧ c.InTime r) { kernel := { chain := Chain.sample } } requests ∧
      now.facility? 0 = some .library ∧ now.Forward (.statistics 0) ∧
      (now.perform (.statistics 0)).result.values.length = 4 ∧
      ∀ one ∈ (now.perform (.statistics 0)).result.values,
        ((now.perform (.statistics 0)).client.document one).lookup "snaptime" = some (.int 1004) := by
  intro requests now
  have halong : Along (fun c r => c.Forward r ∧ c.InTime r) { kernel := { chain := Chain.sample } } requests := by
    decide
  have hlibrary : now.facility? 0 = some .library := by decide
  have hforward : now.Forward (.statistics 0) := by decide
  obtain ⟨-, hvalues⟩ := timestamps_belong_to_values { chain := Chain.sample } requests 0 halong hlibrary
  refine ⟨halong, hlibrary, hforward, by decide, fun one hone => ?_⟩
  obtain ⟨k, kstat, reading, record, -, hk, hlast, -, -, hshown⟩ := hvalues _ (by decide) hforward one hone
  have hrecord : ∀ kstat ∈ (now.perform (.statistics 0)).client.kstats, kstat.record = .ofIndex 0 := by decide
  rw [hrecord kstat (List.mem_of_getElem? hk)] at hlast
  have hclock : (latest (gather (moments 0) { kernel := { chain := Chain.sample } } requests ++
      now.moments 0 (.statistics 0)) (.ofIndex 0)).map Reading.clock = some 1004 := by decide
  rw [hlast] at hclock
  rw [hshown, Option.some.inj hclock]

end Client

end KernelStats
