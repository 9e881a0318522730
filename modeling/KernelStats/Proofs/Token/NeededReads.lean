import KernelStats.Chain.Sample
import KernelStats.Proofs.Client.Reads
import KernelStats.Proofs.Token.Failures

/-!
# Exactly the reads that are needed

A read is what a kstat costs, so none is made in vain. An enumeration reads nothing, a lookup and a
refresh read the one kstat that they are about, and a call for statistics reads its kstat only as long as the
handle has no data of it. `needed` says for each request which reads these are, by what there is to see before
the request, and the requests make these reads and no others.

Data that a read has brought to the chain stays there until somebody edits the chain. So once a kstat was read,
its statistics can be asked for as often as one likes: nothing is read, and nothing changes.
-/

namespace KernelStats

/-! ### Data stays -/

namespace Chain

def hasData (c : Chain) (id : RecordId) : Bool := (c.entry? id).any fun e => e.header.hasData

theorem Touched.hasData {c c' : Chain} {id other : RecordId} (h : c.Touched other c')
    (hdata : c.hasData id = true) : c'.hasData id = true := by
  obtain ⟨f, clock, htouch, rfl⟩ := h
  obtain ⟨e, hentry, he⟩ := (Option.any_eq_true _ _).1 hdata
  show (id.get? (other.update f c.entries)).any _ = true
  rw [RecordId.get?_update, show id.get? c.entries = some e from hentry]
  split
  · exact htouch.hasData e he
  · exact he

theorem hasData_read_self {c : Chain} {id : RecordId} (hgood : c.readErrno id = 0) :
    (c.read id).1.hasData id = true := by
  cases hentry : c.entry? id with
  | none =>
    rw [readErrno, hentry] at hgood
    exact absurd hgood (by decide)
  | some e =>
    have he : e.readErrno = 0 := by simpa [readErrno, hentry] using hgood
    rw [read_of_good hentry he]
    show (id.get? (id.update _ c.entries)).any _ = true
    rw [RecordId.get?_update, if_pos rfl, show id.get? c.entries = some e from hentry]
    rfl

end Chain

namespace Session

variable {s s' : Session} {k : KStatId} {id : RecordId}

theorem Move.hasData (hmove : s.Move s') (hdata : s.kernel.chain.hasData id = true) :
    s'.kernel.chain.hasData id = true := by
  rcases hmove.chain with ⟨lookups, hcounted⟩ | ⟨other, htouched⟩
  · rw [hcounted]
    exact hdata
  · exact htouched.hasData hdata

theorem Moves.hasData (hmoves : s.Moves s') (hdata : s.kernel.chain.hasData id = true) :
    s'.kernel.chain.hasData id = true := by
  induction hmoves with
  | refl => exact hdata
  | tail _ hmove ih => exact hmove.hasData ih

/-! ### Calls that find data -/

theorem picked_live (hlive : s.handle = .live) (id : RecordId) (name : Bytes) : s.picked id name = s := by
  have hsame : (s.handle.record? s.kernel id name).1 = s.kernel := by
    rw [hlive]
    unfold Handle.record?
    simp only
    split <;> rfl
  rw [picked, hsame]

theorem statistic_of_hasData (hlive : s.handle = .live) (hdata : (s.header k).hasData = true) (name : Bytes) :
    ∃ log, (s.statistic k name).1 = { s with log } := by
  by_cases htype : (s.kstat k).identity.type = .named
  · have hready := prepare_of_data htype hdata
    rw [statistic_of_ok (by rw [hready]), hready]
    simp only [picked_live hlive, answer_eq]
    exact ⟨_, rfl⟩
  · rw [statistic_of_error (by rw [prepare_of_unnamed htype]), prepare_of_unnamed htype]
    exact ⟨_, rfl⟩

theorem statistics_of_hasData (hdata : (s.header k).hasData = true) :
    ∃ log, (s.statistics k).1 = { s with log } := by
  by_cases htype : (s.kstat k).identity.type = .named
  · have hready := prepare_of_data htype hdata
    rw [statistics_of_ok (by rw [hready]), hready]
    simp only [answer_eq]
    exact ⟨_, rfl⟩
  · rw [statistics_of_error (by rw [prepare_of_unnamed htype]), prepare_of_unnamed htype]
    exact ⟨_, rfl⟩

end Session

namespace Client

/-! ### Needed reads -/

/-- The kstat of an object, if its token is open and `wants` it to be read. -/
def readOf (c : Client) (k : KStatId) (wants : Handle → KStat → Bool) : List RecordId :=
  match c.kstat? k with
  | some kstat => if (c.handle? kstat.token).any (wants · kstat) then [kstat.record] else []
  | none => []

/-- The reads that a request needs. -/
def needed (c : Client) : Request → List RecordId
  | .lookup t q | .lookupStatistic t q _ =>
    ((c.handle? t).bind fun handle => handle.selected? c.kernel q).toList
  | .refresh k => c.readOf k fun _ _ => true
  | .statistic k _ | .statistics k =>
    c.readOf k fun handle kstat =>
      kstat.identity.type = .named && !(handle.header c.kernel kstat.record).hasData
  | _ => []

/-- A request for statistics of a kstat, through an object of an open token on the chain itself. -/
def AsksFor (c : Client) (id : RecordId) (r : Request) : Prop :=
  ∃ k kstat, (r = .statistics k ∨ ∃ name, r = .statistic k name) ∧ c.kstat? k = some kstat ∧
    kstat.record = id ∧ c.handle? kstat.token = some .live

variable {c : Client} {t : TokenId} {s : Session} {r : Request} {id : RecordId}

theorem readOf_cases (c : Client) (k : KStatId) (wants : Handle → KStat → Bool) :
    c.readOf k wants = [] ∨ ∃ id, c.readOf k wants = [id] := by
  unfold readOf
  split
  · split
    · exact .inr ⟨_, rfl⟩
    · exact .inl rfl
  · exact .inl rfl

/-- No request needs more than one read. -/
theorem needed_eq_of_mem (hid : id ∈ c.needed r) : c.needed r = [id] := by
  have hcases : c.needed r = [] ∨ ∃ id, c.needed r = [id] := by
    have hselected : ∀ o : Option RecordId, o.toList = [] ∨ ∃ id, o.toList = [id] := by
      intro o
      cases o with
      | none => exact .inl rfl
      | some id => exact .inr ⟨id, rfl⟩
    cases r with
    | lookup t q => exact hselected _
    | lookupStatistic t q name => exact hselected _
    | refresh k => exact c.readOf_cases k _
    | statistic k name => exact c.readOf_cases k _
    | statistics k => exact c.readOf_cases k _
    | _ => exact .inl rfl
  rcases hcases with hnone | ⟨other, hone⟩
  · rw [hnone] at hid
    cases hid
  · rw [hone] at hid ⊢
    rw [List.mem_singleton.1 hid]

theorem handle?_of_none (hs : c.session? t = none) : c.handle? t = none := by
  have hclosed := session?_eq_none_iff.1 hs
  rw [isOpen_eq] at hclosed
  exact Option.isNone_iff_eq_none.1 (by simpa [handle?] using hclosed)

theorem needed_of_none (hr : ∀ t, c.addressee r = some t → c.session? t = none) : c.needed r = [] := by
  have hobject : ∀ k wants, ((c.kstat? k).map KStat.token = c.addressee r) → c.readOf k wants = [] := by
    intro k wants hwho
    unfold readOf
    cases hk : c.kstat? k with
    | none => rfl
    | some kstat =>
      rw [hk, Option.map_some] at hwho
      simp only [handle?_of_none (hr kstat.token hwho.symm)]
      rfl
  cases r with
  | lookup t q => simp only [needed, handle?_of_none (hr t rfl)]; rfl
  | lookupStatistic t q name => simp only [needed, handle?_of_none (hr t rfl)]; rfl
  | refresh k => exact hobject k _ rfl
  | statistic k name => exact hobject k _ rfl
  | statistics k => exact hobject k _ rfl
  | _ => rfl

theorem readOf_of_session? (hs : c.session? t = some s) {k : KStatId}
    (hk : (c.kstat? k).map KStat.token = some t) (wants : Handle → KStat → Bool) :
    c.readOf k wants = if wants s.handle (s.kstat k) then [(s.kstat k).record] else [] := by
  obtain ⟨kstat, hkstat, rfl⟩ := Option.map_eq_some_iff.1 hk
  rw [readOf, hkstat]
  simp only [handle?_of_session? hs, kstat_of_kstat? hs hkstat]
  rfl

theorem needed_of_session? (hs : c.session? t = some s) (hsound : s.Sound)
    (hlabelled : s.handle.facility = .library → s.Labelled fun i => i) (hr : c.addressee r = some t) :
    KernelStats.reads (s.moments (s.script r)) = c.needed r := by
  have hhandle := handle?_of_session? hs
  have hkernel := kernel_of_session? hs
  have hunloaded : ∀ k, (c.kstat? k).map KStat.token = some t →
      KernelStats.reads (s.moments (s.prepareScript k)) =
        c.readOf k fun handle kstat =>
          kstat.identity.type = .named && !(handle.header c.kernel kstat.record).hasData := by
    intro k hk
    rw [readOf_of_session? hs hk, Session.reads_prepareScript, Session.header, hkernel]
    simp
  cases r with
  | all u => exact Session.reads_all s _
  | lookup u q =>
    cases hr
    rw [needed, hhandle, ← hkernel]
    exact Session.reads_lookupScript hsound q
  | lookupStatistic u q name =>
    cases hr
    rw [needed, hhandle, ← hkernel]
    exact (Session.reads_lookupStatisticScript hsound hlabelled q name).trans
      (Session.reads_lookupScript hsound q)
  | refresh k => exact (readOf_of_session? hs hr fun _ _ => true).symm
  | statistic k name =>
    obtain ⟨record, hk⟩ := standsFor_of_addressee hs hr rfl
    exact (Session.reads_statisticScript hk name).trans (hunloaded k hr)
  | statistics k =>
    obtain ⟨record, hk⟩ := standsFor_of_addressee hs hr rfl
    exact (Session.reads_statisticsScript hk).trans (hunloaded k hr)
  | _ => rfl

theorem reads_eq_needed (hc : c.WellFormed)
    (hlabelled : ∀ t s, c.session? t = some s → s.handle.facility = .library → s.Labelled fun i => i)
    (r : Request) : c.reads r = c.needed r := by
  rcases c.session_cases r with ⟨t, s, hr, hs⟩ | hnone
  · rw [reads_of_session? hs hr]
    exact needed_of_session? hs (hc.sound hs) (hlabelled t s hs) hr
  · rw [reads_of_none hnone, needed_of_none hnone]

/-! ### After a read -/

theorem hasData_perform (hc : c.WellFormed) (hedit : ∀ e, r ≠ .edit e)
    (hdata : c.kernel.chain.hasData id = true) : (c.perform r).client.kernel.chain.hasData id = true := by
  rcases served_cases hc hedit with ⟨t, s, hs, hr, hserved⟩ | ⟨-, opens, closes, hchain⟩
  · rw [← kernel_of_session? hs] at hdata
    rw [hserved]
    exact (plays_of_session? hc hs hr).moves.hasData hdata
  · rw [hchain]
    exact hdata

theorem hasData_run (hc : c.WellFormed) (hdata : c.kernel.chain.hasData id = true) {requests : List Request}
    (hedit : ∀ r ∈ requests, ∀ e, r ≠ .edit e) : (c.run requests).kernel.chain.hasData id = true := by
  induction requests generalizing c with
  | nil => exact hdata
  | cons r rest ih =>
    exact ih (hc.perform r) (hasData_perform hc (hedit r List.mem_cons_self) hdata) fun r' hr' =>
      hedit r' (List.mem_cons_of_mem r hr')

/-- A live token whose kstat has data answers for its statistics at once. -/
theorem perform_of_hasData (hc : c.WellFormed) (hdata : c.kernel.chain.hasData id = true)
    (hr : c.AsksFor id r) : (c.perform r).client = c ∧ c.reads r = [] := by
  obtain ⟨k, kstat, hwhich, hk, rfl, hlive⟩ := hr
  obtain ⟨s, hs, hhandle⟩ := exists_session?_of_handle? hlive
  have hstands := standsFor_of_kstat? hs hk rfl
  have hwho : (c.kstat? k).map KStat.token = some kstat.token := by rw [hk, Option.map_some]
  have hloaded : (s.header k).hasData = true := by
    rw [Session.header, hstands.record, hhandle, kernel_of_session? hs]
    obtain ⟨e, hentry, he⟩ := (Option.any_eq_true _ _).1 hdata
    simp only [Handle.header, hentry, Option.map_some, Option.getD_some, he]
  have hunread : KernelStats.reads (s.moments (s.prepareScript k)) = [] := by
    rw [Session.reads_prepareScript, if_neg fun h => Bool.noConfusion (hloaded.symm.trans h.2)]
  -- a session is settled without its log
  have hself := settle_self hs
  rcases hwhich with rfl | ⟨name, rfl⟩
  · obtain ⟨log, hsame⟩ := Session.statistics_of_hasData hloaded
    have hserved : c.perform (.statistics k) = c.served kstat.token s (.statistics k) :=
      perform_of_object? hc hs hwho rfl
    have hreads : c.reads (.statistics k) = _ := reads_of_session? hs hwho
    refine ⟨?_, hreads.trans ((Session.reads_statisticsScript hstands).trans hunread)⟩
    rw [hserved]
    show c.settle kstat.token (s.statistics k).1 = c
    rw [hsame]
    exact hself
  · obtain ⟨log, hsame⟩ := Session.statistic_of_hasData hhandle hloaded name
    have hserved : c.perform (.statistic k name) = c.served kstat.token s (.statistic k name) :=
      perform_of_object? hc hs hwho rfl
    have hreads : c.reads (.statistic k name) = _ := reads_of_session? hs hwho
    refine ⟨?_, hreads.trans ((Session.reads_statisticScript hstands name).trans hunread)⟩
    rw [hserved]
    show c.settle kstat.token (s.statistic k name).1 = c
    rw [hsame]
    exact hself

theorem run_of_hasData (hc : c.WellFormed) (hdata : c.kernel.chain.hasData id = true) {calls : List Request}
    (hcalls : ∀ r ∈ calls, c.AsksFor id r) :
    c.run calls = c ∧ c.gather reads calls = [] ∧
      c.replies calls = calls.map fun r => (c.perform r).result := by
  induction calls with
  | nil => exact ⟨rfl, rfl, rfl⟩
  | cons r rest ih =>
    obtain ⟨hsame, hunread⟩ := perform_of_hasData hc hdata (hcalls r List.mem_cons_self)
    have hrest := ih fun r' hr' => hcalls r' (List.mem_cons_of_mem r hr')
    rw [run_cons, gather, replies, hsame, hunread, List.map_cons]
    exact ⟨hrest.1, hrest.2.1, congrArg _ hrest.2.2⟩

/-- **Exactly the reads that are needed.** After every run, a request makes the reads that it needs and no
others, and the chain counts each of them for its own kstat. Through a live token nothing but these reads and the
count of a lookup becomes of the chain. Once a kstat was read with success by a live token, and as long as the
chain is not edited, statistics of it that are asked for again and again through live tokens are not read anew, no
call changes anything, and equal calls give equal results. -/
theorem reads_are_needed (kernel : Kernel) (requests : List Request) :
    let now := run { kernel } requests
    (∀ r, now.reads r = now.needed r) ∧
    (∀ r, (∀ e, r ≠ .edit e) → ∀ id, (now.perform r).client.kernel.chain.reads? id =
      (now.kernel.chain.reads? id).map (· + (now.needed r).count id)) ∧
    ∀ r t, now.addressee r = some t → now.handle? t = some .live → r ≠ .close t → r ≠ .destroy t →
      let next := (now.perform r).client
      next.kernel.chain =
        { now.kernel.chain.readAll (now.needed r) with lookups := next.kernel.chain.lookups } ∧
      ∀ id ∈ now.needed r, now.kernel.chain.readErrno id = 0 →
        ∀ later, (∀ r ∈ later, ∀ e, r ≠ .edit e) →
        ∀ calls, (∀ r ∈ calls, (next.run later).AsksFor id r) →
          (next.run later).run calls = next.run later ∧
          (next.run later).gather reads calls = [] ∧
          (next.run later).replies calls = calls.map fun r => ((next.run later).perform r).result := by
  intro now
  have hnow : now.WellFormed := (WellFormed.start kernel).run requests
  have hneeded : ∀ r, now.reads r = now.needed r := reads_eq_needed hnow fun t s hs hlibrary =>
    (backed_run kernel requests hs hlibrary).labelled
  refine ⟨hneeded, fun r hedit id => ?_, fun r t hr hlive hclose hdestroy => ?_⟩
  · rw [← hneeded]
    exact reads?_perform hnow hedit id
  obtain ⟨s, hs, hhandle⟩ := exists_session?_of_handle? hlive
  have hchain := (plays_of_session? hnow hs hr).chain_live hhandle
  rw [← reads_of_session? hs hr, hneeded, kernel_of_session? hs] at hchain
  have hserved := perform_of_session? hnow hs hr hclose hdestroy
  have hafter : (now.perform r).client.kernel = (s.serve r).1.kernel := by rw [hserved]; rfl
  rw [← hafter] at hchain
  refine ⟨hchain, fun id hid hgood later hedit calls hcalls => ?_⟩
  have hdata : (now.perform r).client.kernel.chain.hasData id = true := by
    rw [hchain, needed_eq_of_mem hid]
    exact Chain.hasData_read_self hgood
  exact run_of_hasData ((hnow.perform r).run later) (hasData_run (hnow.perform r) hdata hedit) hcalls

/-- What one live token has read is there for the objects of the other. -/
theorem reads_are_needed_on_sample :
    let q : Query := ⟨utf8 "link", Query.anyInstance, []⟩
    let requests : List Request :=
      [.openToken (some .live), .openToken (some .live), .lookup 0 q, .lookup 1 q,
        .edit (.amend 3 { hasData := some false })]
    let now := run { kernel := { chain := Chain.sample } } requests
    let next := (now.perform (.statistics 0)).client.run [.isOpen 0]
    let calls : List Request := [.statistics 0, .statistic 1 (utf8 "rbytes64"), .statistics 0]
    now.reads (.statistics 0) = [.ofIndex 3] ∧
      (now.perform (.statistics 0)).client.kernel.chain.reads? (.ofIndex 3) =
        (now.kernel.chain.reads? (.ofIndex 3)).map (· + 1) ∧
      next.run calls = next ∧ next.gather reads calls = [] := by
  intro q requests now next calls
  obtain ⟨hneeded, hcounted, hlive⟩ := reads_are_needed { chain := Chain.sample } requests
  have hneed : now.needed (.statistics 0) = [.ofIndex 3] := by decide
  have hcount := hcounted (.statistics 0) (fun _ h => nomatch h) (.ofIndex 3)
  have hobject : ∀ {k : KStatId} {t : TokenId}, (next.kstat? k).map KStat.origin = some (t, .ofIndex 3) →
      next.handle? t = some .live → ∃ kstat, next.kstat? k = some kstat ∧ kstat.record = .ofIndex 3 ∧
        next.handle? kstat.token = some .live := by
    intro k t hk ht
    obtain ⟨kstat, hkstat, horigin⟩ := Option.map_eq_some_iff.1 hk
    obtain rfl : kstat.token = t := congrArg Prod.fst horigin
    exact ⟨kstat, hkstat, congrArg Prod.snd horigin, ht⟩
  have hasks : ∀ r ∈ calls, next.AsksFor (.ofIndex 3) r := by
    obtain ⟨first, hfirst⟩ := hobject (k := 0) (t := 0) (by decide) (by decide)
    obtain ⟨second, hsecond⟩ := hobject (k := 1) (t := 1) (by decide) (by decide)
    intro r hr
    simp only [calls, List.mem_cons, List.not_mem_nil, or_false] at hr
    rcases hr with rfl | rfl | rfl
    · exact ⟨0, first, .inl rfl, hfirst⟩
    · exact ⟨1, second, .inr ⟨_, rfl⟩, hsecond⟩
    · exact ⟨0, first, .inl rfl, hfirst⟩
  obtain ⟨-, hagain⟩ := hlive (.statistics 0) 0 (by decide) (by decide) nofun nofun
  have hread : .ofIndex 3 ∈ now.needed (.statistics 0) := hneed ▸ List.mem_singleton_self _
  have hedit : ∀ r ∈ [Request.isOpen 0], ∀ e, r ≠ .edit e := by
    intro r hr e
    rw [List.mem_singleton.1 hr]
    exact nofun
  obtain ⟨hsame, hunread, -⟩ := hagain (.ofIndex 3) hread (by decide) [.isOpen 0] hedit calls hasks
  rw [hneed, List.count_singleton_self] at hcount
  refine ⟨(hneeded _).trans hneed, ?_, hsame, hunread⟩
  dsimp only [now]
  exact hcount

end Client

end KernelStats
