import KernelStats.Chain.Sample
import KernelStats.Proofs.Session.Timing
import KernelStats.Proofs.Token.OneRead

/-!
# The snapshot time of an object is a running maximum

An object starts with the snapshot time of the header that it was made from, and afterwards takes over
what the handle reports right after each read made through the object, unless it knows a later time. So
at any point it has the maximum of all these. This holds of live and of library handles alike, for any
clock, and for the objects of closed tokens as well.
-/

namespace KernelStats

def Moment.created? (m : Moment) : Option (KStatId × Header) :=
  match m.action with
  | .intern id =>
    if m.session.cache.find? id = none then
      some (m.session.kstats.length, m.session.handle.header m.session.kernel id)
    else none
  | _ => none

/-- The headers that an object was made from. -/
def created (past : List Moment) (k : KStatId) : List Header :=
  ((past.filterMap Moment.created?).filter (·.1 = k)).map Prod.snd

theorem created_append (past more : List Moment) (k : KStatId) :
    created (past ++ more) k = created past k ++ created more k := by
  simp [created]

theorem KStat.snaptime_foldl_observe (kstat : KStat) (times : List Int64) :
    (times.foldl KStat.observe kstat).snaptime = times.foldl max kstat.snaptime := by
  induction times generalizing kstat with
  | nil => rfl
  | cons time times ih =>
    have hfirst : (kstat.observe time).snaptime = max kstat.snaptime time := by
      show _ = if kstat.snaptime ≤ time then time else kstat.snaptime
      unfold observe
      split <;> rfl
    rw [List.foldl_cons, List.foldl_cons, ih, hfirst]

namespace Session

variable {s s' : Session} {past : List Moment} {k : KStatId} {id : RecordId}

/-- An object has the maximum of the snapshot time that it was made with and of those that were reported
to it. -/
def Peaks (past : List Moment) (k : KStatId) (kstat : KStat) : Prop :=
  ∃ header, created past k = [header] ∧
    (header.snaptime :: reported past k).max? = some kstat.snaptime

/-- The objects of the token have their maxima, and nothing is known of objects that are yet to come. -/
structure Tracks (s : Session) (past : List Moment) : Prop where
  peaks : ∀ k id, s.StandsFor k id → Peaks past k (s.kstat k)
  fresh : ∀ k, s.kstats.length ≤ k → created past k = [] ∧ reported past k = []

theorem created_moment (s : Session) (a : Action) (k : KStatId) :
    created [⟨s, a⟩] k = [] ∨
      k = s.kstats.length ∧ ∃ id, a = .intern id ∧ s.cache.find? id = none ∧
        created [⟨s, a⟩] k = [s.handle.header s.kernel id] := by
  cases a with
  | intern id =>
    cases hfind : s.cache.find? id with
    | some cached => exact .inl (by simp [created, Moment.created?, hfind])
    | none =>
      by_cases hk : k = s.kstats.length
      · exact .inr ⟨hk, id, rfl, hfind, by simp [created, Moment.created?, hfind, hk]⟩
      · exact .inl (by simp [created, Moment.created?, hfind, Ne.symm hk])
  | _ => exact .inl rfl

theorem reported_moment {a : Action} (ha : s.Admits a) (hk : s.kstats.length ≤ k) :
    reported [⟨s, a⟩] k = [] := by
  rcases s.quiet_or_read a with hquiet | ⟨object, rfl, hread⟩
  · exact reported_of_silent hquiet.silent k
  · obtain ⟨id, hobject⟩ := ha
    have hlt : object < s.kstats.length := (List.getElem?_eq_some_iff.1 hobject.getElem?).1
    rw [reported_refresh hobject hread, if_neg (Nat.ne_of_lt (Nat.lt_of_lt_of_le hlt hk))]

theorem Tracks.act (h : s.Tracks past) {a : Action} (ha : s.Admits a) :
    (s.act a).Tracks (past ++ [⟨s, a⟩]) where
  peaks k id hk := by
    unfold Peaks
    rw [created_append, reported_append]
    rcases standsFor_of_act hk with hold | ⟨rfl, hfind, rfl⟩
    · obtain ⟨header, hcreated, hmax⟩ := h.peaks k id hold
      have hlt : k < s.kstats.length := (List.getElem?_eq_some_iff.1 hold.getElem?).1
      have hnone : created [⟨s, a⟩] k = [] :=
        (s.created_moment a k).resolve_right fun hnew => Nat.ne_of_lt hlt hnew.1
      refine ⟨header, by rw [hcreated, hnone, List.append_nil], ?_⟩
      rw [List.max?_cons', Option.some.injEq] at hmax ⊢
      rw [List.foldl_append, hmax, kstat_act hold, KStat.snaptime_foldl_observe]
    · -- a new object, of which nothing was known
      obtain ⟨hcreated, hreported⟩ := h.fresh s.kstats.length (Nat.le_refl _)
      refine ⟨s.handle.header s.kernel id, ?_, ?_⟩
      · rw [hcreated]
        simp [created, Moment.created?, hfind]
      · rw [hreported, reported_of_silent rfl, kstat_intern hfind]
        rfl
  fresh k hk := by
    have hgrown := ha.move.advances.kstats.length_le
    obtain ⟨hcreated, hreported⟩ := h.fresh k (Nat.le_trans hgrown hk)
    rw [created_append, reported_append, hcreated, hreported, List.nil_append, List.nil_append]
    refine ⟨(s.created_moment a k).resolve_right ?_, reported_moment ha (Nat.le_trans hgrown hk)⟩
    rintro ⟨rfl, id, rfl, hfind, -⟩
    have hlonger : (s.act (.intern id)).kstats.length = s.kstats.length + 1 := by
      show (s.intern id).1.kstats.length = _
      rw [intern_of_none hfind]
      simp [report]
    rw [hlonger] at hk
    exact Nat.not_succ_le_self _ hk

end Session

namespace Client

variable {c : Client} {t : TokenId} {s : Session} {r : Request}

/-- What `Session.Tracks` says of the objects of one token, open or not. -/
structure Tracks (t : TokenId) (c : Client) (past : List Moment) : Prop where
  peaks : ∀ k kstat, c.kstat? k = some kstat → kstat.token = t → Session.Peaks past k kstat
  fresh : ∀ k, c.kstats.length ≤ k → created past k = [] ∧ reported past k = []

theorem Step.length_kstats {c' : Client} {who : Option TokenId} (hstep : c.Step who c') :
    c.kstats.length ≤ c'.kstats.length := by
  cases hstep with
  | called hs hmoves => exact (grownBy_of_session? hs hmoves).length_le
  | _ => exact Nat.le_refl _

theorem kstat?_perform (hc : c.WellFormed) (hs : ∀ s, c.session? t = some s → c.addressee r = some t →
    r = .close t ∨ r = .destroy t) {k : KStatId} {kstat : KStat} (htoken : kstat.token = t) :
    (c.perform r).client.kstat? k = some kstat ↔ c.kstat? k = some kstat := by
  have hstep := step_perform hc r
  by_cases hr : c.addressee r = some t
  · cases hsession : c.session? t with
    | none => exact hstep.kstat?_iff (session?_eq_none_iff.1 hsession) htoken
    | some s =>
      have hkstats := (shut_release hc (lt_of_session? hsession) (hs s hsession hr)).2
      rw [kstat?, hkstats, kstat?]
  · exact hstep.kstat?_of_ne hr htoken

theorem Tracks.perform {past : List Moment} (hc : c.WellFormed) (h : Tracks t c past) (r : Request) :
    Tracks t (c.perform r).client (past ++ c.moments t r) := by
  have hgrown := (step_perform hc r).length_kstats
  by_cases hserved : ∃ s, c.session? t = some s ∧ c.addressee r = some t ∧ ¬(r = .close t ∨ r = .destroy t)
  · obtain ⟨s, hs, hr, hrelease⟩ := hserved
    have hplays := plays_of_session? hc hs hr
    have htoken := token_of_session? hs
    have hstart : s.Tracks past := by
      refine ⟨fun k id hk => ?_, fun k hk => h.fresh k (kstats_of_session? hs ▸ hk)⟩
      have hkstat := hk.getElem?
      rw [kstats_of_session? hs] at hkstat
      exact h.peaks k _ hkstat ((Session.StandsFor.token hk).trans htoken)
    have hend := hplays.induction Session.Tracks (hc.sound hs)
      (fun m _ past _ hadmits htracks => htracks.act hadmits) hstart
    have hafter := perform_of_session? hc hs hr (fun h => hrelease (.inl h)) (fun h => hrelease (.inr h))
    rw [moments_of_session? hs hr, hafter]
    refine ⟨fun k kstat hk hown => ?_, fun k hk => hend.fresh k hk⟩
    have hk : (s.serve r).1.kstats[k]? = some kstat := hk
    have hkstat : (s.serve r).1.kstat k = kstat := by simp [Session.kstat, List.getD, hk]
    have hstands : (s.serve r).1.StandsFor k kstat.record := by
      rw [Session.StandsFor, List.getElem?_map, hk, hplays.moves.advances.token, htoken, ← hown]
      rfl
    exact hkstat ▸ hend.peaks k _ hstands
  · have hsilent : c.moments t r = [] := by
      by_cases hr : c.addressee r = some t
      · cases hs : c.session? t with
        | none => exact moments_of_none hs r
        | some s =>
          rw [moments_of_session? hs hr]
          have hrelease : r = .close t ∨ r = .destroy t := by
            by_contra hother
            exact hserved ⟨s, hs, hr, hother⟩
          rcases hrelease with rfl | rfl <;> rfl
      · exact moments_of_ne hr
    rw [hsilent, List.append_nil]
    refine ⟨fun k kstat hk hown => ?_, fun k hk => h.fresh k (Nat.le_trans hgrown hk)⟩
    refine h.peaks k kstat ((kstat?_perform hc (fun s hs hr => ?_) hown).1 hk) hown
    by_contra hother
    exact hserved ⟨s, hs, hr, hother⟩

theorem peaks_run (kernel : Kernel) (requests : List Request) {k : KStatId} {kstat : KStat}
    (hk : (run { kernel } requests).kstat? k = some kstat) :
    Session.Peaks (gather (moments kstat.token) { kernel } requests) k kstat := by
  have hstart : Tracks kstat.token { kernel } [] :=
    ⟨fun k kstat hk => (nomatch hk), fun _ _ => ⟨rfl, rfl⟩⟩
  have htracks := gather_induction (Tracks kstat.token) (fun c past r hc h => h.perform hc r) (.start kernel)
    hstart requests
  exact htracks.peaks k kstat hk rfl

theorem kstat?_of_failed_refresh {k : KStatId} {kstat : KStat} (hk : c.kstat? k = some kstat) {f : Failure}
    (hf : (c.refresh k).result = .error f) : (c.refresh k).client.kstat? k = some kstat := by
  rw [refresh, onKStat_of_kstat? hk] at hf ⊢
  cases hs : c.session? kstat.token with
  | none =>
    rw [onOpen_of_none hs]
    exact hk
  | some s =>
    rw [onOpen_of_session? hs] at hf ⊢
    show (s.refresh k).1.kstats[k]? = some kstat
    replace hf : (s.refresh k).2 = .error f := hf
    rw [Session.refresh_eq] at hf ⊢
    split at hf
    · cases hf
    · next hbad =>
      rw [if_neg hbad]
      exact (congrArg (·[k]?) (kstats_of_session? hs)).trans hk

/-- **The snapshot time of an object is a running maximum.** At any point it is the greatest among that
of the header which the object was made from and those that the handle reported right after the reads
made through the object. It never decreases, and only such a read changes it: no edit, no call of
another token, and no read that fails. -/
theorem snaptime_is_running_maximum (kernel : Kernel) (requests : List Request) (k : KStatId)
    (kstat : KStat) (hk : (run { kernel } requests).kstat? k = some kstat) :
    let now := run { kernel } requests
    let past := gather (moments kstat.token) { kernel } requests
    (∃ header, created past k = [header] ∧
      (header.snaptime :: reported past k).max? = some kstat.snaptime) ∧
    (∀ later, ∃ kstat', (now.run later).kstat? k = some kstat' ∧ kstat.snaptime ≤ kstat'.snaptime ∧
      (reported (now.gather (moments kstat.token) later) k = [] → kstat' = kstat)) ∧
    (∀ r, now.addressee r ≠ some kstat.token → (now.perform r).client.kstat? k = some kstat) ∧
    (∀ f, (now.refresh k).result = .error f → (now.refresh k).client.kstat? k = some kstat) := by
  intro now past
  have hnow : now.WellFormed := (WellFormed.start kernel).run requests
  obtain ⟨header, hcreated, hmax⟩ := peaks_run kernel requests hk
  refine ⟨⟨header, hcreated, hmax⟩, fun later => ?_, fun r hr => ?_, fun f hf => ?_⟩
  · obtain ⟨kstat', hk', hbecomes⟩ := becomes_run hnow later hk
    refine ⟨kstat', hk', hbecomes.snaptime, fun hsilent => ?_⟩
    have hrun : now.run later = run { kernel } (requests ++ later) := (run_append _ requests later).symm
    obtain ⟨header', hcreated', hmax'⟩ := peaks_run kernel (requests ++ later) (hrun ▸ hk')
    rw [hbecomes.token, gather_append, created_append, hcreated] at hcreated'
    have hheader : header = header' := List.head_eq_of_cons_eq hcreated'
    rw [hbecomes.token, gather_append, reported_append, hsilent, List.append_nil, ← hheader, hmax] at hmax'
    obtain ⟨token, record, identity, snaptime⟩ := kstat
    obtain ⟨token', record', identity', snaptime'⟩ := kstat'
    obtain rfl : token' = token := hbecomes.token
    obtain rfl : record' = record := hbecomes.record
    obtain rfl : identity' = identity := hbecomes.identity
    obtain rfl : snaptime = snaptime' := Option.some.inj hmax'
    rfl
  · exact (kstat?_perform hnow (fun s hs hown => absurd hown hr) rfl).2 hk
  · exact kstat?_of_failed_refresh hk hf

/-- A clock that was set back leaves the maximum where it was. -/
theorem snaptime_is_running_maximum_when_set_back :
    let requests : List Request :=
      [.openToken (some .live), .lookup 0 ⟨[], Query.anyInstance, []⟩,
        .edit (.set (some 7) none none none), .refresh 0]
    let now := run { kernel := { chain := Chain.sample } } requests
    let past := gather (moments 0) { kernel := { chain := Chain.sample } } requests
    ∃ kstat, now.kstat? 0 = some kstat ∧ reported past 0 = [1004, 7] ∧ kstat.snaptime = 1004 ∧
      ∃ header, created past 0 = [header] ∧ (header.snaptime :: reported past 0).max? = some kstat.snaptime := by
  intro requests now past
  obtain ⟨kstat, hk, htoken, hsnaptime⟩ : ∃ kstat, now.kstat? 0 = some kstat ∧ kstat.token = 0 ∧
      kstat.snaptime = 1004 := ⟨_, rfl, by decide, by decide⟩
  obtain ⟨hmax, -⟩ := snaptime_is_running_maximum { chain := Chain.sample } requests 0 kstat hk
  rw [htoken] at hmax
  exact ⟨kstat, hk, by decide, hsnaptime, hmax⟩

end Client

end KernelStats
