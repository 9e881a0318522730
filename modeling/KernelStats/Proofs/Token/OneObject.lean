import KernelStats.Chain.Sample
import KernelStats.Proofs.Client.History
import KernelStats.Proofs.Lists
import KernelStats.Proofs.Token.Closing

/-!
# One object for each kstat

Whatever is asked of an open token, and in whatever order, a kstat always comes back as the same
object, and no two kstats come back as one. The cache of the token holds exactly the kstats that it came
across since its open. Both are said of the history of a run: `sightings` pairs every object that was
handed out with the record id that it was got from, and `met` lists what was walked or matched, even
where the call then failed.
-/

namespace KernelStats

def Reply.objects : Reply → List KStatId
  | .all ks => ks
  | .found (.ok k) => [k]
  | .statistic (.ok one) => one.parent.toList
  | .statistics (.ok many) => many.filterMap Statistic.parent
  | _ => []

namespace Session

/-- The kstats that a call comes across: all on the walk, or the one that a lookup matches. -/
def meets (s : Session) : Request → List RecordId
  | .all _ => s.handle.walk s.kernel
  | .lookup _ q | .lookupStatistic _ q _ => (s.handle.lookup s.kernel q).2.toOption.toList
  | _ => []

def sightings (s : Session) (r : Request) : List (RecordId × KStatId) :=
  match r.object? with
  | some k => (s.serve r).2.objects.map fun object => ((s.kstat k).record, object)
  | none => (s.meets r).zip (s.serve r).2.objects

/-! ### One call -/

section

variable {s : Session}

theorem mem_keys_serve (s : Session) (r : Request) (id : RecordId) :
    id ∈ (s.serve r).1.cache.keys ↔ id ∈ s.cache.keys ∨ id ∈ s.meets r := by
  have hmatch : ∀ q, id ∈ (s.handle.lookup s.kernel q).2.toOption.toList ↔
      (s.handle.lookup s.kernel q).2 = .ok id := by
    intro q
    cases (s.handle.lookup s.kernel q).2 with
    | error e => simp [Except.toOption]
    | ok other => simp [Except.toOption, eq_comm]
  cases r with
  | all t => exact mem_keys_internAll s _ id
  | lookup t q => exact (mem_keys_lookup s q id).trans (or_congr_right (hmatch q).symm)
  | lookupStatistic t q name =>
    exact (mem_keys_lookupStatistic s q name id).trans (or_congr_right (hmatch q).symm)
  | _ => simp [serve, meets]

/-- Unless nothing is handed out, what is come across and what is handed out match one by one. -/
theorem objects_serve (hs : s.Sound) {r : Request} (hr : r.object? = none) :
    (s.serve r).2.objects = [] ∨
      List.Forall₂ (fun id k => (s.serve r).1.StandsFor k id) (s.meets r) (s.serve r).2.objects := by
  cases r with
  | all t => exact .inr (standsFor_internAll hs fun _ hid => hid)
  | lookup t q =>
    cases hfound : (s.lookup q).2 with
    | error f => exact .inl (by simp only [serve, hfound]; rfl)
    | ok k =>
      obtain ⟨id, hid, hk⟩ := standsFor_lookup hs hfound
      right
      simp only [serve, meets, hfound, hid]
      exact .cons hk .nil
  | lookupStatistic t q name =>
    cases hfound : (s.lookupStatistic q name).2 with
    | error f => exact .inl (by simp only [serve, hfound]; rfl)
    | ok statistic =>
      obtain ⟨id, k, hid, hparent, hk⟩ := standsFor_lookupStatistic hs hfound
      right
      simp only [serve, meets, hfound, hid, Reply.objects, hparent]
      exact .cons hk .nil
  | refresh k => cases hr
  | statistic k name => cases hr
  | statistics k => cases hr
  | _ => exact .inl rfl

theorem objects_serve_object {r : Request} {k : KStatId} (hr : r.object? = some k) {id : RecordId}
    (hk : s.StandsFor k id) :
    (s.serve r).1.StandsFor k id ∧ ∀ object ∈ (s.serve r).2.objects, object = k := by
  cases r with
  | refresh k' =>
    cases hr
    exact ⟨(Move.refresh hk).advances.standsFor hk, fun object hobject => nomatch hobject⟩
  | statistic k' name =>
    cases hr
    refine ⟨(moves_statistic hk name).advances.standsFor hk, fun object hobject => ?_⟩
    cases hok : (s.statistic k name).2 with
    | error f => simp [serve, hok, Reply.objects] at hobject
    | ok found => simpa [serve, hok, Reply.objects, parent_statistic hok] using hobject
  | statistics k' =>
    cases hr
    refine ⟨(moves_statistics hk).advances.standsFor hk, fun object hobject => ?_⟩
    cases hok : (s.statistics k).2 with
    | error f => simp [serve, hok, Reply.objects] at hobject
    | ok found =>
      simp only [serve, hok, Reply.objects, List.mem_filterMap] at hobject
      obtain ⟨statistic, hmem, hparent⟩ := hobject
      rw [parent_statistics hok hmem] at hparent
      exact (Option.some.inj hparent).symm
  | _ => cases hr

theorem map_snd_sightings (hs : s.Sound) (r : Request) :
    (s.sightings r).map Prod.snd = (s.serve r).2.objects := by
  unfold sightings
  split
  · simp [Function.comp_def]
  · next hr =>
    rcases objects_serve hs hr with hnone | hmatched
    · simp [hnone]
    · exact List.map_snd_zip (Nat.le_of_eq hmatched.length_eq.symm)

theorem standsFor_sightings (hs : s.Sound) {r : Request}
    (hr : ∀ k, r.object? = some k → ∃ id, s.StandsFor k id) {id : RecordId} {object : KStatId}
    (hseen : (id, object) ∈ s.sightings r) : (s.serve r).1.StandsFor object id := by
  unfold sightings at hseen
  split at hseen
  · next k hk =>
    obtain ⟨own, hstands⟩ := hr k hk
    obtain ⟨hkept, honly⟩ := objects_serve_object hk hstands
    obtain ⟨_, hother, heq⟩ := List.mem_map.1 hseen
    cases heq
    rw [honly _ hother, hstands.record]
    exact hkept
  · next hnone =>
    rcases objects_serve hs hnone with hnothing | hmatched
    · simp [hnothing] at hseen
    · exact List.forall₂_zip hmatched hseen

end

end Session

namespace Client

def sightings (t : TokenId) (c : Client) (r : Request) : List (RecordId × KStatId) :=
  if c.addressee r = some t then ((c.session? t).map (·.sightings r)).getD [] else []

/-- The kstats that a token comes across in a request. -/
def met (t : TokenId) (c : Client) (r : Request) : List RecordId :=
  if c.addressee r = some t then ((c.session? t).map (·.meets r)).getD [] else []

def cached (c : Client) (t : TokenId) : List RecordId := (c.tokens[t]?.map (·.cache.keys)).getD []

section

variable {c c' : Client} {t : TokenId} {s : Session} {r : Request} {who : Option TokenId}

/-! ### One request -/

theorem objects_of_none (hs : c.session? t = none) (hr : c.addressee r = some t) :
    (c.perform r).result.objects = [] := by
  have hnobody : ∀ u, c.addressee r = some u → c.session? u = none := fun u hu =>
    Option.some.inj (hr.symm.trans hu) ▸ hs
  have hopen : ∀ facility, r ≠ .openToken facility := by
    rintro facility rfl
    cases hr
  obtain ⟨hreply, -⟩ := unserved_perform hnobody hopen
  generalize (c.perform r).result = reply at hreply ⊢
  cases hreply <;> rfl

theorem objects_release (hr : r = .close t ∨ r = .destroy t) : (c.perform r).result.objects = [] := by
  rcases hr with rfl | rfl
  · exact withToken_ind (fun o => o.result.objects = []) rfl rfl
  · exact withToken_ind (fun o => o.result.objects = []) rfl rfl

theorem map_snd_sightings_perform (hc : c.WellFormed) (hr : c.addressee r = some t) :
    (c.sightings t r).map Prod.snd = (c.perform r).result.objects := by
  unfold sightings
  rw [if_pos hr]
  cases hs : c.session? t with
  | none => rw [objects_of_none hs hr]; rfl
  | some s =>
    simp only [Option.map_some, Option.getD_some]
    rw [Session.map_snd_sightings (hc.sound hs)]
    by_cases hrelease : r = .close t ∨ r = .destroy t
    · rw [objects_release hrelease]
      rcases hrelease with rfl | rfl <;> rfl
    · rw [perform_of_session? hc hs hr (fun h => hrelease (.inl h)) (fun h => hrelease (.inr h))]
      rfl

theorem origin_of_sighting (hc : c.WellFormed) {id : RecordId} {k : KStatId}
    (hseen : (id, k) ∈ c.sightings t r) :
    ((c.perform r).client.kstats.map KStat.origin)[k]? = some (t, id) := by
  unfold sightings at hseen
  split at hseen
  · next hr =>
    cases hs : c.session? t with
    | none => simp [hs] at hseen
    | some s =>
      have hobject : ∀ k, r.object? = some k → ∃ id, s.StandsFor k id := fun k hk =>
        standsFor_of_addressee hs hr hk
      have hsound := hc.sound hs
      have htoken : s.token = t := by
        obtain ⟨token, handle, -, -, rfl⟩ := session?_eq_some_iff.1 hs
        rfl
      simp only [hs, Option.map_some, Option.getD_some] at hseen
      have hstands := Session.standsFor_sightings hsound hobject hseen
      unfold Session.StandsFor at hstands
      rw [(Session.moves_serve hsound hobject).advances.token, htoken] at hstands
      have hclose : r ≠ .close t := by
        rintro rfl
        cases hseen
      have hdestroy : r ≠ .destroy t := by
        rintro rfl
        cases hseen
      rw [perform_of_session? hc hs hr hclose hdestroy]
      exact hstands
  · cases hseen

theorem Step.origin (hstep : c.Step who c') {k : KStatId} {origin : TokenId × RecordId}
    (hk : (c.kstats.map KStat.origin)[k]? = some origin) :
    (c'.kstats.map KStat.origin)[k]? = some origin := by
  cases hstep with
  | called hs hmoves =>
    have hlt : k < c.kstats.length := by simpa using (List.getElem?_eq_some_iff.1 hk).1
    exact ((grownBy_of_session? hs hmoves).origins hlt).trans hk
  | _ => exact hk

theorem Step.cached_of_ne (hstep : c.Step who c') (hwho : who ≠ some t) : c'.cached t = c.cached t := by
  cases hstep with
  | same => rfl
  | edited => rfl
  | unopened => rfl
  | @opened f handle hhandle =>
    unfold cached
    by_cases hlt : t < c.tokens.length
    · rw [List.getElem?_append_left hlt]
    · have hle := Nat.le_of_not_lt hlt
      rw [List.getElem?_append_right hle, List.getElem?_eq_none hle, List.getElem?_singleton]
      split <;> rfl
  | @closed u token handle htoken hhandle alive =>
    have hut : u ≠ t := fun heq => hwho (congrArg some heq)
    simp only [cached, List.getElem?_set_ne hut]
  | @buried u token htoken hclosed =>
    have hut : u ≠ t := fun heq => hwho (congrArg some heq)
    simp only [cached, List.getElem?_set_ne hut]
  | @called u s s' hs hmoves =>
    have hut : u ≠ t := fun heq => hwho (congrArg some heq)
    simp only [cached, settle, List.getElem?_modify_ne _ _ hut]

theorem Step.eq_of_unknown (hstep : c.Step (some t) c') (ht : c.tokens.length ≤ t) : c' = c := by
  have hnone : c.tokens[t]? = none := List.getElem?_eq_none ht
  cases hstep with
  | same => rfl
  | closed htoken => rw [hnone] at htoken; cases htoken
  | buried htoken => rw [hnone] at htoken; cases htoken
  | called hs =>
    obtain ⟨token, handle, htoken, -, -⟩ := session?_eq_some_iff.1 hs
    rw [hnone] at htoken
    cases htoken

theorem cached_of_session? (hs : c.session? t = some s) : c.cached t = s.cache.keys := by
  obtain ⟨token, handle, htoken, -, rfl⟩ := session?_eq_some_iff.1 hs
  unfold cached
  rw [htoken]
  rfl

theorem cached_settle (hs : c.session? t = some s) (s' : Session) :
    (c.settle t s').cached t = s'.cache.keys := by
  obtain ⟨token, handle, htoken, -, -⟩ := session?_eq_some_iff.1 hs
  unfold cached settle
  rw [List.getElem?_modify_eq, htoken]
  rfl

/-- Until its token is shut, a cache gains what the token comes across, and loses nothing. -/
theorem mem_cached_perform (hc : c.WellFormed) (hopen : ¬(c.perform r).client.Shut t) (id : RecordId) :
    id ∈ (c.perform r).client.cached t ↔ id ∈ c.cached t ∨ id ∈ c.met t r := by
  have hstep := step_perform hc r
  unfold met
  by_cases hr : c.addressee r = some t
  · rw [if_pos hr]
    cases hs : c.session? t with
    | none =>
      -- neither open nor shut: a token that is still to be opened
      have hunknown : c.tokens.length ≤ t := by
        by_contra hlt
        exact hopen (hstep.shut ⟨Nat.lt_of_not_le hlt, session?_eq_none_iff.1 hs⟩)
      rw [hr] at hstep
      rw [hstep.eq_of_unknown hunknown]
      simp
    | some s =>
      obtain ⟨token, handle, htoken, -, -⟩ := session?_eq_some_iff.1 hs
      have hlt := (List.getElem?_eq_some_iff.1 htoken).1
      have hclose : r ≠ .close t := fun h => hopen (shut_release hc hlt (.inl h)).1
      have hdestroy : r ≠ .destroy t := fun h => hopen (shut_release hc hlt (.inr h)).1
      rw [perform_of_session? hc hs hr hclose hdestroy, served, cached_settle hs, cached_of_session? hs]
      exact Session.mem_keys_serve s r id
  · rw [if_neg hr, hstep.cached_of_ne hr]
    simp

/-! ### The history -/

theorem origin_of_gather_sightings (kernel : Kernel) (requests : List Request) {t : TokenId}
    {id : RecordId} {k : KStatId} (hseen : (id, k) ∈ gather (sightings t) { kernel } requests) :
    ((run { kernel } requests).kstats.map KStat.origin)[k]? = some (t, id) := by
  have hstart : ∀ id k, (id, k) ∈ ([] : List (RecordId × KStatId)) →
      ((Client.mk kernel [] []).kstats.map KStat.origin)[k]? = some (t, id) := fun _ _ hnone => nomatch hnone
  -- the history is about all pairs at once, so they go into what is carried through the run
  revert id k
  suffices hall : ∀ id k, (id, k) ∈ gather (sightings t) { kernel } requests →
      ((run { kernel } requests).kstats.map KStat.origin)[k]? = some (t, id) from fun {id k} => hall id k
  refine gather_induction (fun c past => ∀ id k, (id, k) ∈ past →
    (c.kstats.map KStat.origin)[k]? = some (t, id)) ?_ (.start kernel) hstart requests
  intro c past r hc hpast id k hseen
  rcases List.mem_append.1 hseen with hearlier | hnow
  · exact (step_perform hc r).origin (hpast id k hearlier)
  · exact origin_of_sighting hc hnow

theorem mem_cached_run (kernel : Kernel) (requests : List Request) {t : TokenId}
    (hopen : ¬(run { kernel } requests).Shut t) (id : RecordId) :
    id ∈ (run { kernel } requests).cached t ↔ id ∈ gather (met t) { kernel } requests := by
  have hstart : ¬Shut { kernel } t → ∀ id, id ∈ cached { kernel } t ↔ id ∈ ([] : List RecordId) := by
    intro _ id
    simp [cached]
  revert id
  revert hopen
  refine gather_induction (fun c past => ¬c.Shut t → ∀ id, id ∈ c.cached t ↔ id ∈ past) ?_
    (.start kernel) hstart requests
  intro c past r hc hpast hopen id
  have hbefore : ¬c.Shut t := fun hshut => hopen ((step_perform hc r).shut hshut)
  rw [mem_cached_perform hc hopen, hpast hbefore, List.mem_append]

theorem nodup_cached (hc : c.WellFormed) (hopen : c.isOpen t = true) : (c.cached t).Nodup := by
  obtain ⟨s, hs⟩ := exists_session? hopen
  rw [cached_of_session? hs]
  exact (hc.sound hs).indexed.nodup

theorem length_cached (c : Client) (t : TokenId) : (c.cached t).length = c.cachedCount t := by
  unfold cached cachedCount
  cases c.tokens[t]? with
  | none => rfl
  | some token => exact Cache.length_keys

/-- A token that is open has counted what it came across, each kstat once. -/
theorem cachedCount_run (kernel : Kernel) (requests : List Request) {t : TokenId}
    (hopen : (run { kernel } requests).isOpen t = true) :
    (run { kernel } requests).cachedCount t = (gather (met t) { kernel } requests).dedup.length := by
  have hnow : (run { kernel } requests).WellFormed := (WellFormed.start kernel).run requests
  have hshut : ¬(run { kernel } requests).Shut t := fun hshut => by
    rw [hshut.closed] at hopen
    cases hopen
  rw [← length_cached]
  exact length_eq_dedup (nodup_cached hnow hopen) (mem_cached_run kernel requests hshut)

end

/-- **One object for each kstat.** Over a whole run, what a token hands out is the same object if it was
got from the same kstat, and another one if not. As long as the token is open, its cache counts the
different kstats that it walked over or that a lookup matched, whether or not they could be read. -/
theorem one_object_per_kstat (kernel : Kernel) (requests : List Request) (t : TokenId) :
    let now := run { kernel } requests
    let seen := gather (sightings t) { kernel } requests
    (∀ r, now.addressee r = some t →
      (now.sightings t r).map Prod.snd = (now.perform r).result.objects) ∧
    (∀ id k id' k', (id, k) ∈ seen → (id', k') ∈ seen → (id = id' ↔ k = k')) ∧
    (now.isOpen t = true →
      now.cachedCount t = (gather (met t) { kernel } requests).dedup.length) := by
  intro now seen
  have hnow : now.WellFormed := (WellFormed.start kernel).run requests
  refine ⟨fun r hr => map_snd_sightings_perform hnow hr, fun id k id' k' hseen hseen' => ?_,
    fun hopen => ?_⟩
  · have horigin := origin_of_gather_sightings kernel requests hseen
    have horigin' := origin_of_gather_sightings kernel requests hseen'
    constructor
    · rintro rfl
      -- no two objects have one origin
      have hlt := (List.getElem?_eq_some_iff.1 horigin).1
      exact (List.getElem?_inj hlt hnow.distinct).1 (horigin.trans horigin'.symm)
    · rintro rfl
      exact congrArg Prod.snd (Option.some.inj (horigin.symm.trans horigin'))
  · exact cachedCount_run kernel requests hopen

/-- A kstat counts although it could not be read. -/
example :
    let patch : Chain.Patch := { readErrno := some 5 }
    let c := run { kernel := { chain := Chain.sample } }
      [.openToken (some .library), .edit (.amend 0 patch), .lookup 0 ⟨[], Query.anyInstance, []⟩]
    c.cachedCount 0 = 1 := by
  decide

end Client

end KernelStats
