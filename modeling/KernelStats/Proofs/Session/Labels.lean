import KernelStats.Proofs.Client.Moments
import KernelStats.Proofs.Handle.Reads

/-!
# Labels

An object is labelled with the identity that its kstat had when the object was made. No call changes
what a kstat is, and a private copy is out of reach of everybody else, so the labels of a library
token stay true for ever. Those of a live token can only go stale through an edit; they stay true as
far as they are looked at, if no edit changes what is looked at.
-/

namespace KernelStats

theorem Handle.identities_congr {k k' : Kernel} (hentries : k'.chain.entries = k.chain.entries)
    (h : Handle) : h.identities k' = h.identities k := by
  match h with
  | live =>
    show k'.chain.entries.map _ = k.chain.entries.map _
    rw [hentries]
  | library none => rfl
  | library (some control) => rfl

namespace Session

variable {α : Type} {view : Identity → α} {s s' : Session} {a : Action} {k : KStatId} {id : RecordId}

def identity? (s : Session) (id : RecordId) : Option Identity := s.handle.identity? s.kernel id

theorem identities_act (s : Session) (a : Action) :
    (s.act a).handle.identities (s.act a).kernel = s.handle.identities s.kernel := by
  cases a with
  | report events => rfl
  | search q =>
    apply Handle.identities_congr
    show (s.handle.lookup s.kernel q).1.chain.entries = _
    rw [Handle.chain_lookup]
  | pick id name =>
    apply Handle.identities_congr
    show (s.handle.record? s.kernel id name).1.chain.entries = _
    rw [Handle.chain_record?]
  | intern id =>
    rw [show (s.act (.intern id)).handle = _ from handle_intern s id,
      show (s.act (.intern id)).kernel = _ from kernel_intern s id]
  | refresh k =>
    rw [show (s.act (.refresh k)).handle = _ from handle_refresh s k,
      show (s.act (.refresh k)).kernel = _ from kernel_refresh s k, Handle.identities_read]

theorem identity?_act (s : Session) (a : Action) (id : RecordId) :
    (s.act a).identity? id = s.identity? id := congrArg id.get? (s.identities_act a)

/-- Only meeting a kstat for the first time makes an object. -/
theorem standsFor_of_act (hk : (s.act a).StandsFor k id) :
    s.StandsFor k id ∨ (a = .intern id ∧ s.cache.find? id = none ∧ k = s.kstats.length) := by
  cases a with
  | report events => exact .inl hk
  | search q => exact .inl hk
  | pick id name => exact .inl hk
  | refresh k =>
    unfold StandsFor at hk
    rw [show (s.act (.refresh k)).token = _ from token_refresh s k,
      show (s.act (.refresh k)).kstats.map KStat.origin = _ from origins_refresh s k] at hk
    exact .inl hk
  | intern met =>
    unfold StandsFor at hk
    rw [show (s.act (.intern met)).token = _ from token_intern s met] at hk
    replace hk : ((s.intern met).1.kstats.map KStat.origin)[k]? = some (s.token, id) := hk
    cases hfind : s.cache.find? met with
    | some cached =>
      rw [intern_of_find? hfind] at hk
      exact .inl hk
    | none =>
      rw [intern_of_none hfind] at hk
      simp only [report, List.map_append, List.map_singleton] at hk
      by_cases hlt : k < s.kstats.length
      · rw [List.getElem?_append_left (by simpa using hlt)] at hk
        exact .inl hk
      · right
        have hle : (s.kstats.map KStat.origin).length ≤ k := by simpa using hlt
        rw [List.getElem?_append_right hle, List.getElem?_singleton] at hk
        split at hk
        · next hzero =>
          have hid : met = id := congrArg Prod.snd (Option.some.inj hk)
          subst hid
          rw [List.length_map] at hzero hle
          exact ⟨rfl, hfind, Nat.le_antisymm (Nat.le_of_sub_eq_zero hzero) hle⟩
        · cases hk

theorem kstat_intern (hfind : s.cache.find? id = none) :
    (s.act (.intern id)).kstat s.kstats.length =
      KStat.ofHeader s.token id (s.handle.header s.kernel id) := by
  show (s.intern id).1.kstat s.kstats.length = _
  rw [intern_of_none hfind]
  simp [kstat, report, List.getD]

/-- Every object is labelled with what its kstat is, as far as `view` looks. -/
def Labelled (view : Identity → α) (s : Session) : Prop :=
  ∀ k id, s.StandsFor k id → ∃ i, s.identity? id = some i ∧ view (s.kstat k).identity = view i

theorem Labelled.act (h : s.Labelled view) (ha : s.Admits a) : (s.act a).Labelled view := by
  intro k id hk
  rw [identity?_act]
  rcases standsFor_of_act hk with hold | ⟨rfl, hfind, rfl⟩
  · rw [ha.move.advances.identity hold]
    exact h k id hold
  · obtain ⟨i, hi⟩ := Handle.mem_walk_iff.1 ha
    refine ⟨i, hi, ?_⟩
    rw [kstat_intern hfind]
    show view (s.handle.header s.kernel id).toIdentity = _
    rw [Handle.toIdentity_header, hi, Option.getD_some]

theorem Labelled.plays {actions : List Action} (h : s.Labelled view) (hplays : s.Plays actions s') :
    s'.Labelled view := by
  induction hplays with
  | nil => exact h
  | cons ha _ ih => exact ih (h.act ha)

theorem Plays.identities {actions : List Action} (h : s.Plays actions s') :
    s'.handle.identities s'.kernel = s.handle.identities s.kernel := by
  induction h with
  | nil => rfl
  | cons _ _ ih => exact ih.trans (identities_act _ _)

/-- The labels outlast what others do, if the handle goes on to show the same. -/
theorem Labelled.meanwhile (h : s.Labelled view) (hmeanwhile : s.Meanwhile s')
    (hshown : ∀ id i, s.identity? id = some i → ∃ i', s'.identity? id = some i' ∧ view i' = view i) :
    s'.Labelled view := by
  intro k id hk
  have hk := hmeanwhile.standsFor.1 hk
  obtain ⟨i, hi, hview⟩ := h k id hk
  obtain ⟨i', hi', hview'⟩ := hshown id i hi
  refine ⟨i', hi', ?_⟩
  rw [hmeanwhile.kstat hk, hview, hview']

/-- A library handle shows its copy, and nobody else can touch that. -/
theorem Meanwhile.identities_library (hmeanwhile : s.Meanwhile s') (hlibrary : s.handle.facility = .library) :
    s'.handle.identities s'.kernel = s.handle.identities s.kernel := by
  rw [hmeanwhile.handle]
  match hhandle : s.handle with
  | .live =>
    rw [hhandle] at hlibrary
    cases hlibrary
  | .library none => rfl
  | .library (some control) => rfl

theorem Meanwhile.identity?_library (hmeanwhile : s.Meanwhile s') (hlibrary : s.handle.facility = .library)
    (id : RecordId) : s'.identity? id = s.identity? id :=
  congrArg id.get? (hmeanwhile.identities_library hlibrary)

theorem labelled_of_unused (hnone : ∀ kstat ∈ s.kstats, kstat.token ≠ s.token) : s.Labelled view := by
  intro k id hk
  obtain ⟨kstat, hkstat, horigin⟩ := Option.map_eq_some_iff.1 ((List.getElem?_map ..).symm.trans hk)
  exact absurd (congrArg Prod.fst horigin) (hnone kstat (List.mem_of_getElem? hkstat))

end Session

end KernelStats
