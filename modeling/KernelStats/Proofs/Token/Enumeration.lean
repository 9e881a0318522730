import KernelStats.Chain.Sample
import KernelStats.Proofs.Session.Enumeration
import KernelStats.Proofs.Token.Failures
import Mathlib.Data.List.Induction

/-!
# Enumerations list the chain

An enumeration has one object for each kstat that the handle shows, in the order of the chain: the object that
the token has for it already, or a new one with the header of now. A live handle shows the chain as it is. A
library handle shows what was on the chain when its token was opened, under names as far as a name field goes,
and goes on to do so whatever becomes of the chain.
-/

namespace KernelStats

def Identity.bounded (size : Nat) (i : Identity) : Identity :=
  { i with
    moduleName := i.moduleName.bounded size
    name := i.name.bounded size
    className := i.className.bounded size }

theorem Handle.identities_ofChain (k : Kernel) (c : Chain) :
    (library (some (.ofChain c))).identities k = c.identities.map (Identity.bounded nameSize) := by
  simp only [identities, Control.ofChain, Chain.identities, List.map_map]
  apply List.map_congr_left
  intro e _
  simp only [Function.comp_apply, Control.Item.header, Control.Item.ofEntry, Field.text_ofBytes]
  rfl

namespace Client

/-! ### What a handle shows -/

/-- A library token goes on to show what was on the chain when it was opened. -/
theorem opened_library (kernel : Kernel) (requests : List Request) {t : TokenId} {s : Session}
    (hs : (run { kernel } requests).session? t = some s) (hlibrary : s.handle.facility = .library) :
    ∃ before later, requests = before ++ .openToken (some .library) :: later ∧
      ((run { kernel } before).openToken (some .library)).result = .ok t ∧
      s.handle.identities s.kernel =
        (run { kernel } before).kernel.chain.identities.map (Identity.bounded nameSize) := by
  -- by the last request of the run
  induction requests using List.reverseRecOn generalizing s with
  | nil => cases hs
  | append_singleton requests r ih =>
    have hlast : run { kernel } (requests ++ [r]) = ((run { kernel } requests).perform r).client :=
      run_append { kernel } requests [r]
    have hlonger : ∀ {s₀ : Session}, (run { kernel } requests).session? t = some s₀ →
        s₀.handle.facility = .library → s.handle.identities s.kernel = s₀.handle.identities s₀.kernel →
        ∃ before later, requests ++ [r] = before ++ .openToken (some .library) :: later ∧
          ((run { kernel } before).openToken (some .library)).result = .ok t ∧
          s.handle.identities s.kernel =
            (run { kernel } before).kernel.chain.identities.map (Identity.bounded nameSize) := by
      intro s₀ hs₀ hlibrary₀ hsame
      obtain ⟨before, later, rfl, hopened, hshown⟩ := ih hs₀ hlibrary₀
      exact ⟨before, later ++ [r], by simp, hopened, hsame.trans hshown⟩
    have hc : (run { kernel } requests).WellFormed := (WellFormed.start kernel).run requests
    rw [hlast] at hs
    rcases session?_perform hc hs with ⟨f, handle, rfl, hhandle, rfl, rfl⟩ |
      ⟨s₀, hs₀, ⟨-, hmeanwhile⟩ | ⟨hown, -, -, rfl⟩⟩
    · rcases Facility.handle_openHandle hhandle with ⟨-, rfl⟩ | ⟨rfl, rfl⟩
      · cases hlibrary
      · refine ⟨requests, [], rfl, ?_, Handle.identities_ofChain _ _⟩
        rw [outcome_openToken_library]
        by_cases hgood : (run { kernel } requests).kernel.chain.openErrno = 0
        · simp only [if_pos hgood]
        · simp only [Facility.openHandle, Kernel.openControl, if_neg hgood] at hhandle
          cases hhandle
    · have hlibrary₀ : s₀.handle.facility = .library := hmeanwhile.handle ▸ hlibrary
      exact hlonger hs₀ hlibrary₀ (hmeanwhile.identities_library hlibrary₀)
    · have hplays := plays_of_session? hc hs₀ hown
      have hlibrary₀ : s₀.handle.facility = .library := by
        rw [← hlibrary]
        exact hplays.facility.symm
      exact hlonger hs₀ hlibrary₀ hplays.identities

/-! ### What an enumeration does -/

/-- The outcome of an enumeration of a token, by what its handle shows at that moment. -/
structure Enumerates (c : Client) (t : TokenId) (handle : Handle) (o : Outcome (List KStatId)) : Prop where
  length : o.result.length = handle.length c.kernel
  nodup : o.result.Nodup
  /-- Each kstat has its object, the old one or a new one. -/
  listed : ∀ i < handle.length c.kernel, ∃ k, o.result[i]? = some k ∧
    (o.client.kstat? k).map KStat.origin = some (t, .ofIndex i) ∧
    o.client.object? t (.ofIndex i) = some k ∧
    (∀ old, c.object? t (.ofIndex i) = some old → k = old) ∧
    (c.object? t (.ofIndex i) = none → c.kstats.length ≤ k ∧ o.client.kstat? k =
      some (KStat.ofHeader t (.ofIndex i) (handle.header c.kernel (.ofIndex i))))
  /-- The objects of other kstats, and those of other tokens, are cached as before. -/
  others : ∀ u id, (u = t → id ∉ handle.walk c.kernel) → o.client.object? u id = c.object? u id
  kernel : o.client.kernel = c.kernel
  handles : ∀ u, o.client.handle? u = c.handle? u
  /-- All that is new are the objects of kstats that had none. -/
  kstats : o.client.kstats = c.kstats ++
    ((handle.walk c.kernel).filter fun id => (c.object? t id).isNone).map fun id =>
      KStat.ofHeader t id (handle.header c.kernel id)

variable {c : Client} {t : TokenId} {s s' : Session}

theorem handle?_settle (hs : c.session? t = some s) (hsame : s'.handle = s.handle) (u : TokenId) :
    (c.settle t s').handle? u = c.handle? u := by
  by_cases hut : u = t
  · subst hut
    obtain ⟨token, handle, htoken, hhandle, rfl⟩ := session?_eq_some_iff.1 hs
    rw [handle?, handle?, settle, List.getElem?_modify_eq, htoken, hsame]
    exact hhandle.symm
  · rw [handle?, handle?, settle, List.getElem?_modify_ne _ _ (Ne.symm hut)]

theorem enumerates_settle (hs : c.session? t = some s) {ks : List KStatId} (h : s.Enumerates s' ks)
    {log : List Event} : c.Enumerates t s.handle { client := c.settle t s', result := ks, log } := by
  have hkernel := kernel_of_session? hs
  have htoken := token_of_session? hs
  have hkstats := kstats_of_session? hs
  have hfresh : s.fresh = fun id => KStat.ofHeader t id (s.handle.header c.kernel id) := by
    funext id
    rw [Session.fresh, htoken, hkernel]
  have hobject : ∀ id, (c.settle t s').object? t id = s'.cache.find? id := fun id => by
    rw [object?_settle hs, if_pos rfl]
  have hlength := h.listed.length_eq
  rw [Handle.walk_eq, List.length_map, List.length_range, hkernel] at hlength
  refine ⟨hlength.symm, h.nodup, fun i hi => ?_, fun u id hid => ?_, h.kernel.trans hkernel,
    handle?_settle hs h.handle, ?_⟩
  · have hmem : RecordId.ofIndex i ∈ s.handle.walk s.kernel := Handle.mem_walk.2 ⟨i, hkernel ▸ hi, rfl⟩
    rcases getElem?_of_forall₂ h.listed i with ⟨-, hnone⟩ | ⟨id, k, hid, hk, hstands, hcached⟩
    · rw [List.getElem?_eq_none_iff, ← hlength] at hnone
      exact absurd hi (Nat.not_lt.2 hnone)
    · obtain rfl : RecordId.ofIndex i = id := by
        rw [Handle.walk_eq, List.getElem?_map, List.getElem?_range (hkernel ▸ hi)] at hid
        exact Option.some.inj hid
      refine ⟨k, hk, ?_, by rw [hobject, hcached], fun old hold => ?_, fun hnew => ?_⟩
      · show (s'.kstats[k]?).map KStat.origin = _
        rw [hstands.getElem?, Option.map_some, hstands.origin, h.token, htoken]
      · rw [object?_of_session? hs] at hold
        exact Option.some.inj (hcached.symm.trans (h.cached _ hmem old hold))
      · rw [object?_of_session? hs] at hnew
        obtain ⟨hle, hmade⟩ := h.made _ k hnew hcached
        refine ⟨hkstats ▸ hle, ?_⟩
        rw [hfresh] at hmade
        exact hstands.getElem?.trans (congrArg some hmade)
  · rw [object?_settle hs]
    split
    · next hut =>
      subst hut
      rw [object?_of_session? hs]
      exact h.others id (hkernel ▸ hid rfl)
    · rfl
  · show s'.kstats = _
    rw [h.kstats, hkstats, hkernel, hfresh]
    simp only [object?_of_session? hs]

/-- **Enumerations list the chain.** After every run, an enumeration of an open token walks along the handle's
chain, ends, and has one object for each kstat in order: the one that is cached, or a new one with the header of
now. Nothing else changes. The chain of a live token is the chain as it is now, and that of a library token is the
chain as it was when the token was opened, with every text cut at a NUL and after 31 bytes. -/
theorem enumeration_lists_chain (kernel : Kernel) (requests : List Request) {t : TokenId} {handle : Handle}
    (hopen : (run { kernel } requests).handle? t = some handle) :
    let now := run { kernel } requests
    now.Enumerates t handle (now.all t) ∧
    (∃ s s', now.session? t = some s ∧ (now.all t).client = now.settle t s' ∧
      s.Visits (handle.head? now.kernel) s' (now.all t).result ∧
      ∀ other ks, s.Visits (handle.head? now.kernel) other ks → other = s' ∧ ks = (now.all t).result) ∧
    (handle = .live → handle.length now.kernel = now.kernel.chain.length ∧
      ∀ i e, now.kernel.chain.entries[i]? = some e → handle.header now.kernel (.ofIndex i) = e.header) ∧
    (handle.facility = .library → ∃ before later, requests = before ++ .openToken (some .library) :: later ∧
      let opening := run { kernel } before
      (opening.openToken (some .library)).result = .ok t ∧
      handle.length now.kernel = opening.kernel.chain.length ∧
      ∀ i e, opening.kernel.chain.entries[i]? = some e →
        (handle.header now.kernel (.ofIndex i)).toIdentity = e.header.toIdentity.bounded nameSize) := by
  intro now
  have hnow : now.WellFormed := (WellFormed.start kernel).run requests
  obtain ⟨s, hs, rfl⟩ := exists_session?_of_handle? hopen
  have hkernel : s.kernel = now.kernel := kernel_of_session? hs
  have hall : now.all t = { client := now.settle t s.all.1, result := s.all.2, log := s.all.1.log } :=
    onOpen_of_session? hs [] Session.all
  rw [hall, ← hkernel]
  refine ⟨enumerates_settle hs (Session.enumerates_all (hnow.sound hs)), ?_, fun hlive => ?_, fun hlibrary => ?_⟩
  · have hvisits := s.visits_all
    exact ⟨s, s.all.1, hs, rfl, hvisits, fun _ _ h => hvisits.unique h⟩
  · rw [hlive]
    refine ⟨rfl, fun i e he => ?_⟩
    simp only [Handle.header, Chain.entry?, RecordId.get?_ofIndex, he, Option.map_some, Option.getD_some]
  · obtain ⟨before, later, hrequests, hopened, hshown⟩ := opened_library kernel requests hs hlibrary
    refine ⟨before, later, hrequests, hopened, ?_, fun i e he => ?_⟩
    · rw [← Handle.length_identities, hshown, List.length_map]
      exact List.length_map _
    · rw [Handle.toIdentity_header, Handle.identity?, hshown, RecordId.get?_ofIndex, List.getElem?_map,
        Chain.identities, List.getElem?_map, he]
      rfl

/-- A copy is listed whole after the chain has lost a kstat, and the cached object has its place in the list. -/
theorem enumeration_lists_chain_despite_edits :
    let requests : List Request :=
      [.openToken (some .library), .lookup 0 ⟨utf8 "link", Query.anyInstance, []⟩, .edit .pop]
    let now := run { kernel := { chain := Chain.sample } } requests
    (∃ handle, now.handle? 0 = some handle ∧ now.Enumerates 0 handle (now.all 0)) ∧
      now.kernel.chain.length = 3 ∧ (now.all 0).result.length = 4 ∧ (now.all 0).result[3]? = some 0 := by
  intro requests now
  obtain ⟨handle, hopen⟩ : ∃ handle, now.handle? 0 = some handle := Option.isSome_iff_exists.1 (by decide)
  have hlength : (now.handle? 0).map (·.length now.kernel) = some 4 := by decide
  rw [hopen] at hlength
  have hlength : handle.length now.kernel = 4 := Option.some.inj hlength
  have hlisted := (enumeration_lists_chain { chain := Chain.sample } requests hopen).1
  obtain ⟨k, hk, -, -, hold, -⟩ := hlisted.listed 3 (by rw [hlength]; decide)
  obtain rfl : k = 0 := hold 0 (by decide)
  exact ⟨⟨handle, hopen, hlisted⟩, by decide, hlisted.length.trans hlength, hk⟩

end Client

end KernelStats
