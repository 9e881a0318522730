import KernelStats.Proofs.Client.Names
import KernelStats.Proofs.Handle.Lookups
import KernelStats.Proofs.Session.Enumeration
import KernelStats.Proofs.Token.OneRead

/-!
# Lookups agree with enumerations

An enumeration walks over all kstats, and a lookup asks the handle for one. Both go by the same order and
by the same names: what a lookup selects is the first object that an enumeration lists and that the
query fits, and it is that very object that the lookup answers with. For a library token this holds
whatever has become of the chain since the open, because both look at the private copy alone. A live
token looks at the chain itself, while its objects keep the names that their kstats had when they were
met, so there it holds as long as no kstat is renamed or taken away.
-/

namespace KernelStats

namespace Session

variable {α : Type} {view : Identity → α} {s s' : Session} {key : Bytes → Bytes} {q : Query}

/-! ### What is listed -/

theorem getElem?_all (hs : s.Sound) (j : Nat) :
    (s.handle.length s.kernel ≤ j ∧ s.all.2[j]? = none) ∨
      ∃ k, j < s.handle.length s.kernel ∧ s.all.2[j]? = some k ∧ s.all.1.StandsFor k (.ofIndex j) := by
  have hlisted : List.Forall₂ (fun id k => s.all.1.StandsFor k id) (s.handle.walk s.kernel) s.all.2 :=
    standsFor_internAll hs fun _ hid => hid
  rcases getElem?_of_forall₂ hlisted j with ⟨hid, hk⟩ | ⟨id, k, hid, hk, hstands⟩
  · rw [Handle.walk_eq, List.getElem?_map, Option.map_eq_none_iff, List.getElem?_eq_none_iff,
      List.length_range] at hid
    exact .inl ⟨hid, hk⟩
  · rw [Handle.walk_eq, List.getElem?_map] at hid
    obtain ⟨index, hindex, rfl⟩ := Option.map_eq_some_iff.1 hid
    obtain ⟨hlt, hself⟩ := List.getElem?_eq_some_iff.1 hindex
    rw [List.getElem_range] at hself
    subst hself
    exact .inr ⟨k, by simpa using hlt, hk, hstands⟩

/-- As far as its labels are true, an object is selected if and only if its kstat is. -/
theorem findIdx?_all (hs : s.Sound) (hlabelled : s.Labelled view)
    (hview : ∀ i j, view i = view j → q.selects key i = q.selects key j) :
    (s.all.2.findIdx? fun k => (s.all.1.kstats[k]?).any fun kstat => q.selects key kstat.identity) =
      (s.handle.identities s.kernel).findIdx? (q.selects key) := by
  have hplays : s.Plays _ s.all.1 := plays_internAll fun _ hid => hid
  have hafter := hlabelled.plays hplays
  have hsame : (s.all.2.map fun k => (s.all.1.kstats[k]?).any fun kstat => q.selects key kstat.identity) =
      (s.handle.identities s.kernel).map (q.selects key) := by
    apply List.ext_getElem?
    intro j
    rw [List.getElem?_map, List.getElem?_map]
    rcases getElem?_all hs j with ⟨hlength, hnone⟩ | ⟨k, hlt, hk, hstands⟩
    · rw [← Handle.length_identities] at hlength
      rw [hnone, List.getElem?_eq_none hlength]
      rfl
    · obtain ⟨i, hi, hlabel⟩ := hafter k _ hstands
      have hi : (s.all.1.handle.identities s.all.1.kernel)[j]? = some i := hi
      rw [hplays.identities] at hi
      rw [hk, hi, Option.map_some, Option.map_some, hstands.getElem?, Option.any_some, hview _ _ hlabel]
  have hfind := congrArg (List.findIdx? fun b => b) hsame
  rwa [List.findIdx?_map, List.findIdx?_map] at hfind

/-! ### What is looked up -/

theorem lookup_of_unselected (hs : s.Sound)
    (hfind : (s.handle.identities s.kernel).findIdx? (q.selects s.handle.key) = none) :
    ∃ e, e ≠ 0 ∧ s.lookup q = (s.searched q, .error (.noKStat q e)) := by
  have hlookup := Handle.lookup_eq hs.intact s.kernel q
  rw [hfind] at hlookup
  exact ⟨_, s.handle.searchErrno_ne s.kernel, lookup_of_error hlookup⟩

theorem lookup_of_selected (hs : s.Sound) {i : Nat}
    (hfind : (s.handle.identities s.kernel).findIdx? (q.selects s.handle.key) = some i) :
    ∃ k, (s.lookup q).1.StandsFor k (.ofIndex i) ∧ (s.lookup q).1.cache.find? (.ofIndex i) = some k ∧
      if s.kernel.chain.readErrno (.ofIndex i) = 0 then (s.lookup q).2 = .ok k
      else ∃ f, (s.lookup q).2 = .error f ∧ f.code = .readFailure := by
  have hlookup := Handle.lookup_eq hs.intact s.kernel q
  rw [hfind] at hlookup
  have hstands := standsFor_matched hs q (.ofIndex i)
  rw [lookup_of_ok hlookup]
  refine ⟨(s.matched q (.ofIndex i)).2, (Move.refresh hstands).advances.standsFor hstands, ?_, ?_⟩
  · rw [cache_refresh]
    exact find?_intern (s.searched q) (.ofIndex i)
  · simp only [refresh_eq, readErrno_matched hs]
    by_cases hgood : s.kernel.chain.readErrno (.ofIndex i) = 0
    · simp only [if_pos hgood]
      rfl
    · simp only [if_neg hgood]
      exact ⟨_, rfl, rfl⟩

theorem getElem?_all_of_standsFor (hs : s.Sound) {k : KStatId} {i : Nat} (hk : s.StandsFor k (.ofIndex i))
    (hlt : i < s.handle.length s.kernel) : s.all.2[i]? = some k := by
  rcases getElem?_all hs i with ⟨hle, -⟩ | ⟨k', -, hlisted, hk'⟩
  · exact absurd hlt (Nat.not_lt.2 hle)
  · have hkept := s.moves_all.advances.standsFor hk
    rw [hlisted, hk'.unique (s.moves_all.sound hs) hkept]

end Session

namespace Client

/-- A lookup of a token selects what an enumeration lists first among what the query fits, texts being
compared by their keys. -/
def Selects (key : Bytes → Bytes) (c : Client) (t : TokenId) (q : Query) : Prop :=
  let listed := c.all t
  let found := c.lookup t q
  let first := listed.result.findIdx? fun k =>
    (listed.client.kstat? k).any fun kstat => q.selects key kstat.identity
  (first = none → found.client.tokens = c.tokens ∧ found.client.kstats = c.kstats ∧
    ∃ f, found.result = .error f ∧ f.code = .lookupFailure ∧ f.errno ≠ 0) ∧
  ∀ i, first = some i → ∃ k kstat, found.client.kstat? k = some kstat ∧
    (listed.result[i]?.bind listed.client.kstat?).map KStat.origin = some kstat.origin ∧
    (∀ old, listed.result[i]? = some old → old < c.kstats.length → k = old) ∧
    (found.client.all t).result[i]? = some k ∧
    (found.client.tokens[t]?.bind fun token => token.cache.find? kstat.record) = some k ∧
    if c.kernel.chain.readErrno kstat.record = 0 then found.result = .ok k
    else ∃ f, found.result = .error f ∧ f.code = .readFailure

variable {c : Client} {t : TokenId} {s : Session}

theorem cached_of_settle (hs : c.session? t = some s) (s' : Session) (id : RecordId) :
    ((c.settle t s').tokens[t]?.bind fun token => token.cache.find? id) = s'.cache.find? id := by
  obtain ⟨token, handle, htoken, -, -⟩ := session?_eq_some_iff.1 hs
  rw [settle, List.getElem?_modify_eq, htoken]
  rfl

theorem selects_of_labelled {α : Type} {view : Identity → α} (hc : c.WellFormed) (hs : c.session? t = some s)
    (hlabelled : s.Labelled view) (q : Query)
    (hview : ∀ i j, view i = view j → q.selects s.handle.key i = q.selects s.handle.key j) :
    c.Selects s.handle.key t q := by
  have hsound := hc.sound hs
  have hlisted : c.all t = { client := c.settle t s.all.1, result := s.all.2, log := s.all.1.log } :=
    onOpen_of_session? hs [] Session.all
  have hfound : c.lookup t q =
      { client := c.settle t (s.lookup q).1, result := (s.lookup q).2, log := (s.lookup q).1.log } :=
    onOpen_of_session? hs _ _
  have hfirst := Session.findIdx?_all hsound hlabelled hview
  unfold Selects
  simp only [hlisted, hfound]
  refine ⟨fun hnone => ?_, fun i hsome => ?_⟩
  · obtain ⟨e, hne, hlookup⟩ := Session.lookup_of_unselected hsound (hfirst.symm.trans hnone)
    rw [hlookup]
    -- the search touches nothing but the kernel
    have htokens : (c.settle t s).tokens = c.tokens := congrArg Client.tokens (settle_self hs)
    have hkstats : s.kstats = c.kstats := kstats_of_session? hs
    exact ⟨htokens, hkstats, _, rfl, rfl, hne⟩
  · have hfind := hfirst.symm.trans hsome
    have hlt := (List.findIdx?_eq_some_iff_findIdx_eq.1 hfind).1
    rw [Handle.length_identities] at hlt
    obtain ⟨k, hk, hcached, hresult⟩ := Session.lookup_of_selected hsound hfind
    have hplays := Session.plays_lookup hsound q
    have hadvances := hplays.moves.advances
    have htoken := token_of_session? hs
    refine ⟨k, _, hk.getElem?, ?_, fun old hold hexists => ?_, ?_, ?_, ?_⟩
    · obtain ⟨hle, -⟩ | ⟨old, -, hold, hstands⟩ := Session.getElem?_all hsound i
      · exact absurd hlt (Nat.not_lt.2 hle)
      · rw [hold, Option.bind_some]
        show (s.all.1.kstats[old]?).map KStat.origin = _
        rw [hstands.getElem?, Option.map_some, hstands.origin, hk.origin, s.moves_all.advances.token,
          hadvances.token]
    · -- an object that was there before is the only one for its kstat
      obtain ⟨hle, -⟩ | ⟨old', -, hold', hstands⟩ := Session.getElem?_all hsound i
      · exact absurd hlt (Nat.not_lt.2 hle)
      · obtain rfl : old' = old := Option.some.inj (hold'.symm.trans hold)
        rw [← kstats_of_session? hs] at hexists
        exact hk.unique (hplays.moves.sound hsound) (hadvances.standsFor (hstands.of_all hexists))
    · have hsession := session?_settle hs (hadvances.token.trans htoken)
      have hwell := hc.settle hs hplays.moves
      rw [all, onOpen_of_session? hsession]
      refine Session.getElem?_all_of_standsFor (hwell.sound hsession) hk ?_
      have hlength := congrArg List.length hplays.identities
      rw [Handle.length_identities, Handle.length_identities] at hlength
      exact Nat.lt_of_lt_of_eq hlt hlength.symm
    · rw [cached_of_settle hs, hk.record]
      exact hcached
    · rw [hk.record, ← kernel_of_session? hs]
      exact hresult

/-- **Lookups agree with enumerations.** A lookup of a library token selects the first object that an
enumeration would list now and that has the names asked for, as far as a name field goes; that object is
cached, and it is the answer if it can be read. If there is none, the lookup fails and leaves the cache
alone. For a live token the same holds with whole texts, if the run renames no kstat and takes none
away. -/
theorem lookup_agrees_with_enumeration (kernel : Kernel) (requests : List Request) (t : TokenId) :
    let now := run { kernel } requests
    (now.facility? t = some .library → ∀ q, now.Selects (Bytes.bounded nameSize) t q) ∧
    (now.facility? t = some .live → (∀ r ∈ requests, r.KeepsNames) → ∀ q, now.Selects id t q) := by
  intro now
  have hnow : now.WellFormed := (WellFormed.start kernel).run requests
  refine ⟨fun hlibrary q => ?_, fun hlive hkeeps q => ?_⟩
  · obtain ⟨s, hs, hfacility⟩ := facility?_eq_some_iff.1 hlibrary
    have hbacked := backed_run kernel requests hs hfacility
    obtain ⟨control, hhandle⟩ := Session.exists_control hbacked.sound hfacility
    have hkey : s.handle.key = Bytes.bounded nameSize := by rw [hhandle]; rfl
    rw [← hkey]
    exact selects_of_labelled hnow hs hbacked.labelled q fun i j hsame => congrArg _ hsame
  · obtain ⟨s, hs, hfacility⟩ := facility?_eq_some_iff.1 hlive
    have hhandle := Handle.eq_live_of_facility hfacility
    have hkey : s.handle.key = id := by rw [hhandle]; rfl
    rw [← hkey]
    refine selects_of_labelled hnow hs (labelled_run kernel hkeeps hs hhandle) q fun i j hsame => ?_
    obtain ⟨hmodule, hinst, hname⟩ : i.moduleName = j.moduleName ∧ i.inst = j.inst ∧ i.name = j.name := by
      simpa [Identity.names] using hsame
    simp only [Query.selects, hmodule, hinst, hname]

/-- What stands behind a NUL in a query is looked at by a live token only. -/
theorem lookup_agrees_with_enumeration_on_sample :
    let requests : List Request :=
      [.openToken (some .library), .openToken (some .live), .edit (.amend 3 { crtime := some 0 })]
    let now := run { kernel := { chain := Chain.sample } } requests
    let q : Query := ⟨utf8 "link" ++ [0, 1], Query.anyInstance, []⟩
    (now.facility? 0 = some .library ∧ now.Selects (Bytes.bounded nameSize) 0 q ∧
      (now.lookup 0 q).result.toOption = some 0) ∧
    (now.facility? 1 = some .live ∧ (∀ r ∈ requests, r.KeepsNames) ∧ now.Selects id 1 q ∧
      (now.lookup 1 q).result.toOption = none) := by
  intro requests now q
  have hlibrary : now.facility? 0 = some .library := by decide
  have hlive : now.facility? 1 = some .live := by decide
  have hkeeps : ∀ r ∈ requests, r.KeepsNames := by decide
  obtain ⟨hcopied, -⟩ := lookup_agrees_with_enumeration { chain := Chain.sample } requests 0
  obtain ⟨-, hshared⟩ := lookup_agrees_with_enumeration { chain := Chain.sample } requests 1
  exact ⟨⟨hlibrary, hcopied hlibrary q, by decide⟩, hlive, hkeeps, hshared hlive hkeeps q, by decide⟩

end Client

end KernelStats
