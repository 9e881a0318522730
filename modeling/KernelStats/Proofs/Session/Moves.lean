import KernelStats.Proofs.Handle.Reads
import KernelStats.Proofs.Session.Objects
import KernelStats.Session
import Mathlib.Logic.Relation

/-!
# What a call can do to a session

Every call on an open token is put together from five moves: it adds to the log, searches the chain,
looks for a record, takes an object for a kstat on the walk, and reads the kstat of an object. This is
said once here, for each call, and what holds of sessions in general is proved of the moves alone.

A session is sound while its cache indexes the objects of its token and no object is there twice. The
moves keep it so, they only grow the list of objects, and they leave the books of the chain alone.
-/

namespace KernelStats

namespace Session

/-- An object of the token stands for a kstat. -/
def StandsFor (s : Session) (k : KStatId) (id : RecordId) : Prop :=
  (s.kstats.map KStat.origin)[k]? = some (s.token, id)

/-- What holds of a session before and after every call. -/
structure Sound (s : Session) : Prop where
  indexed : s.cache.Indexes s.token s.kstats
  distinct : (s.kstats.map KStat.origin).Nodup
  intact : s.handle.Intact

def searched (s : Session) (q : Query) : Session :=
  { s with kernel := (s.handle.lookup s.kernel q).1 }

def picked (s : Session) (id : RecordId) (name : Bytes) : Session :=
  { s with kernel := (s.handle.record? s.kernel id name).1 }

/-- One effect of a call. -/
inductive Move : Session → Session → Prop where
  | report (s : Session) (events : List Event) : Move s (s.report events)
  | search (s : Session) (q : Query) : Move s (s.searched q)
  | pick (s : Session) (id : RecordId) (name : Bytes) : Move s (s.picked id name)
  | intern {s : Session} {id : RecordId} (hid : id ∈ s.handle.walk s.kernel) : Move s (s.intern id).1
  | refresh {s : Session} {k : KStatId} {id : RecordId} (hk : s.StandsFor k id) :
    Move s (s.refresh k).1

/-- What a call does: one move after the other. -/
abbrev Moves : Session → Session → Prop := Relation.ReflTransGen Move

/-! ### The moves one by one -/

theorem intern_of_find? {s : Session} {id : RecordId} {k : KStatId} (h : s.cache.find? id = some k) :
    s.intern id = (s, k) := by
  simp [intern, h]

theorem intern_of_none {s : Session} {id : RecordId} (h : s.cache.find? id = none) :
    s.intern id =
      (report
        { s with
          cache := (s.cache.insert id s.kstats.length).1
          kstats := s.kstats ++ [KStat.ofHeader s.token id (s.handle.header s.kernel id)] }
        [.cached (s.handle.header s.kernel id).toIdentity],
        s.kstats.length) := by
  have hnew : (s.cache.insert id s.kstats.length).2 = s.kstats.length := by simp [Cache.insert, h]
  simp only [intern, h, hnew]
  rfl

@[simp] theorem token_intern (s : Session) (id : RecordId) : (s.intern id).1.token = s.token := by
  cases h : s.cache.find? id with
  | some k => rw [intern_of_find? h]
  | none => rw [intern_of_none h]; rfl

@[simp] theorem kernel_intern (s : Session) (id : RecordId) : (s.intern id).1.kernel = s.kernel := by
  cases h : s.cache.find? id with
  | some k => rw [intern_of_find? h]
  | none => rw [intern_of_none h]; rfl

@[simp] theorem handle_intern (s : Session) (id : RecordId) : (s.intern id).1.handle = s.handle := by
  cases h : s.cache.find? id with
  | some k => rw [intern_of_find? h]
  | none => rw [intern_of_none h]; rfl

theorem grownBy_intern (s : Session) (id : RecordId) :
    GrownBy s.token s.kstats (s.intern id).1.kstats := by
  cases h : s.cache.find? id with
  | some k => rw [intern_of_find? h]; exact .rfl _ _
  | none => rw [intern_of_none h]; exact .append _ rfl

theorem sound_intern {s : Session} (hs : s.Sound) (id : RecordId) : (s.intern id).1.Sound := by
  cases h : s.cache.find? id with
  | some k => rw [intern_of_find? h]; exact hs
  | none =>
    rw [intern_of_none h]
    have hnew : (s.token, id) ∉ s.kstats.map KStat.origin := hs.indexed.not_mem_of_none h
    refine ⟨hs.indexed.insert (KStat.ofHeader s.token id _) h rfl, ?_, hs.intact⟩
    simp only [report, List.map_append, List.map_singleton, List.nodup_append]
    refine ⟨hs.distinct, List.nodup_singleton _, fun origin horigin other hother => ?_⟩
    rw [List.mem_singleton] at hother
    subst hother
    rintro rfl
    exact hnew horigin

theorem find?_intern (s : Session) (id : RecordId) :
    (s.intern id).1.cache.find? id = some (s.intern id).2 := by
  cases h : s.cache.find? id with
  | some k => rw [intern_of_find? h]; exact h
  | none =>
    rw [intern_of_none h]
    have hself := Cache.find?_insert_self s.cache id s.kstats.length
    rwa [show (s.cache.insert id s.kstats.length).2 = s.kstats.length by simp [Cache.insert, h]]
      at hself

theorem standsFor_intern {s : Session} (hs : s.Sound) (id : RecordId) :
    (s.intern id).1.StandsFor (s.intern id).2 id :=
  ((sound_intern hs id).indexed.find?_iff id _).1 (s.find?_intern id)

def reading (s : Session) (k : KStatId) : Session :=
  { s with
    kernel := (s.handle.read s.kernel (s.kstat k).record).1
    handle := (s.handle.read s.kernel (s.kstat k).record).2.1 }

def readErrno (s : Session) (k : KStatId) : Errno := (s.handle.read s.kernel (s.kstat k).record).2.2

theorem refresh_eq (s : Session) (k : KStatId) :
    s.refresh k =
      if s.readErrno k = 0 then
        let snaptime := ((s.reading k).header k).snaptime
        let stale := if (s.kstat k).snaptime ≤ snaptime then [] else
          [.staleSnaptime snaptime (s.kstat k).snaptime (s.kstat k).identity]
        (({ s.reading k with
            kstats := (s.reading k).kstats.modify k (·.observe snaptime) } : Session).report stale, .ok ())
      else
        ((s.reading k).report [.readFailed (s.kstat k).identity (s.readErrno k)],
          .error (.unreadable (s.kstat k).identity (s.readErrno k))) := rfl

theorem result_refresh (s : Session) (k : KStatId) :
    (s.refresh k).2 =
      if s.readErrno k = 0 then .ok () else .error (.unreadable (s.kstat k).identity (s.readErrno k)) := by
  rw [refresh_eq]
  split <;> rfl

theorem refresh_of_error {s : Session} {k : KStatId} {f : Failure} (h : (s.refresh k).2 = .error f) :
    s.readErrno k ≠ 0 ∧ f = .unreadable (s.kstat k).identity (s.readErrno k) := by
  rw [result_refresh] at h
  by_cases hgood : s.readErrno k = 0
  · rw [if_pos hgood] at h
    cases h
  · rw [if_neg hgood] at h
    cases h
    exact ⟨hgood, rfl⟩

@[simp] theorem token_refresh (s : Session) (k : KStatId) : (s.refresh k).1.token = s.token := by
  unfold refresh
  simp only
  split <;> rfl

@[simp] theorem cache_refresh (s : Session) (k : KStatId) : (s.refresh k).1.cache = s.cache := by
  unfold refresh
  simp only
  split <;> rfl

theorem kernel_refresh (s : Session) (k : KStatId) :
    (s.refresh k).1.kernel = (s.handle.read s.kernel (s.kstat k).record).1 := by
  unfold refresh
  simp only
  split <;> rfl

theorem handle_refresh (s : Session) (k : KStatId) :
    (s.refresh k).1.handle = (s.handle.read s.kernel (s.kstat k).record).2.1 := by
  unfold refresh
  simp only
  split <;> rfl

theorem kstats_refresh (s : Session) (k : KStatId) :
    (s.refresh k).1.kstats = s.kstats ∨
      ∃ snaptime, (s.refresh k).1.kstats = s.kstats.modify k (·.observe snaptime) := by
  unfold refresh
  simp only
  split
  · exact .inr ⟨_, rfl⟩
  · exact .inl rfl

theorem grownBy_refresh {s : Session} {k : KStatId} {id : RecordId} (hk : s.StandsFor k id) :
    GrownBy s.token s.kstats (s.refresh k).1.kstats := by
  obtain ⟨kstat, hkstat, horigin⟩ := Option.map_eq_some_iff.1 ((List.getElem?_map ..).symm.trans hk)
  rcases s.kstats_refresh k with hsame | ⟨snaptime, hseen⟩
  · rw [hsame]
    exact .rfl _ _
  · rw [hseen]
    exact .observe hkstat (congrArg Prod.fst horigin) snaptime

theorem origins_refresh (s : Session) (k : KStatId) :
    (s.refresh k).1.kstats.map KStat.origin = s.kstats.map KStat.origin := by
  rcases s.kstats_refresh k with hsame | ⟨snaptime, hseen⟩
  · rw [hsame]
  · rw [hseen]
    exact map_modify KStat.origin (fun kstat => kstat.origin_observe snaptime) s.kstats k

theorem sound_refresh {s : Session} (hs : s.Sound) (k : KStatId) : (s.refresh k).1.Sound where
  indexed := by
    rw [cache_refresh, token_refresh]
    exact hs.indexed.congr (s.origins_refresh k)
  distinct := by
    rw [origins_refresh]
    exact hs.distinct
  intact := by
    rw [handle_refresh]
    exact Handle.intact_read hs.intact _ _

/-! ### What all moves keep -/

/-- How a session may change while calls are made on it. -/
structure Advances (s s' : Session) : Prop where
  token : s'.token = s.token
  kstats : GrownBy s.token s.kstats s'.kstats
  books : s.kernel.chain.SameBooks s'.kernel.chain

/-- What a move leaves of the chain: a lookup counts itself, a read touches its entry, and no other move does
anything to it. -/
theorem Move.chain {s s' : Session} (hmove : s.Move s') :
    (∃ lookups, s'.kernel.chain = { s.kernel.chain with lookups }) ∨
      ∃ id, s.kernel.chain.Touched id s'.kernel.chain := by
  cases hmove with
  | report events => exact .inl ⟨_, rfl⟩
  | search q => exact .inl ⟨_, Handle.chain_lookup _ _ _⟩
  | pick id name => exact .inl ⟨_, Handle.chain_record? _ _ _ _⟩
  | intern hid => exact .inl ⟨_, congrArg Kernel.chain (kernel_intern s _)⟩
  | @refresh k _ _ =>
    rw [kernel_refresh]
    rcases Handle.chain_read s.kernel s.handle (s.kstat k).record with hsame | htouched
    · exact .inl ⟨_, hsame⟩
    · exact .inr ⟨_, htouched⟩

theorem Move.advances {s s' : Session} (hmove : s.Move s') : s.Advances s' := by
  have hbooks : s.kernel.chain.SameBooks s'.kernel.chain := by
    rcases hmove.chain with ⟨lookups, hcounted⟩ | ⟨id, htouched⟩
    · rw [hcounted]
      exact ⟨rfl, rfl, rfl, rfl, rfl, rfl⟩
    · exact htouched.sameBooks
  cases hmove with
  | report events => exact ⟨rfl, .rfl _ _, hbooks⟩
  | search q => exact ⟨rfl, .rfl _ _, hbooks⟩
  | pick id name => exact ⟨rfl, .rfl _ _, hbooks⟩
  | intern hid => exact ⟨token_intern _ _, grownBy_intern _ _, hbooks⟩
  | refresh hk => exact ⟨token_refresh _ _, grownBy_refresh hk, hbooks⟩

theorem Move.sound {s s' : Session} (hmove : s.Move s') (hs : s.Sound) : s'.Sound := by
  cases hmove with
  | report events => exact ⟨hs.indexed, hs.distinct, hs.intact⟩
  | search q => exact ⟨hs.indexed, hs.distinct, hs.intact⟩
  | pick id name => exact ⟨hs.indexed, hs.distinct, hs.intact⟩
  | intern hid => exact sound_intern hs _
  | refresh hk => exact sound_refresh hs _

theorem Moves.advances {s s' : Session} (hmoves : s.Moves s') : s.Advances s' := by
  induction hmoves with
  | refl => exact ⟨rfl, .rfl _ _, .rfl _⟩
  | tail _ hmove ih =>
    have hlast := hmove.advances
    exact ⟨hlast.token.trans ih.token, ih.kstats.trans (ih.token ▸ hlast.kstats),
      ih.books.trans hlast.books⟩

theorem Moves.sound {s s' : Session} (hmoves : s.Moves s') (hs : s.Sound) : s'.Sound := by
  induction hmoves with
  | refl => exact hs
  | tail _ hmove ih => exact hmove.sound ih

/-- What an object stands for is settled when it is made. -/
theorem Advances.standsFor {s s' : Session} (h : s.Advances s') {k : KStatId} {id : RecordId}
    (hk : s.StandsFor k id) : s'.StandsFor k id := by
  have hlt : k < s.kstats.length := by
    simpa using (List.getElem?_eq_some_iff.1 hk).1
  unfold StandsFor
  rw [h.token, h.kstats.origins hlt]
  exact hk

/-! ### Objects of the token -/

theorem StandsFor.getElem? {s : Session} {k : KStatId} {id : RecordId} (hk : s.StandsFor k id) :
    s.kstats[k]? = some (s.kstat k) := by
  obtain ⟨kstat, hkstat, -⟩ := Option.map_eq_some_iff.1 ((List.getElem?_map ..).symm.trans hk)
  simp [Session.kstat, List.getD, hkstat]

theorem StandsFor.origin {s : Session} {k : KStatId} {id : RecordId} (hk : s.StandsFor k id) :
    (s.kstat k).origin = (s.token, id) := by
  have horigin : (s.kstats.map KStat.origin)[k]? = some (s.token, id) := hk
  rw [List.getElem?_map, hk.getElem?] at horigin
  exact Option.some.inj horigin

theorem StandsFor.token {s : Session} {k : KStatId} {id : RecordId} (hk : s.StandsFor k id) :
    (s.kstat k).token = s.token := congrArg Prod.fst hk.origin

theorem StandsFor.record {s : Session} {k : KStatId} {id : RecordId} (hk : s.StandsFor k id) :
    (s.kstat k).record = id := congrArg Prod.snd hk.origin

theorem StandsFor.unique {s : Session} {k k' : KStatId} {id : RecordId} (hk : s.StandsFor k id)
    (hs : s.Sound) (hk' : s.StandsFor k' id) : k = k' :=
  (List.getElem?_inj (List.getElem?_eq_some_iff.1 hk).1 hs.distinct).1 (hk.trans hk'.symm)

theorem Advances.identity {s s' : Session} (h : s.Advances s') {k : KStatId} {id : RecordId}
    (hk : s.StandsFor k id) : (s'.kstat k).identity = (s.kstat k).identity := by
  obtain ⟨later, hlater, hbecomes, -⟩ := h.kstats.kept k _ hk.getElem?
  have hkept := (h.standsFor hk).getElem?
  rw [hlater] at hkept
  rw [← Option.some.inj hkept]
  exact hbecomes.identity

end Session

end KernelStats
