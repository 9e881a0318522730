import KernelStats.Proofs.Session.Calls
import KernelStats.Run

/-!
# What a request can do to a client

A request ends in one of seven ways: nothing happens, the chain is edited, an open fails or succeeds, an
open token is closed (and perhaps buried with it), a closed token is buried, or a session of an open
token makes its moves. `Step` lists them with all that is known in each case, and `step_perform` says
that there is no other way. From there on no proof has to look at the requests one by one, unless it is
about their answers.

A client is well formed when every open token indexes its objects, every closed token has an empty
cache, and no object was made twice. Every step keeps it so, and therefore every run.
-/

namespace KernelStats

namespace Client

/-! ### Sessions of a client -/

/-- The session of a token that is open. -/
def session? (c : Client) (t : TokenId) : Option Session :=
  match c.tokens[t]? with
  | some { handle := some handle, cache, .. } =>
    some { token := t, kernel := c.kernel, handle, cache, kstats := c.kstats }
  | _ => none

def settle (c : Client) (t : TokenId) (s : Session) : Client :=
  { kernel := s.kernel
    tokens := c.tokens.modify t fun token => { token with handle := some s.handle, cache := s.cache }
    kstats := s.kstats }

section

variable {c : Client} {t : TokenId} {s : Session}

theorem session?_eq_some_iff :
    c.session? t = some s ↔ ∃ token handle, c.tokens[t]? = some token ∧ token.handle = some handle ∧
      s = { token := t, kernel := c.kernel, handle, cache := token.cache, kstats := c.kstats } := by
  unfold session?
  constructor
  · intro hs
    split at hs
    · next handle cache alive htoken =>
      cases hs
      exact ⟨_, handle, htoken, rfl, rfl⟩
    · cases hs
  · rintro ⟨⟨_, cache, alive⟩, handle, htoken, rfl, rfl⟩
    rw [htoken]

theorem grownBy_of_session? {s' : Session} (hs : c.session? t = some s) (hmoves : s.Moves s') :
    GrownBy t c.kstats s'.kstats := by
  obtain ⟨token, handle, -, -, rfl⟩ := session?_eq_some_iff.1 hs
  exact hmoves.advances.kstats

theorem session?_eq_none_iff : c.session? t = none ↔ c.isOpen t = false := by
  unfold session? isOpen
  cases c.tokens[t]? with
  | none => simp
  | some token =>
    obtain ⟨_ | handle, cache, alive⟩ := token <;> simp

theorem isOpen_of_session? (hs : c.session? t = some s) : c.isOpen t = true := by
  by_contra hopen
  rw [session?_eq_none_iff.2 (by simpa using hopen)] at hs
  cases hs

theorem exists_session? (hopen : c.isOpen t = true) : ∃ s, c.session? t = some s := by
  cases hs : c.session? t with
  | none => simp [session?_eq_none_iff.1 hs] at hopen
  | some s => exact ⟨s, rfl⟩

theorem exists_handle (hopen : c.isOpen t = true) :
    ∃ token handle, c.tokens[t]? = some token ∧ token.handle = some handle := by
  obtain ⟨s, hs⟩ := exists_session? hopen
  obtain ⟨token, handle, htoken, hhandle, -⟩ := session?_eq_some_iff.1 hs
  exact ⟨token, handle, htoken, hhandle⟩

theorem onOpen_of_session? {α : Type} (hs : c.session? t = some s) (closed : α)
    (call : Session → Session × α) :
    c.onOpen t closed call =
      { client := c.settle t (call s).1, result := (call s).2, log := (call s).1.log } := by
  obtain ⟨⟨_, cache, alive⟩, handle, htoken, rfl, rfl⟩ := session?_eq_some_iff.1 hs
  unfold onOpen settle
  simp only [htoken, List.modify_eq_set_getElem?]
  rfl

theorem onOpen_of_none {α : Type} (hs : c.session? t = none) (closed : α)
    (call : Session → Session × α) : c.onOpen t closed call = { client := c, result := closed } := by
  unfold session? at hs
  unfold onOpen
  cases htoken : c.tokens[t]? with
  | none => rfl
  | some token =>
    obtain ⟨_ | handle, cache, alive⟩ := token
    · rfl
    · rw [htoken] at hs
      cases hs

theorem onKStat_of_kstat? {α : Type} {k : KStatId} {kstat : KStat} (hk : c.kstat? k = some kstat)
    (call : Session → Session × Except Failure α) :
    c.onKStat k call = c.onOpen kstat.token (.error .closedKStat) call := by
  unfold onKStat
  rw [hk]

theorem onKStat_of_none {α : Type} {k : KStatId}
    (hk : ∀ t, (c.kstat? k).map KStat.token = some t → c.session? t = none)
    (call : Session → Session × Except Failure α) :
    c.onKStat k call = { client := c, result := .error .closedKStat } := by
  unfold onKStat
  split
  · next kstat hkstat => exact onOpen_of_none (hk kstat.token (by rw [hkstat, Option.map_some])) _ call
  · rfl

end

/-! ### Steps -/

/-- The token that a request is for: the one that is named, or the one that made the object. -/
def addressee (c : Client) : Request → Option TokenId
  | .close t | .destroy t | .isOpen t | .cachedCount t | .all t => some t
  | .lookup t _ | .lookupStatistic t _ _ => some t
  | .refresh k | .statistic k _ | .statistics k => (c.kstat? k).map KStat.token
  | .openToken _ | .edit _ => none

/-- What one request for a token, or for none, may turn a client into. -/
inductive Step (c : Client) : Option TokenId → Client → Prop where
  | same (who : Option TokenId) : Step c who c
  | edited {e : Chain.Edit} {chain : Chain} (hedit : c.kernel.chain.edit e = some chain) :
    Step c none { c with kernel := { c.kernel with chain } }
  | unopened (f : Facility) : Step c none { c with kernel := (f.openHandle c.kernel).kernel }
  | opened {f : Facility} {handle : Handle} (hhandle : (f.openHandle c.kernel).handle = some handle) :
    Step c none
      { c with
        kernel := (f.openHandle c.kernel).kernel
        tokens := c.tokens ++ [{ handle := some handle }] }
  | closed {t : TokenId} {token : Token} {handle : Handle} (htoken : c.tokens[t]? = some token)
      (hhandle : token.handle = some handle) (alive : Bool) :
    Step c (some t)
      { c with
        kernel := handle.release c.kernel
        tokens := c.tokens.set t { handle := none, cache := .empty, alive } }
  | buried {t : TokenId} {token : Token} (htoken : c.tokens[t]? = some token)
      (hclosed : token.handle = none) :
    Step c (some t) { c with tokens := c.tokens.set t { token with alive := false } }
  | called {t : TokenId} {s s' : Session} (hs : c.session? t = some s) (hmoves : s.Moves s') :
    Step c (some t) (c.settle t s')

theorem close_of_open {c : Client} {t : TokenId} {token : Token} {handle : Handle}
    (htoken : c.tokens[t]? = some token) (hhandle : token.handle = some handle) :
    (c.close t).client =
      { c with
        kernel := handle.release c.kernel
        tokens := c.tokens.set t { handle := none, cache := .empty, alive := token.alive } } := by
  obtain ⟨_, cache, alive⟩ := token
  subst hhandle
  unfold close Handle.release
  rw [htoken]
  simp only
  split <;> rfl

theorem outcome_close {c : Client} {t : TokenId} {token : Token} {handle : Handle}
    (htoken : c.tokens[t]? = some token) (hhandle : token.handle = some handle)
    (hintact : handle.Intact) :
    c.close t =
      { client :=
          { c with
            kernel := handle.release c.kernel
            tokens := c.tokens.set t { handle := none, cache := .empty, alive := token.alive } }
        result :=
          if c.kernel.chain.closeErrno = 0 then .ok ()
          else .error (.closeFailed c.kernel.chain.closeErrno)
        log := .tokenClosed token.cache.size ::
          if c.kernel.chain.closeErrno = 0 then [] else [.closeFailed c.kernel.chain.closeErrno] } := by
  have herrno := Handle.errno_close hintact c.kernel
  have hleaks := Handle.leaks_close hintact c.kernel
  obtain ⟨_, cache, alive⟩ := token
  subst hhandle
  unfold close Handle.release
  rw [htoken]
  simp only [herrno, hleaks]
  by_cases hgood : c.kernel.chain.closeErrno = 0
  · simp only [if_pos hgood]
    rfl
  · simp only [if_neg hgood]
    rfl

theorem close_of_closed {c : Client} {t : TokenId} (hclosed : c.isOpen t = false) :
    c.close t = { client := c, result := .ok () } := by
  unfold close
  split
  · next htoken => simp [isOpen, htoken] at hclosed
  · rfl

theorem step_close (c : Client) (t : TokenId) : c.Step (some t) (c.close t).client := by
  cases hopen : c.isOpen t with
  | false =>
    rw [close_of_closed hopen]
    exact .same _
  | true =>
    obtain ⟨token, handle, htoken, hhandle⟩ := exists_handle hopen
    rw [close_of_open htoken hhandle]
    exact .closed htoken hhandle _

theorem client_destroy (c : Client) (t : TokenId) :
    (c.destroy t).client =
      { (c.close t).client with
        tokens := (c.close t).client.tokens.modify t fun token => { token with alive := false } } :=
  rfl

theorem step_destroy (c : Client) (t : TokenId) : c.Step (some t) (c.destroy t).client := by
  rw [client_destroy]
  cases hopen : c.isOpen t with
  | false =>
    rw [close_of_closed hopen]
    cases htoken : c.tokens[t]? with
    | none =>
      rw [List.modify_eq_self (List.getElem?_eq_none_iff.1 htoken)]
      exact .same _
    | some token =>
      have hclosed : token.handle = none := by simpa [isOpen, htoken] using hopen
      rw [List.modify_eq_set_getElem?, htoken]
      exact .buried htoken hclosed
  | true =>
    obtain ⟨token, handle, htoken, hhandle⟩ := exists_handle hopen
    have hlt : t < c.tokens.length := (List.getElem?_eq_some_iff.1 htoken).1
    rw [close_of_open htoken hhandle]
    simp only
    rw [List.modify_eq_set_getElem?, List.getElem?_set_self hlt]
    simp only [Option.map_eq_map, Option.map_some, Option.getD_some, List.set_set]
    exact .closed htoken hhandle false

theorem step_openToken (c : Client) (facility : Option Facility) :
    c.Step none (c.openToken facility).client := by
  unfold openToken
  cases facility with
  | none => exact .same _
  | some f =>
    simp only
    split
    · next handle hhandle =>
      split
      · exact .opened hhandle
      · exact .unopened f
    · exact .unopened f

/-! ### Well-formed clients -/

/-- What holds of a token: while it is open, its cache indexes its objects, and afterwards there is
nothing left of it. -/
structure TokenSound (t : TokenId) (kstats : List KStat) (token : Token) : Prop where
  indexed : ∀ handle, token.handle = some handle → token.cache.Indexes t kstats
  intact : ∀ handle, token.handle = some handle → handle.Intact
  alive : ∀ handle, token.handle = some handle → token.alive = true
  closed : token.handle = none → token.cache = .empty

/-- What holds of a client before and after every request. -/
structure WellFormed (c : Client) : Prop where
  tokens : ∀ t token, c.tokens[t]? = some token → TokenSound t c.kstats token
  distinct : (c.kstats.map KStat.origin).Nodup
  owned : ∀ kstat ∈ c.kstats, kstat.token < c.tokens.length

theorem WellFormed.start (kernel : Kernel) : WellFormed { kernel } where
  tokens t token htoken := by simp at htoken
  distinct := List.nodup_nil
  owned kstat hkstat := by simp at hkstat

section

variable {c : Client} {t : TokenId} {s : Session}

theorem WellFormed.sound (hc : c.WellFormed) (hs : c.session? t = some s) : s.Sound := by
  obtain ⟨token, handle, htoken, hhandle, rfl⟩ := session?_eq_some_iff.1 hs
  have htoken := hc.tokens t token htoken
  exact ⟨htoken.indexed handle hhandle, hc.distinct, htoken.intact handle hhandle⟩

theorem standsFor_of_kstat? (hs : c.session? t = some s) {k : KStatId} {kstat : KStat}
    (hk : c.kstat? k = some kstat) (htoken : kstat.token = t) : s.StandsFor k kstat.record := by
  obtain ⟨token, handle, -, -, rfl⟩ := session?_eq_some_iff.1 hs
  have hk : c.kstats[k]? = some kstat := hk
  simp only [Session.StandsFor, List.getElem?_map, hk, Option.map_some, ← htoken]
  rfl

theorem step_onOpen {α : Type} (closed : α) {call : Session → Session × α}
    (hcall : ∀ s, c.session? t = some s → s.Moves (call s).1) :
    c.Step (some t) (c.onOpen t closed call).client := by
  cases hs : c.session? t with
  | none =>
    rw [onOpen_of_none hs]
    exact .same _
  | some s =>
    rw [onOpen_of_session? hs]
    exact .called hs (hcall s hs)

theorem step_onKStat {α : Type} {k : KStatId} {call : Session → Session × Except Failure α}
    (hcall : ∀ (s : Session) id, s.StandsFor k id → s.Moves (call s).1) :
    c.Step ((c.kstat? k).map KStat.token) (c.onKStat k call).client := by
  cases hk : c.kstat? k with
  | none =>
    unfold onKStat
    rw [hk]
    exact .same _
  | some kstat =>
    rw [onKStat_of_kstat? hk]
    exact step_onOpen _ fun s hs => hcall s _ (standsFor_of_kstat? hs hk rfl)

end

/-- A request to a token is answered or refused, and what holds either way holds of it. -/
theorem withToken_ind (P : Outcome Reply → Prop) {c : Client} {t : TokenId} {answer : Outcome Reply}
    (hanswer : P answer) (hrefused : P (c.refuse .noToken)) : P (c.withToken t answer) := by
  unfold withToken
  split
  · exact hanswer
  · exact hrefused

theorem withKStat_ind (P : Outcome Reply → Prop) {c : Client} {k : KStatId} {answer : Outcome Reply}
    (hanswer : P answer) (hrefused : P (c.refuse .noKStat)) : P (c.withKStat k answer) := by
  unfold withKStat
  split
  · exact hanswer
  · exact hrefused

theorem step_withToken {c : Client} {who : Option TokenId} {t : TokenId} {answer : Outcome Reply}
    (hanswer : c.Step who answer.client) : c.Step who (c.withToken t answer).client :=
  withToken_ind (fun o => c.Step who o.client) hanswer (.same _)

theorem step_withKStat {c : Client} {who : Option TokenId} {k : KStatId} {answer : Outcome Reply}
    (hanswer : c.Step who answer.client) : c.Step who (c.withKStat k answer).client :=
  withKStat_ind (fun o => c.Step who o.client) hanswer (.same _)

theorem step_perform {c : Client} (hc : c.WellFormed) (r : Request) :
    c.Step (c.addressee r) (c.perform r).client := by
  cases r with
  | openToken facility => exact step_openToken c facility
  | close t => exact step_withToken (step_close c t)
  | destroy t => exact step_withToken (step_destroy c t)
  | isOpen t => exact step_withToken (.same _)
  | cachedCount t => exact step_withToken (.same _)
  | all t => exact step_withToken (step_onOpen [] fun s _ => s.moves_all)
  | lookup t q =>
    exact step_withToken (step_onOpen _ fun s hs => Session.moves_lookup (hc.sound hs) q)
  | lookupStatistic t q name =>
    exact step_withToken (step_onOpen _ fun s hs => Session.moves_lookupStatistic (hc.sound hs) q name)
  | refresh k => exact step_withKStat (step_onKStat fun s id hk => .single (.refresh hk))
  | statistic k name => exact step_withKStat (step_onKStat fun s id hk => Session.moves_statistic hk name)
  | statistics k => exact step_withKStat (step_onKStat fun s id hk => Session.moves_statistics hk)
  | edit e =>
    cases hedit : c.edit e with
    | none =>
      simp only [perform, hedit]
      exact .same _
    | some c' =>
      simp only [perform, hedit]
      obtain ⟨chain, hchain, hc'⟩ := Option.bind_eq_some_iff.1 hedit
      cases hc'
      exact .edited hchain

/-! ### What steps keep -/

theorem TokenSound.of_grownBy {t u : TokenId} {token : Token} {kstats after : List KStat}
    (h : TokenSound t kstats token) (hgrown : GrownBy u kstats after) (hne : t ≠ u) :
    TokenSound t after token where
  indexed handle hhandle := (h.indexed handle hhandle).of_grownBy hgrown hne
  intact := h.intact
  alive := h.alive
  closed := h.closed

theorem WellFormed.settle {c : Client} (hc : c.WellFormed) {t : TokenId} {s s' : Session}
    (hs : c.session? t = some s) (hmoves : s.Moves s') : (c.settle t s').WellFormed := by
  have hsound : s'.Sound := hmoves.sound (hc.sound hs)
  have hgrown := grownBy_of_session? hs hmoves
  obtain ⟨token, handle, htoken, hhandle, rfl⟩ := session?_eq_some_iff.1 hs
  have hlt : t < c.tokens.length := (List.getElem?_eq_some_iff.1 htoken).1
  refine ⟨fun u other hother => ?_, hsound.distinct, fun kstat hkstat => ?_⟩
  · simp only [Client.settle] at hother ⊢
    by_cases hut : t = u
    · subst hut
      rw [List.getElem?_modify_eq, htoken] at hother
      cases hother
      refine ⟨fun _ _ => ?_, fun _ hnew => ?_, fun _ _ => ?_, fun hnone => nomatch hnone⟩
      · have hindexed := hsound.indexed
        rwa [hmoves.advances.token] at hindexed
      · cases hnew
        exact hsound.intact
      · exact (hc.tokens t token htoken).alive handle hhandle
    · rw [List.getElem?_modify_ne _ _ hut] at hother
      exact (hc.tokens u other hother).of_grownBy hgrown (Ne.symm hut)
  · simp only [Client.settle, List.length_modify] at hkstat ⊢
    obtain ⟨k, hk⟩ := List.getElem?_of_mem hkstat
    by_cases hnew : c.kstats.length ≤ k
    · rw [hgrown.added k kstat hnew hk]
      exact hlt
    · obtain ⟨later, hlater, hbecomes, -⟩ :=
        hgrown.kept k _ (List.getElem?_eq_getElem (by omega))
      rw [hk] at hlater
      cases hlater
      rw [hbecomes.token]
      exact hc.owned _ (List.getElem_mem _)

theorem WellFormed.set {c : Client} (hc : c.WellFormed) {t : TokenId} {token : Token}
    (hlt : t < c.tokens.length) (hsound : TokenSound t c.kstats token) (kernel : Kernel) :
    WellFormed { c with kernel, tokens := c.tokens.set t token } := by
  refine ⟨fun u other hother => ?_, hc.distinct, fun kstat hkstat => ?_⟩
  · by_cases hut : t = u
    · subst hut
      rw [List.getElem?_set_self hlt] at hother
      cases hother
      exact hsound
    · rw [List.getElem?_set_ne hut] at hother
      exact hc.tokens u other hother
  · rw [List.length_set]
    exact hc.owned kstat hkstat

theorem intact_openHandle {f : Facility} {k : Kernel} {handle : Handle}
    (hhandle : (f.openHandle k).handle = some handle) : handle.Intact := by
  rcases Facility.handle_openHandle hhandle with ⟨-, rfl⟩ | ⟨-, rfl⟩
  · exact fun hnone => nomatch hnone
  · exact fun hnone => nomatch hnone

theorem Step.wellFormed {c c' : Client} {who : Option TokenId} (hstep : c.Step who c')
    (hc : c.WellFormed) : c'.WellFormed := by
  cases hstep with
  | same => exact hc
  | edited => exact ⟨hc.tokens, hc.distinct, hc.owned⟩
  | unopened => exact ⟨hc.tokens, hc.distinct, hc.owned⟩
  | @opened f handle hhandle =>
    refine ⟨fun t token htoken => ?_, hc.distinct, fun kstat hkstat => ?_⟩
    · by_cases hlt : t < c.tokens.length
      · rw [List.getElem?_append_left hlt] at htoken
        exact hc.tokens t token htoken
      · rw [List.getElem?_append_right (Nat.le_of_not_lt hlt), List.getElem?_singleton] at htoken
        split at htoken
        · cases htoken
          -- no object is of a token that was not there
          have hnone : ∀ kstat ∈ c.kstats, kstat.token ≠ t := fun kstat hkstat heq =>
            hlt (heq ▸ hc.owned kstat hkstat)
          refine ⟨fun _ _ => .empty hnone, fun _ hnew => ?_, fun _ _ => rfl, fun hno => nomatch hno⟩
          cases hnew
          exact intact_openHandle hhandle
        · cases htoken
    · simp only [List.length_append, List.length_singleton]
      exact Nat.lt_succ_of_lt (hc.owned kstat hkstat)
  | @closed t token handle htoken hhandle alive =>
    have hsound : TokenSound t c.kstats { handle := none, cache := .empty, alive } :=
      ⟨fun _ hno => (nomatch hno), fun _ hno => (nomatch hno), fun _ hno => (nomatch hno), fun _ => rfl⟩
    exact hc.set (List.getElem?_eq_some_iff.1 htoken).1 hsound _
  | @buried t token htoken hclosed =>
    have hold := hc.tokens t token htoken
    have hsound : TokenSound t c.kstats { token with alive := false } :=
      ⟨hold.indexed, hold.intact, fun handle hhandle => absurd hhandle (by simp [hclosed]), hold.closed⟩
    exact hc.set (List.getElem?_eq_some_iff.1 htoken).1 hsound _
  | called hs hmoves => exact hc.settle hs hmoves

/-- No step forgets an object or makes another of it. -/
theorem Step.becomes {c c' : Client} {who : Option TokenId} (hstep : c.Step who c') {k : KStatId}
    {kstat : KStat} (hk : c.kstat? k = some kstat) :
    ∃ later, c'.kstat? k = some later ∧ kstat.Becomes later := by
  cases hstep with
  | called hs hmoves =>
    obtain ⟨later, hlater, hbecomes, -⟩ := (grownBy_of_session? hs hmoves).kept k kstat hk
    exact ⟨later, hlater, hbecomes⟩
  | _ => exact ⟨kstat, hk, .rfl kstat⟩

/-! ### Reachable clients -/

/-- A client that a run leads to, on whatever kernel it was started. -/
def Reachable (c : Client) : Prop := ∃ kernel requests, c = run { kernel } requests

theorem WellFormed.perform {c : Client} (hc : c.WellFormed) (r : Request) :
    (c.perform r).client.WellFormed :=
  (step_perform hc r).wellFormed hc

theorem WellFormed.run {c : Client} (hc : c.WellFormed) (requests : List Request) :
    (c.run requests).WellFormed := by
  induction requests generalizing c with
  | nil => exact hc
  | cons r rest ih => exact ih (hc.perform r)

theorem becomes_run {c : Client} (hc : c.WellFormed) (requests : List Request) {k : KStatId}
    {kstat : KStat} (hk : c.kstat? k = some kstat) :
    ∃ later, (c.run requests).kstat? k = some later ∧ kstat.Becomes later := by
  induction requests generalizing c kstat with
  | nil => exact ⟨kstat, hk, .rfl kstat⟩
  | cons r rest ih =>
    obtain ⟨next, hnext, hfirst⟩ := (step_perform hc r).becomes hk
    obtain ⟨later, hlater, hrest⟩ := ih (hc.perform r) hnext
    exact ⟨later, hlater, hfirst.trans hrest⟩

theorem Reachable.wellFormed {c : Client} (hc : c.Reachable) : c.WellFormed := by
  obtain ⟨kernel, requests, rfl⟩ := hc
  exact (WellFormed.start kernel).run requests

end Client

end KernelStats
