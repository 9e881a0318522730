import KernelStats.Proofs.Client.Effects
import KernelStats.Proofs.Handle.Lifetime
import KernelStats.Proofs.Lists
import KernelStats.Proofs.Token.Openings

/-!
# Every handle is closed exactly once

A token may be closed again and again and then let go, in any order with all others, and a close may
fail. The chain counts the closes that reach it. That count is tied to the tokens that are shut: each of
them was closed once, when it was shut, and no open one ever was. What is shut is in turn tied to the
history of the run, to the tokens that were handed out and to those that were closed or let go.
-/

namespace KernelStats

theorem Facility.closes_openHandle (f : Facility) (k : Kernel) :
    (f.openHandle k).kernel.chain.closes = k.chain.closes := by
  obtain ⟨opens, hchain⟩ := f.chain_openHandle k
  rw [hchain]

namespace Client

/-! ### The count -/

/-- A step makes a close exactly when it shuts a token. -/
theorem Step.closes {c c' : Client} {who : Option TokenId} (hstep : c.Step who c')
    (hc : c.WellFormed) :
    c'.kernel.chain.closes + c.openings.count false =
      c.kernel.chain.closes + c'.openings.count false := by
  cases hstep with
  | same => rfl
  | edited hedit =>
    show _ + c.openings.count false = _ + c.openings.count false
    rw [Chain.closes_edit hedit]
  | unopened f =>
    show _ + c.openings.count false = _ + c.openings.count false
    rw [f.closes_openHandle]
  | @opened f handle hhandle =>
    have hcount : (c.openings ++ [true]).count false = c.openings.count false := by simp
    simp only [openings, List.map_append, List.map_singleton, Option.isSome_some]
    rw [f.closes_openHandle, ← openings, hcount]
  | @closed t token handle htoken hhandle alive =>
    -- the one step that reaches the chain: an intact handle makes one close, and one token more is shut
    have hintact := (hc.tokens t token htoken).intact handle hhandle
    have hopen : c.openings[t]? = some true := by simp [openings, htoken, hhandle]
    obtain ⟨hlt, htrue⟩ := List.getElem?_eq_some_iff.1 hopen
    have hcount : (c.openings.set t false).count false = c.openings.count false + 1 := by
      rw [List.count_set hlt, htrue]
      rfl
    simp only [Handle.chain_release hintact, openings, List.map_set, Option.isSome_none]
    rw [← openings, hcount]
    omega
  | @buried t token htoken hclosed =>
    have hsame : c.openings.set t false = c.openings :=
      openings_set_of_closed (by simp [isOpen_eq, htoken, hclosed])
    simp only [openings, List.map_set, hclosed, Option.isSome_none]
    rw [← openings, hsame]
  | called hs hmoves =>
    rw [openings_settle hs]
    obtain ⟨token, handle, -, -, rfl⟩ := session?_eq_some_iff.1 hs
    exact congrArg (· + _) hmoves.advances.books.closes

theorem closes_run (kernel : Kernel) (requests : List Request) :
    (run { kernel } requests).kernel.chain.closes =
      kernel.chain.closes + (run { kernel } requests).openings.count false := by
  -- closes and shut tokens grow together, from whatever client the run goes on
  have hrun : ∀ c : Client, c.WellFormed → (c.run requests).kernel.chain.closes + c.openings.count false =
      c.kernel.chain.closes + (c.run requests).openings.count false := by
    induction requests with
    | nil => exact fun c _ => rfl
    | cons r rest ih =>
      intro c hc
      have hfirst := (step_perform hc r).closes hc
      have hrest := ih _ (hc.perform r)
      rw [run_cons]
      omega
  exact hrun _ (.start kernel)

/-! ### The history -/

theorem gather_opened (kernel : Kernel) (requests : List Request) :
    gather opened { kernel } requests = List.range (run { kernel } requests).tokens.length := by
  refine gather_induction (fun c past => past = List.range c.tokens.length) ?_ (.start kernel) rfl requests
  intro c past r hc hpast
  simp only [← length_openings] at hpast ⊢
  rcases openings_cases hc r with ⟨hopened, -, hsame⟩ | ⟨hopened, -, hnext⟩ | ⟨t, hopened, -, -, hset⟩
  · rw [hopened, hsame, List.append_nil, hpast]
  · rw [hopened, hnext, List.length_append, List.length_singleton, List.range_succ, hpast,
      length_openings]
  · rw [hopened, hset, List.length_set, List.append_nil, hpast]

theorem mem_gather_released (kernel : Kernel) (requests : List Request) (t : TokenId) :
    t ∈ gather released { kernel } requests ↔ (run { kernel } requests).Shut t := by
  have hstart : ∀ t, t ∈ ([] : List TokenId) ↔ Shut { kernel } t := by
    intro t
    simp [shut_iff, openings]
  revert t
  refine gather_induction (fun c past => ∀ t, t ∈ past ↔ c.Shut t) ?_ (.start kernel) hstart requests
  intro c past r hc hpast t
  rw [List.mem_append, hpast, shut_iff, shut_iff]
  rcases openings_cases hc r with ⟨-, hreleased, hsame⟩ | ⟨-, hreleased, hnext⟩ |
    ⟨u, -, hreleased, hlt, hset⟩
  · rw [hreleased, hsame]
    simp
  · rw [hreleased, hnext, List.getElem?_append]
    split
    · simp
    -- the new entry stands for an open token, so it shuts none
    · next hge =>
      rw [List.getElem?_eq_none (Nat.le_of_not_lt hge), List.getElem?_singleton]
      split <;> simp
  · rw [hreleased, hset, List.mem_singleton]
    by_cases hut : u = t
    · subst hut
      rw [List.getElem?_set_self (by simpa using hlt)]
      simp
    · rw [List.getElem?_set_ne hut]
      simp [Ne.symm hut]

/-- As many closes reached the chain as tokens that were opened and then closed or let go. -/
theorem closes_eq (kernel : Kernel) (requests : List Request) :
    (run { kernel } requests).kernel.chain.closes =
      kernel.chain.closes +
        (gather opened { kernel } requests).countP (· ∈ gather released { kernel } requests) := by
  have hshut : ∀ t, t ∈ gather released { kernel } requests ↔
      (run { kernel } requests).openings[t]? = some false := fun t =>
    (mem_gather_released kernel requests t).trans shut_iff
  simp only [closes_run, gather_opened, ← length_openings, hshut, countP_positions]

/-! ### Closes that fail -/

section

variable {c : Client} {t : TokenId}

theorem kernel_release_of_closed (hc : c.WellFormed) (hclosed : c.isOpen t = false) {r : Request}
    (hr : r = .close t ∨ r = .destroy t) : (c.perform r).client.kernel = c.kernel := by
  have hs := session?_eq_none_iff.2 hclosed
  have hstep := step_perform hc r
  rcases hr with rfl | rfl
  · exact (hstep.unserved hs).1
  · exact (hstep.unserved hs).1

theorem result_close_of_open (hc : c.WellFormed) (hopen : c.isOpen t = true) :
    (c.close t).result =
      if c.kernel.chain.closeErrno = 0 then .ok ()
      else .error (.closeFailed c.kernel.chain.closeErrno) := by
  obtain ⟨s, hs⟩ := exists_session? hopen
  exact (close_of_session? hc hs).1

end

/-- **Every handle is closed exactly once.** As many closes reach the chain as tokens were opened and
then closed or let go; a token that is not open makes no other, and an open one makes its only one even
if it fails. The same holds of a library handle that no token stands in front of. -/
theorem closed_exactly_once (kernel : Kernel) (requests : List Request) :
    let now := run { kernel } requests
    now.kernel.chain.closes =
      kernel.chain.closes +
        (gather opened { kernel } requests).countP (· ∈ gather released { kernel } requests) ∧
    (∀ t r, now.isOpen t = false → r = .close t ∨ r = .destroy t →
      (now.perform r).client.kernel = now.kernel) ∧
    (∀ t r, now.isOpen t = true → r = .close t ∨ r = .destroy t →
      (now.perform r).client.kernel.chain.closes = now.kernel.chain.closes + 1 ∧
      (now.perform r).client.isOpen t = false ∧ (now.perform r).client.cachedCount t = 0) ∧
    (∀ t, now.isOpen t = true → now.kernel.chain.closeErrno ≠ 0 →
      ∃ f, (now.perform (.close t)).result = .closed (.error f) ∧
        f.code = .closeFailure ∧ f.errno = now.kernel.chain.closeErrno) ∧
    (∀ control uses, ((Handle.library (some control)).lifetime kernel uses).chain.closes =
      kernel.chain.closes + 1) := by
  intro now
  have hnow : now.WellFormed := (WellFormed.start kernel).run requests
  refine ⟨closes_eq kernel requests, fun t r hclosed hr => kernel_release_of_closed hnow hclosed hr,
    fun t r hopen hr => ?_, fun t hopen hfails => ?_, Handle.closes_lifetime kernel⟩
  · have hlt : t < now.tokens.length := by
      have htrue := isOpen_iff.1 hopen
      simpa using (List.getElem?_eq_some_iff.1 htrue).1
    have hshut := (shut_release hnow hlt hr).1
    obtain ⟨s, hs⟩ := exists_session? hopen
    refine ⟨?_, hshut.closed, hshut.cachedCount (hnow.perform r)⟩
    rw [chain_release hnow hs hr]
  · have hresult := result_close_of_open hnow hopen
    rw [if_neg hfails] at hresult
    rcases hnow.withToken_cases t with ⟨-, hanswered⟩ | ⟨hclosed, -⟩
    · refine ⟨.closeFailed now.kernel.chain.closeErrno, ?_, rfl, rfl⟩
      simp only [perform, hanswered, Outcome.map, hresult]
    · rw [hopen] at hclosed
      cases hclosed

/-- Two tokens on one chain that reports every close as failed: the one that is closed twice and let go
counts once, and the other is still to be closed. -/
theorem closed_exactly_once_despite_failures :
    let kernel : Kernel := { chain := { Chain.sample with closeErrno := 5 } }
    let now := run { kernel }
      [.openToken (some .library), .openToken (some .live), .close 1, .close 1, .destroy 1]
    now.kernel.chain.closes = 1 ∧
      ∃ f, (now.perform (.close 0)).result = .closed (.error f) ∧ f.errno = 5 := by
  intro kernel now
  have hopen : now.isOpen 0 = true := by decide
  have hfails : now.kernel.chain.closeErrno ≠ 0 := by decide
  obtain ⟨hcount, -, -, hfailed, -⟩ := closed_exactly_once kernel
    [.openToken (some .library), .openToken (some .live), .close 1, .close 1, .destroy 1]
  obtain ⟨f, hresult, -, herrno⟩ := hfailed 0 hopen hfails
  exact ⟨hcount.trans (by decide), f, hresult, herrno.trans (by decide)⟩

end Client

end KernelStats
