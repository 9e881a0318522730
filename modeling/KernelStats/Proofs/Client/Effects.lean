import KernelStats.Proofs.Client.Moments

/-!
# What a request does to the chain

A request is served by the session of an open token, and then the chain is as the moves of the session leave
it, or it is an edit. Every other request, releases included, moves the counters of opens and closes at most.
-/

namespace KernelStats

namespace Client

variable {c : Client} {t : TokenId} {s : Session} {r : Request}

/-- A request goes to the session of an open token, or to none. -/
theorem session_cases (c : Client) (r : Request) :
    (∃ t s, c.addressee r = some t ∧ c.session? t = some s) ∨
      ∀ t, c.addressee r = some t → c.session? t = none := by
  cases hwho : c.addressee r with
  | none => exact .inr nofun
  | some t =>
    cases hs : c.session? t with
    | none => exact .inr fun u hu => Option.some.inj hu ▸ hs
    | some s => exact .inl ⟨t, s, rfl, hs⟩

theorem chain_release (hc : c.WellFormed) (hs : c.session? t = some s) (hr : r = .close t ∨ r = .destroy t) :
    (c.perform r).client.kernel.chain = { c.kernel.chain with closes := c.kernel.chain.closes + 1 } := by
  obtain ⟨token, handle, htoken, hhandle, rfl⟩ := session?_eq_some_iff.1 hs
  have hreleased : (c.close t).client.kernel.chain = _ :=
    (congrArg (·.kernel.chain) (close_of_open htoken hhandle)).trans
      (Handle.chain_release ((hc.tokens t token htoken).intact handle hhandle) c.kernel)
  rcases hr with rfl | rfl
  · rw [perform, withToken_of_session? hc hs]
    exact hreleased
  · rw [perform, withToken_of_session? hc hs]
    exact hreleased

theorem chain_openToken (c : Client) (facility : Option Facility) :
    ∃ opens, (c.openToken facility).client.kernel.chain = { c.kernel.chain with opens } := by
  cases facility with
  | none => exact ⟨_, rfl⟩
  | some f =>
    obtain ⟨opens, hchain⟩ := f.chain_openHandle c.kernel
    rcases c.client_openToken f with hsame | ⟨handle, -, hnew⟩
    · exact ⟨opens, by rw [hsame, hchain]⟩
    · exact ⟨opens, by rw [hnew, hchain]⟩

theorem kernel_withKStat_of_none {k : KStatId} (hk : (c.kstat? k).map KStat.token = none)
    (answer : Outcome Reply) : (c.withKStat k answer).client.kernel = c.kernel := by
  have hlength : c.kstats.length ≤ k := List.getElem?_eq_none_iff.1 (Option.map_eq_none_iff.1 hk)
  rw [withKStat, if_neg (Nat.not_lt.2 hlength)]
  rfl

/-- Who serves a request that is no edit, and what becomes of the chain if nobody does. -/
theorem served_cases (hc : c.WellFormed) (hedit : ∀ e, r ≠ .edit e) :
    (∃ t s, c.session? t = some s ∧ c.addressee r = some t ∧ c.perform r = c.served t s r) ∨
      ((∀ t s, c.session? t = some s → c.addressee r = some t → r = .close t ∨ r = .destroy t) ∧
        ∃ opens closes, (c.perform r).client.kernel.chain = { c.kernel.chain with opens, closes }) := by
  cases hwho : c.addressee r with
  | some t =>
    cases hs : c.session? t with
    | none =>
      have hkernel := ((hwho ▸ step_perform hc r : c.Step (some t) _).unserved hs).1
      refine .inr ⟨fun u s hs' hu => ?_, _, _, congrArg Kernel.chain hkernel⟩
      obtain rfl : t = u := Option.some.inj hu
      rw [hs] at hs'
      cases hs'
    | some s =>
      by_cases hrelease : r = .close t ∨ r = .destroy t
      · refine .inr ⟨fun u s' _ hu => ?_, _, _, chain_release hc hs hrelease⟩
        rwa [← Option.some.inj hu]
      · have hserved := perform_of_session? hc hs hwho (fun h => hrelease (.inl h)) fun h => hrelease (.inr h)
        exact .inl ⟨t, s, hs, rfl, hserved⟩
  | none =>
    have hunknown : ∀ (k : KStatId) (answer : Outcome Reply), (c.kstat? k).map KStat.token = none →
        ∃ opens closes, (c.withKStat k answer).client.kernel.chain =
          { c.kernel.chain with opens, closes } := fun k answer hk =>
      ⟨_, _, congrArg Kernel.chain (kernel_withKStat_of_none hk answer)⟩
    refine .inr ⟨nofun, ?_⟩
    cases r with
    | openToken facility =>
      obtain ⟨opens, hchain⟩ := c.chain_openToken facility
      exact ⟨opens, _, hchain⟩
    | edit e => exact absurd rfl (hedit e)
    | refresh k => exact hunknown k _ hwho
    | statistic k name => exact hunknown k _ hwho
    | statistics k => exact hunknown k _ hwho
    | _ => cases hwho

end Client

end KernelStats
