import KernelStats.Proofs.Client.Effects
import KernelStats.Proofs.Session.Reads

/-!
# The reads of a request

A request is served by the session of an open token, and then its reads are those of the call, or it is an
edit, or it leaves the chain alone but for the counters of opens and closes. So the chain tells of every
read that a client has made of a kstat, whichever token it was made for.
-/

namespace KernelStats

namespace Client

/-- The kstats that a request reads, in order and with every read. -/
def reads (c : Client) (r : Request) : List RecordId :=
  ((c.addressee r).map fun t => KernelStats.reads (c.moments t r)).getD []

variable {c : Client} {t : TokenId} {s : Session} {r : Request}

theorem reads_of_session? (hs : c.session? t = some s) (hr : c.addressee r = some t) :
    c.reads r = KernelStats.reads (s.moments (s.script r)) := by
  rw [reads, hr, Option.map_some, Option.getD_some, moments_of_session? hs hr]

theorem reads_of_none (hr : ∀ t, c.addressee r = some t → c.session? t = none) : c.reads r = [] := by
  unfold reads
  cases hwho : c.addressee r with
  | none => rfl
  | some t =>
    rw [Option.map_some, moments_of_none (hr t hwho)]
    rfl

theorem reads?_perform (hc : c.WellFormed) (hedit : ∀ e, r ≠ .edit e) (id : RecordId) :
    (c.perform r).client.kernel.chain.reads? id =
      (c.kernel.chain.reads? id).map (· + (c.reads r).count id) := by
  rcases served_cases hc hedit with ⟨t, s, hs, hr, hserved⟩ | ⟨hreleased, opens, closes, hchain⟩
  · have hcounted := (plays_of_session? hc hs hr).reads? (hc.sound hs) id
    rw [← reads_of_session? hs hr, kernel_of_session? hs] at hcounted
    rw [hserved]
    exact hcounted
  · have hnone : c.reads r = [] := by
      rcases c.session_cases r with ⟨t, s, hr, hs⟩ | hnobody
      · rw [reads_of_session? hs hr]
        rcases hreleased t s hs hr with rfl | rfl <;> rfl
      · exact reads_of_none hnobody
    rw [hchain, hnone, List.count_nil]
    exact Option.map_id'.symm

end Client

end KernelStats
