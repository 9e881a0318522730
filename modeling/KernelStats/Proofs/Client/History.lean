import KernelStats.Proofs.Client.Steps

/-!
# The history of a run

What a run has done so far is not written in the client, only what is left of it. To speak of both, an
observation takes from each request, in the state in which it is made, the things worth remembering,
and `gather` collects them over a run. A property that ties a client to its history is then proved
once for a single request, and `gather_induction` carries it through the run; where it needs something
of every request, `Along` says so of a run.
-/

namespace KernelStats

namespace Client

variable {α : Type} {observed : Client → Request → List α} {P : Client → Request → Prop} {c : Client}

/-- What is observed in a run, request by request. -/
def gather (observed : Client → Request → List α) (c : Client) : List Request → List α
  | [] => []
  | r :: rest => observed c r ++ (c.perform r).client.gather observed rest

def logged (c : Client) (r : Request) : List Event := (c.perform r).log

theorem gather_append (observed : Client → Request → List α) (c : Client) (first second : List Request) :
    c.gather observed (first ++ second) =
      c.gather observed first ++ (c.run first).gather observed second := by
  induction first generalizing c with
  | nil => rfl
  | cons r rest ih =>
    rw [List.cons_append, gather, gather, ih, List.append_assoc, run_cons]

theorem gather_concat (observed : Client → Request → List α) (c : Client) (requests : List Request)
    (r : Request) :
    c.gather observed (requests ++ [r]) = c.gather observed requests ++ observed (c.run requests) r := by
  rw [gather_append, gather, gather, List.append_nil]

/-- Every request of a run is of a kind, in the state in which it is made. -/
def Along (P : Client → Request → Prop) (c : Client) : List Request → Prop
  | [] => True
  | r :: rest => P c r ∧ (c.perform r).client.Along P rest

instance instDecidableAlong [∀ c r, Decidable (P c r)] (c : Client) :
    (requests : List Request) → Decidable (c.Along P requests)
  | [] => .isTrue trivial
  | r :: rest =>
    have := instDecidableAlong (c.perform r).client rest
    inferInstanceAs (Decidable (P c r ∧ (c.perform r).client.Along P rest))

theorem along_of_forall_mem {P : Request → Prop} {requests : List Request} (h : ∀ r ∈ requests, P r) :
    c.Along (fun _ r => P r) requests := by
  induction requests generalizing c with
  | nil => trivial
  | cons r rest ih =>
    exact ⟨h r List.mem_cons_self, ih fun r' hr' => h r' (List.mem_cons_of_mem r hr')⟩

theorem along_append {first second : List Request} :
    c.Along P (first ++ second) ↔ c.Along P first ∧ (c.run first).Along P second := by
  induction first generalizing c with
  | nil =>
    show c.Along P second ↔ True ∧ c.Along P second
    rw [true_and]
  | cons r rest ih => rw [List.cons_append, Along, Along, ih, and_assoc, run_cons]

theorem gather_induction_along (Ties : Client → List α → Prop)
    (hstep : ∀ (c : Client) (past : List α) (r : Request), c.WellFormed → P c r → Ties c past →
      Ties (c.perform r).client (past ++ observed c r))
    (hc : c.WellFormed) {past : List α} (hpast : Ties c past) {requests : List Request}
    (halong : c.Along P requests) : Ties (c.run requests) (past ++ c.gather observed requests) := by
  induction requests generalizing c past with
  | nil =>
    rw [gather, List.append_nil]
    exact hpast
  | cons r rest ih =>
    obtain ⟨hr, hrest⟩ := halong
    rw [gather, ← List.append_assoc]
    exact ih (hc.perform r) (hstep c past r hc hr hpast) hrest

/-- What ties a client to its history, if every request keeps it, holds after every run. -/
theorem gather_induction (Ties : Client → List α → Prop)
    (hstep : ∀ (c : Client) (past : List α) (r : Request), c.WellFormed → Ties c past →
      Ties (c.perform r).client (past ++ observed c r))
    (hc : c.WellFormed) {past : List α} (hpast : Ties c past) (requests : List Request) :
    Ties (c.run requests) (past ++ c.gather observed requests) :=
  gather_induction_along Ties (fun c past r hc _ => hstep c past r hc) hc hpast
    (along_of_forall_mem (P := fun _ => True) fun _ _ => trivial)

end Client

end KernelStats
