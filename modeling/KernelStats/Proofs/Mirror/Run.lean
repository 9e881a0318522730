import KernelStats.Chain.Sample
import KernelStats.Proofs.Client.History
import KernelStats.Proofs.Mirror.Client

/-!
# The system library agrees with the chain

Take a chain with plain names that nobody has read, open one token on it, and make any requests with
names that fit, while the clock, the error of closes and the errors of reads change at will. Whether the
token was opened on the chain itself or through the system library, each request gets the same reply and
logs the same events, the objects are the same, and the chains have counted the same calls.
-/

namespace KernelStats

namespace Client

variable {c c' : Client}

theorem replies_append (c : Client) (first second : List Request) :
    c.replies (first ++ second) = c.replies first ++ (c.run first).replies second := by
  induction first generalizing c with
  | nil => rfl
  | cons r rest ih => exact congrArg ((c.perform r).result :: ·) (ih _)

theorem Mirrors.run (h : c.Mirrors c') (hc : c.WellFormed) {requests : List Request}
    (htame : ∀ r ∈ requests, r.Tame) :
    (c.run requests).Mirrors (c'.run requests) ∧ c'.replies requests = c.replies requests ∧
      c'.gather logged requests = c.gather logged requests := by
  induction requests generalizing c c' with
  | nil => exact ⟨h, rfl, rfl⟩
  | cons r rest ih =>
    obtain ⟨hresult, hlog, hclient⟩ := h.perform hc (htame r List.mem_cons_self)
    obtain ⟨hlast, hreplies, hlogs⟩ := ih hclient (hc.perform r) fun r' hr' =>
      htame r' (List.mem_cons_of_mem r hr')
    refine ⟨hlast, ?_, ?_⟩
    · rw [replies, replies, hresult, hreplies]
    · rw [gather, gather, logged, logged, hlog, hlogs]

theorem mirrors_start {kernel : Kernel} (hplain : kernel.chain.Plain) :
    Mirrors { kernel } { kernel } where
  alike := .refl _
  kstats := rfl
  shown _ hkstat := nomatch hkstat
  tokens := .inl ⟨rfl, rfl, rfl, hplain⟩

theorem tokens_perform_of_tame (hc : c.WellFormed) (hnone : c.tokens = []) {r : Request} (hr : r.Tame) :
    (c.perform r).client.tokens = [] := by
  have hopenings : c.openings = [] := by rw [openings, hnone, List.map_nil]
  rcases openings_cases hc r with ⟨-, -, hsame⟩ | ⟨hopened, -, -⟩ | ⟨t, -, -, hlt, -⟩
  · rw [hopenings] at hsame
    exact List.map_eq_nil_iff.1 hsame
  · cases r with
    | openToken facility => cases hr
    | _ => cases hopened
  · rw [hnone] at hlt
    cases hlt

theorem tokens_run_of_tame (hc : c.WellFormed) (hnone : c.tokens = []) {requests : List Request}
    (htame : ∀ r ∈ requests, r.Tame) : (c.run requests).tokens = [] := by
  induction requests generalizing c with
  | nil => exact hnone
  | cons r rest ih =>
    have hfirst := tokens_perform_of_tame hc hnone (htame r List.mem_cons_self)
    exact ih (hc.perform r) hfirst fun r' hr' => htame r' (List.mem_cons_of_mem r hr')

/-- **The system library agrees with the chain.** Request by request, a token that was opened through
the library is given the same replies and logs the same events as one that was opened on the chain
itself. Their objects stay the same, and their chains differ in nothing but the headers of kstats. -/
theorem library_agrees_with_live {kernel : Kernel} (hplain : kernel.chain.Plain)
    {before after : List Request} (hbefore : ∀ r ∈ before, r.Tame) (hafter : ∀ r ∈ after, r.Tame) :
    let opening (f : Facility) := before ++ [.openToken (some f)]
    let live := run { kernel } (opening .live ++ after)
    let library := run { kernel } (opening .library ++ after)
    replies { kernel } (opening .library ++ after) = replies { kernel } (opening .live ++ after) ∧
    gather logged (run { kernel } (opening .library)) after =
      gather logged (run { kernel } (opening .live)) after ∧
    library.kstats = live.kstats ∧
    (∀ t, library.isOpen t = live.isOpen t ∧ library.cachedCount t = live.cachedCount t) ∧
    live.kernel.chain.Alike library.kernel.chain := by
  intro opening live library
  have hstart := WellFormed.start kernel
  obtain ⟨hready, -, -⟩ := (mirrors_start hplain).run hstart hbefore
  have hnone := tokens_run_of_tame hstart rfl hbefore
  obtain ⟨hresult, hopened⟩ := hready.openToken hnone
  have hperformed : ∀ f, run { kernel } (opening f) =
      ((run { kernel } before).openToken (some f)).client := fun f => run_append _ before _
  have hreplied : ∀ f, replies { kernel } (opening f) = replies { kernel } before ++
      [.opened ((run { kernel } before).openToken (some f)).result] := fun f => replies_append _ before _
  -- the open is where the two clients part, and from where they mirror one another
  rw [← hperformed, ← hperformed] at hopened
  obtain ⟨hlast, hreplies, hlogs⟩ := hopened.run (hstart.run _) hafter
  have hlast' : live.Mirrors library := by
    simp only [live, library, run_append]
    exact hlast
  refine ⟨?_, hlogs, hlast'.kstats, fun t => ⟨hlast'.isOpen t, hlast'.cachedCount t⟩, hlast'.alike⟩
  rw [replies_append _ (opening .library), replies_append _ (opening .live), hreplied, hreplied, hresult,
    hreplies]

theorem library_agrees_with_live_on_sample :
    let kernel : Kernel := { chain := Chain.sample }
    let query : Query := ⟨utf8 "cpu", Query.anyInstance, utf8 "sys"⟩
    let before : List Request := [.edit (.set (some 5000) none (some 5) none)]
    let after : List Request :=
      [.all 0, .lookup 0 query, .statistic 0 (utf8 "idle"), .edit (.amend 0 { readErrno := some 5 }),
        .refresh 0, .statistics 0, .lookupStatistic 0 query (utf8 "brand"), .close 0, .refresh 0]
    kernel.chain.Plain ∧
      replies { kernel } (before ++ [.openToken (some .library)] ++ after) =
        replies { kernel } (before ++ [.openToken (some .live)] ++ after) := by
  intro kernel query before after
  have hplain : kernel.chain.Plain :=
    { records := by decide, lookupErrno := by decide, names := by decide, unread := by decide }
  have hquery : query.Fits := ⟨by decide, by decide⟩
  have hbefore : ∀ r ∈ before, r.Tame := by
    simp [before, Request.Tame, Chain.Edit.Outward]
  have hidle : (0 : UInt8) ∉ utf8 "idle" := by decide
  have hbrand : (0 : UInt8) ∉ utf8 "brand" := by decide
  have hafter : ∀ r ∈ after, r.Tame := by
    simp [after, Request.Tame, Chain.Edit.Outward, hquery, hidle, hbrand]
  exact ⟨hplain, (library_agrees_with_live hplain hbefore hafter).1⟩

end Client

end KernelStats
