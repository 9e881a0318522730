import KernelStats.Proofs.Session.Answers
import KernelStats.Proofs.Session.Reads

/-!
# Refused calls of the system library

A call on a session may fail because the system library refuses something that was asked of it: the search
finds nothing, or a read comes to an error. Then the failure says what was refused, and carries the error
of that very refusal. A call that is refused nothing may still fail by itself, and such a failure carries
no error, but for the one which says that a statistic is not there.
-/

namespace KernelStats

/-! ### Refusals and failures -/

/-- What the system library has refused, as the code of the failure that it leads to, and with which
error. -/
structure Refusal where
  code : ErrorCode
  errno : Errno
  deriving DecidableEq

/-- A call of the library is refused if it comes to an error. -/
def Refusal.of? (code : ErrorCode) (errno : Errno) : Option Refusal :=
  if errno = 0 then none else some { code, errno }

def Failure.refusal (f : Failure) : Refusal := { code := f.code, errno := f.errno }

def Failure.of? {α : Type} : Except Failure α → Option Failure
  | .ok _ => none
  | .error f => some f

/-- A failure that blames no call of the library. -/
structure Failure.Own (f : Failure) : Prop where
  code : f.code ∉ [.openFailure, .readFailure, .closeFailure]
  errno : f.errno = if f.code = .lookupFailure then .noEntry else 0

theorem Failure.own_of_code {f : Failure} (h : f.code ∈ [.closedToken, .typeMismatch, .unknownDataType]) :
    f.Own := by
  cases f with
  | closedToken => exact ⟨by decide, rfl⟩
  | closedKStat => exact ⟨by decide, rfl⟩
  | notNamed kstat => exact ⟨by simp [code], rfl⟩
  | unknownDataType statistic type => exact ⟨by simp [code], rfl⟩
  | _ => simp [code] at h

theorem Failure.own_noStatistic (name : Bytes) (kstat : Identity) : (noStatistic name kstat).Own :=
  ⟨by simp [code], rfl⟩

/-- A refusal decides how a call fails, and without one the call fails by itself or not at all. -/
structure Refusal.Decides (refusal? : Option Refusal) (failed : Option Failure) : Prop where
  told : ∀ refusal, refusal? = some refusal → failed.map Failure.refusal = some refusal
  own : refusal? = none → ∀ f, failed = some f → f.Own

namespace Refusal

variable {refusal? : Option Refusal} {failed : Option Failure}

theorem decides_none (hown : ∀ f, failed = some f → f.Own) : Decides none failed := ⟨nofun, fun _ => hown⟩

theorem decides_error {f : Failure} (hown : f.Own) : Decides none (some f) :=
  decides_none fun _ hf => Option.some.inj hf ▸ hown

theorem decides_of? {α : Type} {code : ErrorCode} {errno : Errno} {f : Failure}
    (hf : f.refusal = { code, errno }) (a : α) :
    Decides (of? code errno) (Failure.of? (if errno = 0 then .ok a else .error f)) := by
  unfold of?
  by_cases hgood : errno = 0
  · rw [if_pos hgood, if_pos hgood]
    exact decides_none nofun
  · rw [if_neg hgood, if_neg hgood]
    exact ⟨fun refusal hrefusal => hrefusal ▸ congrArg some hf, nofun⟩

/-- If the first part of a call goes well, nothing was refused, and the rest may fail by itself. -/
theorem Decides.followed (h : Decides refusal? none) (hown : ∀ f, failed = some f → f.Own) :
    Decides refusal? failed := by
  cases refusal? with
  | none => exact decides_none hown
  | some refusal => cases h.told refusal rfl

end Refusal

/-- Whether a read of a kstat is refused. -/
def Chain.readRefusal? (c : Chain) (id : RecordId) : Option Refusal :=
  Refusal.of? .readFailure (c.readErrno id)

/-- Whether a lookup is refused: it finds nothing, or it cannot read what it finds. -/
def Handle.lookupRefusal? (k : Kernel) (h : Handle) (q : Query) : Option Refusal :=
  match h.selected? k q with
  | none => some { code := .lookupFailure, errno := h.searchErrno k }
  | some id => k.chain.readRefusal? id

/-! ### Calls -/

namespace Session

open Refusal

def readsRefusal? (s : Session) (actions : List Action) : Option Refusal :=
  (reads (s.moments actions)).findSome? s.kernel.chain.readRefusal?

variable {s : Session} {past : List Moment} {k : KStatId} {id : RecordId}

theorem decides_refresh (hs : s.Sound) (k : KStatId) :
    Decides (s.readsRefusal? [.refresh k]) (Failure.of? (s.refresh k).2) := by
  have hread : s.readsRefusal? [.refresh k] = s.kernel.chain.readRefusal? (s.kstat k).record :=
    List.findSome?_singleton
  rw [hread, result_refresh, readErrno_eq hs]
  exact decides_of? (f := .unreadable _ _) rfl ()

theorem decides_prepare (hs : s.Sound) (k : KStatId) :
    Decides (s.readsRefusal? (s.prepareScript k)) (Failure.of? (s.prepare k).2) := by
  by_cases htype : (s.kstat k).identity.type = .named
  · cases hdata : (s.header k).hasData with
    | true =>
      have hunread : s.readsRefusal? (s.prepareScript k) = none := by
        rw [readsRefusal?, reads_prepareScript, if_neg (by simp [hdata]), List.findSome?_nil]
      rw [hunread, prepare_of_data htype hdata]
      exact decides_none nofun
    | false =>
      have hread : s.readsRefusal? (s.prepareScript k) = s.readsRefusal? [.refresh k] := by
        rw [readsRefusal?, reads_prepareScript, if_pos ⟨htype, hdata⟩]
        rfl
      rw [hread, prepare_of_no_data htype hdata]
      exact decides_refresh hs k
  · have hunread : s.readsRefusal? (s.prepareScript k) = none := by
      rw [readsRefusal?, reads_prepareScript, if_neg (by simp [htype]), List.findSome?_nil]
    rw [hunread, prepare_of_unnamed htype]
    exact decides_error (Failure.own_of_code (by simp [Failure.code]))

theorem decides_of_prepared {α : Type} (hs : s.Sound) {result : Except Failure α}
    (herror : ∀ f, (s.prepare k).2 = .error f → result = .error f)
    (hown : ∀ f, (s.prepare k).2 = .ok () → result = .error f → f.Own) :
    Decides (s.readsRefusal? (s.prepareScript k)) (Failure.of? result) := by
  have hprepare := decides_prepare hs k
  cases hready : (s.prepare k).2 with
  | error f =>
    rw [hready] at hprepare
    rw [herror f hready]
    exact hprepare
  | ok _ =>
    rw [hready] at hprepare
    refine hprepare.followed fun f hf => hown f hready ?_
    cases result with
    | ok a => cases hf
    | error g => exact congrArg Except.error (Option.some.inj hf)

theorem decides_statistic (hs : s.Sound) (hk : s.StandsFor k id) (name : Bytes) :
    Decides (s.readsRefusal? (s.statisticScript k name)) (Failure.of? (s.statistic k name).2) := by
  rw [readsRefusal?, reads_statisticScript hk]
  refine decides_of_prepared hs (fun f hf => by rw [statistic_of_error hf]) fun f hready hf => ?_
  rw [statistic_of_ok hready, result_answer] at hf
  split at hf
  · cases hf
    exact Failure.own_noStatistic name _
  · obtain ⟨-, rfl⟩ := Record.decode_eq_error_iff.1 hf
    exact Failure.own_of_code (by simp [Failure.code])

theorem Backed.decides_statistics (h : s.Backed past) (hk : s.StandsFor k id) :
    Decides (s.readsRefusal? (s.statisticsScript k)) (Failure.of? (s.statistics k).2) := by
  rw [readsRefusal?, reads_statisticsScript hk]
  refine decides_of_prepared h.sound (fun f hf => by rw [statistics_of_error hf]) fun f hready hf => ?_
  -- what the copy has is what its latest reading brought, and the header counts no more than that
  obtain ⟨reading, hlast, hafter, -⟩ := h.ready hk hready
  have hk' := (moves_prepare hk).advances.standsFor hk
  obtain ⟨hloaded, -, -⟩ := loaded_prepare h.sound hk (h.names hk) hready
  rw [(statistics_of_loaded hready hloaded).1] at hf
  have hcode := hloaded.code_of_statistics (f := f) ?_ hf
  · exact Failure.own_of_code (by simp [hcode])
  · rw [hafter.ndata_eq hk' hlast, records, hk'.record, hafter.records_eq hk' hlast]
    exact List.length_take_le' _ _

theorem decides_lookup (hs : s.Sound) (q : Query) :
    Decides (s.handle.lookupRefusal? s.kernel q) (Failure.of? (s.lookup q).2) := by
  unfold Handle.lookupRefusal?
  cases hselected : s.handle.selected? s.kernel q with
  | none =>
    rw [lookup_of_error (Handle.lookup_of_selected?_none hs.intact hselected)]
    exact ⟨fun refusal hrefusal => hrefusal, nofun⟩
  | some id =>
    rw [lookup_of_ok (Handle.lookup_of_selected? hs.intact hselected), result_refresh, readErrno_matched hs]
    simp only [apply_ite (Except.map _)]
    exact decides_of? (f := .unreadable _ _) rfl (s.matched q id).2

/-- After a lookup, a statistic of what was found needs no further call of the library that may be
refused. -/
theorem Backed.decides_lookupStatistic (h : s.Backed past) (q : Query) (name : Bytes) :
    Decides (s.handle.lookupRefusal? s.kernel q) (Failure.of? (s.lookupStatistic q name).2) := by
  have hlookup := decides_lookup h.sound q
  cases hfound : (s.lookup q).2 with
  | error f =>
    rw [hfound] at hlookup
    rw [lookupStatistic_of_error hfound]
    exact hlookup
  | ok k =>
    obtain ⟨id, -, hk⟩ := standsFor_lookup h.sound hfound
    have hunread := reads_prepareScript_lookup h.sound (fun _ => h.labelled) hfound
    have hstatistic := decides_statistic ((moves_lookup h.sound q).sound h.sound) hk name
    rw [readsRefusal?, reads_statisticScript hk, hunread] at hstatistic
    rw [hfound] at hlookup
    rw [lookupStatistic_of_ok hfound]
    exact hlookup.followed (hstatistic.own rfl)

end Session

end KernelStats
