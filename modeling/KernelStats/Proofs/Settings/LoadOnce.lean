import KernelStats.Proofs.Settings.FirstLoad

/-!
# One load for each program

Three calls see to it that settings are loaded: the load itself, the reading of a client's settings and the
set-up of the logger. Whichever comes first does it, and marks the program, whether or not there was a
file. No call takes the mark back and nothing outside of the program can reach it, so all later calls
find it and do nothing but read the environment as it then is.
-/

namespace KernelStats.Settings

inductive Call where
  | load (extra : List Route)
  | clientConfig
  | initLogger

def Call.extra : Call → List Route
  | load extra => extra
  | clientConfig | initLogger => []

/-- What happens next: a call, or a change of the surroundings, which may be any. -/
inductive Step where
  | call (call : Call)
  | outside (environment : Environment) (files : FileTree) (cwd : Option Path)

/-- What a variable is set to, or something else if it is not set or empty. -/
def Environment.valueOr (e : Environment) (name fallback : Bytes) : Bytes :=
  match e.get? name with
  | none | some [] => fallback
  | some value => value

theorem Environment.getOr_eq (e : Environment) (name fallback : Bytes) :
    e.getOr name fallback = e.valueOr name fallback := by
  unfold getOr get valueOr
  cases e.get? name with
  | none => rfl
  | some value =>
    cases value with
    | nil => rfl
    | cons b rest => rfl

theorem Environment.get_eq (e : Environment) (name : Bytes) : e.get name = e.valueOr name [] := by
  rw [← getOr_eq, getOr]
  split
  · assumption
  · rfl

namespace Program

variable {p : Program}

/-- Makes a call. Only the reading of settings has a result. -/
def answer (p : Program) : Call → Program × Option ClientConfig
  | .load extra => (p.load extra, none)
  | .clientConfig => (p.clientConfig.1, some p.clientConfig.2)
  | .initLogger => (p.initLogger, none)

def step (p : Program) : Step → Program
  | .call call => (p.answer call).1
  | .outside environment files cwd => { p with environment, files, cwd }

def run (p : Program) (steps : List Step) : Program := steps.foldl step p

/-! ### The mark -/

theorem loaded_load (p : Program) (extra : List Route) : (p.load extra).loaded = true := by
  unfold load
  split
  · assumption
  · split <;> rfl

theorem loaded_answer (p : Program) (call : Call) : (p.answer call).1.loaded = true := by
  cases call with
  | load extra => exact p.loaded_load extra
  | clientConfig => exact p.loaded_load []
  | initLogger => exact p.loaded_load []

theorem loaded_run (p : Program) (steps : List Step) :
    (p.run steps).loaded = true ↔ p.loaded = true ∨ ∃ call, Step.call call ∈ steps := by
  induction steps generalizing p with
  | nil => simp [run]
  | cons first rest ih =>
    show ((p.step first).run rest).loaded = true ↔ _
    rw [ih]
    cases first with
    | call call => simp [step, loaded_answer]
    | outside environment files cwd => simp [step]

/-! ### Calls on a marked program -/

theorem load_of_loaded (hloaded : p.loaded = true) (extra : List Route) : p.load extra = p := if_pos hloaded

theorem environment_answer (p : Program) (call : Call) :
    (p.answer call).1.environment = (p.load call.extra).environment := by
  cases call <;> rfl

/-- A call on a marked program takes nothing from the files, wherever the program stands among them. -/
theorem answer_of_loaded (hloaded : p.loaded = true) (call : Call) (files : FileTree)
    (cwd executable : Option Path) :
    let elsewhere := { p with files, cwd, executable }.answer call
    elsewhere.2 = (p.answer call).2 ∧ elsewhere.1.environment = (p.answer call).1.environment ∧
      elsewhere.1.logging = (p.answer call).1.logging := by
  have hmoved := load_of_loaded (p := { p with files, cwd, executable }) hloaded
  cases call with
  | load extra => simp [answer, load_of_loaded hloaded, hmoved]
  | clientConfig => simp [answer, clientConfig, load_of_loaded hloaded, hmoved, config]
  | initLogger => simp [answer, initLogger, clientConfig, load_of_loaded hloaded, hmoved, config]

theorem config_answer (p : Program) :
    let held := (p.answer .clientConfig).1.environment
    (p.answer .clientConfig).2 =
      some
        { logLevel := held.valueOr levelKey (utf8 "info")
          logPattern := held.valueOr patternKey [] } := by
  intro held
  rw [← held.getOr_eq, ← held.get_eq]
  rfl

/-- **Settings are loaded once.** Whatever happens to the environment, the files and the working
directory, the first call is the only one that can load anything, even if it finds no file: every later
one leaves the environment as it is, and would do the same among any other files. What a client reads
as its settings is what the environment holds at the end of that call. -/
theorem settings_loaded_once (p : Program) (hfresh : p.loaded = false) (steps : List Step) (call : Call) :
    let now := p.run steps
    let after := (now.answer call).1
    let config := (now.answer .clientConfig).2
    let held := (now.answer .clientConfig).1.environment
    after.environment = (now.load call.extra).environment ∧
    (now.loaded = true ↔ ∃ earlier, Step.call earlier ∈ steps) ∧
    ((∃ earlier, Step.call earlier ∈ steps) →
      after.environment = now.environment ∧
      ∀ files cwd executable,
        let elsewhere := { now with files, cwd, executable }.answer call
        elsewhere.2 = (now.answer call).2 ∧ elsewhere.1.environment = now.environment ∧
          elsewhere.1.logging = after.logging) ∧
    config =
      some
        { logLevel := held.valueOr levelKey (utf8 "info")
          logPattern := held.valueOr patternKey [] } := by
  intro now after config held
  have hmark : now.loaded = true ↔ ∃ earlier, Step.call earlier ∈ steps := by
    rw [loaded_run, hfresh]
    simp
  refine ⟨environment_answer now call, hmark, fun hearlier => ?_, config_answer now⟩
  have hloaded := hmark.2 hearlier
  have hkept : after.environment = now.environment := by
    rw [environment_answer, load_of_loaded hloaded]
  refine ⟨hkept, fun files cwd executable => ?_⟩
  obtain ⟨hresult, henvironment, hlogging⟩ := answer_of_loaded hloaded call files cwd executable
  exact ⟨hresult, henvironment.trans hkept, hlogging⟩

/-- The first call finds no file. One that is there later, at the working directory, comes too late, also for a
call that asks for it by a relative path. -/
theorem settings_loaded_once_although_missing :
    let p : Program := { cwd := some [] }
    let content := utf8 "KSTATPP_LOG_LEVEL=debug"
    let steps : List Step :=
      [.call .initLogger,
        .outside (.ofPairs [(patternKey, utf8 "%v")]) { nodes := [([settingsName], .file content)] } (some [])]
    let now := p.run steps
    let here : List Route := [.ofText (utf8 ".")]
    p.loaded = false ∧ (∃ earlier, Step.call earlier ∈ steps) ∧
      now.files.FirstSettings now.cwd (now.searched here) content ∧
      (now.answer (.load here)).1.environment = now.environment ∧
      (now.answer .clientConfig).2 = some { logLevel := utf8 "info", logPattern := utf8 "%v" } := by
  intro p content steps now here
  have hcall : ∃ earlier, Step.call earlier ∈ steps := ⟨_, List.mem_cons_self⟩
  obtain ⟨-, -, hlater, -⟩ := settings_loaded_once p rfl steps (.load here)
  obtain ⟨-, -, hreading, hconfig⟩ := settings_loaded_once p rfl steps .clientConfig
  refine ⟨rfl, hcall, ⟨[], .absolute [], _, rfl, by cbv, fun _ hnone => nomatch hnone⟩, (hlater hcall).1, ?_⟩
  rw [hconfig, (hreading hcall).1]
  decide

end Program

end KernelStats.Settings
