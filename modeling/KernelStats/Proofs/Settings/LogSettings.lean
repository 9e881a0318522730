import KernelStats.Proofs.Settings.LoadOnce

/-!
# Where the settings of the log come from

A variable that was set before the program set its logger up decides, be it empty; if it was not set, the first
line for it in the first settings file does. Only then is the outcome looked at, and an empty one is worth no more
than none: the level is `info` and the pattern is the built-in one. So an empty variable hides the line of a file
without taking its place. Later set-ups look at the variables alone, whatever was done to the level between.
-/

namespace KernelStats

/-! ### Names of levels -/

namespace Level

def accepted : List Bytes :=
  ["trace", "debug", "info", "warn", "warning", "error", "critical", "off"].map utf8

theorem ofName_name (level : Level) : ofName (utf8 level.name) = level := by
  cases level <;> decide

/-- A text that differs from all names by as much as a blank or a capital names no level. -/
theorem ofName_of_not_mem {name : Bytes} (h : name ∉ accepted) : ofName name = .info := by
  have hlisted : ∀ entry ∈ names, entry.1 ∈ accepted := by decide
  have hnone : names.lookup name = none := by
    rw [List.lookup_eq_none_iff]
    intro entry hentry
    have hne : name ≠ entry.1 := fun heq => h (heq ▸ hlisted entry hentry)
    simpa using hne
  rw [ofName, hnone]
  rfl

end Level

namespace Settings

/-- What a setting is worth: something else if it is missing or empty. -/
def orFallback (source : Option Bytes) (fallback : Bytes) : Bytes :=
  match source with
  | none | some [] => fallback
  | some value => value

theorem Environment.getOr_eq_orFallback (e : Environment) (name fallback : Bytes) :
    e.getOr name fallback = orFallback (e.get? name) fallback := e.getOr_eq name fallback

theorem Environment.pattern_eq_orFallback (e : Environment) (name fallback : Bytes) :
    (if e.get name = [] then fallback else e.get name) = orFallback (e.get? name) fallback :=
  e.getOr_eq name fallback

namespace Program

variable {p : Program} {key : Bytes} {source : Option Bytes}

/-- What is there for a variable when a program loads its settings: what it was set to before, else what the
first line for it gives it in the first settings file on the search path. -/
inductive Supplies (p : Program) (key : Bytes) : Option Bytes → Prop where
  | preset {value : Bytes} (hset : p.environment.get? key = some value) : Supplies p key (some value)
  | line {text : Bytes} (hunset : p.environment.get? key = none)
    (hfirst : p.files.FirstSettings p.cwd (p.searched []) text) :
    Supplies p key ((lines text).findSome? (assigned? key))
  | nowhere (hunset : p.environment.get? key = none)
    (hnone : ∀ directory ∈ p.searched [], p.files.content? p.cwd (directory.child settingsName) = none) :
    Supplies p key none

/-! ### The first set-up -/

theorem texts_load (hfresh : p.loaded = false) : p.environment.texts <+: (p.load []).environment.texts := by
  cases hsettings : p.files.settings? p.cwd (p.searched []) with
  | none => rw [environment_load_of_none hsettings]
  | some text =>
    rw [environment_load_of_some hfresh (FileTree.settings?_eq_some_iff.1 hsettings)]
    exact p.environment.texts_load text

theorem get?_load_of_supplies (hfresh : p.loaded = false) (hkey : equalsSign ∉ key.upToNul)
    (hnul : key.upToNul = key) (h : p.Supplies key source) : (p.load []).environment.get? key = source := by
  cases h with
  | preset hset => exact Environment.get?_of_kept (texts_load hfresh) hset
  | line hunset hfirst =>
    rw [environment_load_of_some hfresh hfirst, p.environment.get?_load _ hkey, hunset, Option.none_or, hnul]
  | nowhere hunset hnone =>
    rw [environment_load_of_none (List.findSome?_eq_none_iff.2 hnone), hunset]

theorem exists_supplies (p : Program) (key : Bytes) : ∃ source, p.Supplies key source := by
  cases hget : p.environment.get? key with
  | some value => exact ⟨_, .preset hget⟩
  | none =>
    cases hsettings : p.files.settings? p.cwd (p.searched []) with
    | some text => exact ⟨_, .line hget (FileTree.settings?_eq_some_iff.1 hsettings)⟩
    | none => exact ⟨_, .nowhere hget (List.findSome?_eq_none_iff.1 hsettings)⟩

theorem supplies_iff (hfresh : p.loaded = false) (hkey : equalsSign ∉ key.upToNul) (hnul : key.upToNul = key) :
    p.Supplies key source ↔ source = (p.load []).environment.get? key := by
  constructor
  · intro h
    exact (get?_load_of_supplies hfresh hkey hnul h).symm
  · rintro rfl
    obtain ⟨source, h⟩ := p.exists_supplies key
    rwa [get?_load_of_supplies hfresh hkey hnul h]

theorem logging_load (p : Program) (extra : List Route) : (p.load extra).logging = p.logging := by
  unfold load
  split
  · rfl
  · split <;> rfl

theorem level_initLogger (p : Program) : p.initLogger.logging.level =
    .ofName (orFallback ((p.load []).environment.get? levelKey) (utf8 "info")) :=
  congrArg Level.ofName (Environment.getOr_eq_orFallback _ _ _)

theorem pattern_initLogger (p : Program) : p.initLogger.logging.pattern =
    orFallback ((p.load []).environment.get? patternKey) builtinPattern :=
  Environment.pattern_eq_orFallback _ _ _

theorem loggers_initLogger (p : Program) : p.initLogger.logging.loggers =
    if loggerName ∈ p.logging.loggers then p.logging.loggers else p.logging.loggers ++ [loggerName] := by
  rw [← p.logging_load []]
  rfl

/-! ### Later ones -/

/-- A program whose logger is set up. -/
structure Ready (p : Program) : Prop where
  loaded : p.loaded = true
  single : p.logging.loggers.count loggerName = 1
  current : p.logging.current = some loggerName

theorem ready_initLogger (hsingle : p.logging.loggers.count loggerName ≤ 1) : p.initLogger.Ready where
  loaded := p.loaded_answer .initLogger
  single := by
    rw [loggers_initLogger]
    split
    · next hmem => exact Nat.le_antisymm hsingle (List.count_pos_iff.2 hmem)
    · next hmem => rw [List.count_append, List.count_eq_zero_of_not_mem hmem, List.count_singleton_self]
  current := rfl

/-- What may happen next to a program whose logger is set up: any step, or another level by hand. -/
inductive Turn where
  | step (step : Step)
  | setLogLevel (level : Level)

def turn (p : Program) : Turn → Program
  | .step step => p.step step
  | .setLogLevel level => p.setLogLevel level

theorem ready_turn (h : p.Ready) (t : Turn) : (p.turn t).Ready := by
  cases t with
  | setLogLevel level => exact ⟨h.loaded, h.single, h.current⟩
  | step step =>
    cases step with
    | outside environment files cwd => exact ⟨h.loaded, h.single, h.current⟩
    | call call =>
      cases call with
      | load extra =>
        show (p.load extra).Ready
        rwa [load_of_loaded h.loaded]
      | clientConfig =>
        show (p.load []).Ready
        rwa [load_of_loaded h.loaded]
      | initLogger => exact ready_initLogger (Nat.le_of_eq h.single)

theorem ready_foldl (h : p.Ready) (turns : List Turn) : (turns.foldl turn p).Ready := by
  induction turns generalizing p with
  | nil => exact h
  | cons t rest ih => exact ih (ready_turn h t)

/-- **Where the settings of the log come from.** For level and pattern there is one source each, and the first
set-up of the logger takes them from there, or the default for what is missing or empty. Texts that are none of
eight names mean the level `info`. Whatever happens then, a later set-up goes by the variables as they are and
adds no logger to the one there is. -/
theorem log_settings_by_precedence (p : Program) (hfresh : p.loaded = false)
    (hsingle : p.logging.loggers.count loggerName ≤ 1) :
    let first := p.initLogger
    (∃ level pattern, (∀ source, p.Supplies levelKey source ↔ source = level) ∧
      (∀ source, p.Supplies patternKey source ↔ source = pattern) ∧
      first.logging.level = .ofName (orFallback level (utf8 "info")) ∧
      first.logging.pattern = orFallback pattern builtinPattern) ∧
    (∀ level : Level, Level.ofName (utf8 level.name) = level) ∧ Level.ofName (utf8 "warning") = .warn ∧
    (∀ name, name ∉ Level.accepted → Level.ofName name = .info) ∧
    first.Ready ∧
    ∀ turns : List Turn,
      let now := turns.foldl turn first
      let again := now.initLogger
      now.Ready ∧ again.environment = now.environment ∧
        again.logging.level = .ofName (orFallback (now.environment.get? levelKey) (utf8 "info")) ∧
        again.logging.pattern = orFallback (now.environment.get? patternKey) builtinPattern ∧
        again.logging.loggers = now.logging.loggers ∧ again.logging.current = some loggerName := by
  intro first
  have hready : first.Ready := ready_initLogger hsingle
  refine ⟨⟨_, _, fun source => supplies_iff hfresh (by decide) (by decide),
    fun source => supplies_iff hfresh (by decide) (by decide), p.level_initLogger, p.pattern_initLogger⟩,
    Level.ofName_name, by decide, fun name hname => Level.ofName_of_not_mem hname, hready, fun turns => ?_⟩
  intro now again
  have hnow : now.Ready := ready_foldl hready turns
  have hload : now.load [] = now := load_of_loaded hnow.loaded []
  have hmember : loggerName ∈ now.logging.loggers := List.count_pos_iff.1 (hnow.single.symm ▸ Nat.one_pos)
  have henvironment : again.environment = (now.load []).environment := now.environment_answer .initLogger
  refine ⟨hnow, by rw [henvironment, hload], ?_, ?_, ?_, rfl⟩
  · rw [now.level_initLogger, hload]
  · rw [now.pattern_initLogger, hload]
  · rw [now.loggers_initLogger, if_pos hmember]

/-- An empty variable hides the line for the level, and the line for the pattern counts. A later set-up takes the
level from a variable that was not empty by then, and not the one that was set by hand. -/
theorem log_settings_by_precedence_on_empty_variable :
    let content := utf8 "KSTATPP_LOG_LEVEL=debug\nKSTATPP_LOG_PATTERN='%v'\nKSTATPP_LOG_PATTERN=%l"
    let p : Program :=
      { environment := .ofPairs [(levelKey, [])], files := { nodes := [([settingsName], .file content)] },
        cwd := some [] }
    let turns : List Turn :=
      [.setLogLevel .off, .step (.outside (.ofPairs [(levelKey, utf8 "warning")]) {} none)]
    let again := (turns.foldl turn p.initLogger).initLogger
    p.loaded = false ∧ p.logging.loggers.count loggerName ≤ 1 ∧
      p.Supplies levelKey (some []) ∧ p.initLogger.logging.level = .info ∧
      p.Supplies patternKey (some (utf8 "%v")) ∧ p.initLogger.logging.pattern = utf8 "%v" ∧
      utf8 "Debug" ∉ Level.accepted ∧ Level.ofName (utf8 "Debug") = .info ∧
      again.logging.level = .warn ∧ again.logging.pattern = builtinPattern ∧
      again.logging.loggers.count loggerName = 1 := by
  intro content p turns again
  have hfirst : p.files.FirstSettings p.cwd (p.searched []) content :=
    ⟨[], .absolute [], _, rfl, by cbv, fun _ hnone => nomatch hnone⟩
  have hlevelSource : p.Supplies levelKey (some []) := .preset (by decide)
  have hpatternSource : p.Supplies patternKey (some (utf8 "%v")) := by
    have hline : (lines content).findSome? (assigned? patternKey) = some (utf8 "%v") := by decide
    exact hline ▸ .line (by decide) hfirst
  obtain ⟨⟨level, pattern, hlevels, hpatterns, hlevel, hpattern⟩, -, -, hunknown, -, hlater⟩ :=
    log_settings_by_precedence p rfl (by decide)
  obtain ⟨hnow, -, hagain, hagain', hloggers, -⟩ := hlater turns
  obtain rfl := (hlevels _).1 hlevelSource
  obtain rfl := (hpatterns _).1 hpatternSource
  refine ⟨rfl, by decide, hlevelSource, hlevel.trans (by decide), hpatternSource, hpattern, by decide,
    hunknown _ (by decide), hagain.trans (by decide), hagain'.trans (by decide), ?_⟩
  exact (congrArg (List.count loggerName) hloggers).trans hnow.single

end Program

end Settings

end KernelStats
