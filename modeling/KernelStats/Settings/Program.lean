import KernelStats.Level
import KernelStats.Settings.Environment
import KernelStats.Settings.SearchPath

/-!
# The settings of a program

A program loads a settings file into its environment once. Only the first call looks for a file, and
what it finds, or that it finds nothing, is final. The settings of a client are then read from the
environment as it is at each call, and a logger is set up from them.
-/

namespace KernelStats.Settings

structure ClientConfig where
  logLevel : Bytes := utf8 "info"
  /-- Empty for the built-in pattern. -/
  logPattern : Bytes := []
  deriving DecidableEq, Repr

structure Logging where
  level : Level := .info
  pattern : Bytes := []
  loggers : List Bytes := []
  /-- The logger that is used when none is named. -/
  current : Option Bytes := none
  deriving DecidableEq, Repr

/-- What the settings of a program depend on. -/
structure Program where
  environment : Environment := {}
  files : FileTree := {}
  /-- The working directory, unknown once it was removed. -/
  cwd : Option Path := none
  executable : Option Path := none
  /-- Whether a settings file was looked for. -/
  loaded : Bool := false
  logging : Logging := {}

def levelKey : Bytes := utf8 "KSTATPP_LOG_LEVEL"

def patternKey : Bytes := utf8 "KSTATPP_LOG_PATTERN"

def loggerName : Bytes := utf8 "kstatpp"

def builtinPattern : Bytes := utf8 "[%Y-%m-%d %H:%M:%S.%e] [%^%l%$] %v"

namespace Program

def load (p : Program) (extra : List Route) : Program :=
  if p.loaded then p
  else
    match p.files.settings? p.cwd ((searchRoots p.cwd p.executable).map .absolute ++ extra) with
    | some text => { p with loaded := true, environment := p.environment.load text }
    | none => { p with loaded := true }

def config (p : Program) : ClientConfig :=
  { logLevel := p.environment.getOr levelKey (utf8 "info")
    logPattern := p.environment.get patternKey }

def clientConfig (p : Program) : Program × ClientConfig :=
  let p := p.load []
  (p, p.config)

def setLogLevel (p : Program) (level : Level) : Program :=
  { p with logging := { p.logging with level } }

/-- Sets logging up from the settings. The logger is made once. -/
def initLogger (p : Program) : Program :=
  let (p, config) := p.clientConfig
  let logging := p.logging
  { p with
    logging :=
      { level := .ofName config.logLevel
        pattern := if config.logPattern = [] then builtinPattern else config.logPattern
        loggers :=
          if loggerName ∈ logging.loggers then logging.loggers else logging.loggers ++ [loggerName]
        current := some loggerName } }

/-! ### Changes from outside -/

def write (p : Program) (path : Path) (node : Node) : Program :=
  { p with files := p.files.write path node }

/-- Removes files. A program whose working directory goes has none from then on. -/
def remove (p : Program) (path : Path) : Program :=
  let files := p.files.remove path
  { p with files, cwd := p.cwd.filter fun place => files.node? place = some .directory }

def changeDirectory (p : Program) (path : Path) : Program :=
  match p.files.directory? path with
  | some place => { p with cwd := some place }
  | none => p

def setVariable (p : Program) (name value : Bytes) : Program :=
  { p with environment := p.environment.set name value }

def unsetVariable (p : Program) (name : Bytes) : Program :=
  { p with environment := p.environment.unset name }

end Program

end KernelStats.Settings
