import DebugServer.CommandLine.Arguments
import DebugServer.Config.Read
import DebugServer.Log.Filter
import DebugServer.Log.Line
import DebugServer.Server

/-!
# Starting a run

What a run of the program takes from its arguments, its environment and its configuration file
before it serves a session. A configuration that cannot be loaded does not keep it from starting.
-/

namespace DebugServer

structure Environment where
  configPath : Option String
  logDirectives : Option String
deriving DecidableEq, Repr, Inhabited

structure FileContents where
  path : String
  contents : Except FileError (List UInt8)

def configComplaint (path : String) (e : ConfigError) : String :=
  "interp-dap: failed to load config from " ++ path ++ ": " ++ e.message ++
    "; continuing with defaults"

/-- The configuration, which is the default one without a file or with a complaint. -/
def loadConfig : Option FileContents → Config × Option String
  | none => (default, none)
  | some file =>
    match Config.ofFile file.path file.contents with
    | .ok config => (config, none)
    | .error e => (default, some (configComplaint file.path e))

structure Startup where
  arguments : Arguments
  logging : LoggingConfig
  session : SessionConfig
  filter : Log.Filter
  /-- What is said about the configuration on the standard error stream, whatever the filter. -/
  complaint : Option String
deriving Inhabited

def Arguments.configPath? (a : Arguments) (environment : Environment) : Option String :=
  a.config.or environment.configPath

namespace Startup

def new (a : Arguments) (environment : Environment) (file : Option FileContents) : Startup :=
  let (config, complaint) := loadConfig file
  { arguments := a
    logging := config.logging
    session := a.override config.session
    filter := .ofSettings config.logging.level environment.logDirectives
    complaint }

/-- Sessions of a run report crashes. -/
def settings (s : Startup) : Settings :=
  { s.session.settings s.arguments.source with crashReports := some s.logging.includeBacktrace }

def fileRecord (path : String) : Log.Record where
  level := .warn
  target := Log.configTarget
  message := "failed to open log file; file logging disabled"
  fields := [("path", .plain path)]

/-- The records that come before those of the session, given whether the log file is open. -/
def records (s : Startup) (opened : Bool) : List Log.Record :=
  match s.logging.file with
  | some path => if opened then [] else [fileRecord path]
  | none => []

def admitted (s : Startup) (records : List Log.Record) : List Log.Record :=
  records.filter s.filter.admits

def lines (s : Startup) (records : List Log.Record) : List String :=
  (s.admitted records).map (·.line s.logging.json)

end Startup

/-- What went wrong; each text is the cause of the one before it. -/
def ServerError.causes : ServerError → List String
  | .framing e => e.message :: if e.isCut then [e.detail] else []
  | e => [e.message]

def ServerError.report (e : ServerError) : String :=
  ": ".intercalate ("debug adapter session failed" :: e.causes)

end DebugServer
