import DebugServer.Json.Decode
import DebugServer.Session.Basic

/-!
# Configuration

What can be set in a configuration file: one table for logging and one for debug sessions. A field
that is left out has its default; a field that is not known is a fault.
-/

namespace DebugServer

structure LoggingConfig where
  /-- A level or a list of directives. -/
  level : String
  json : Bool
  stderr : Bool
  file : Option String
  includeBacktrace : Bool
deriving DecidableEq, Repr

instance : Inhabited LoggingConfig :=
  ⟨"info", false, true, none, false⟩

structure SessionConfig where
  stopAtEntry : Bool
  sourceAlias : Option String
  maxValueLength : Nat
  maxKeyLength : Nat
  eventQueueCapacity : Nat
  shutdownTimeout : Nat
deriving DecidableEq, Repr

instance : Inhabited SessionConfig :=
  ⟨false, none, 128, 64, 256, 2000⟩

structure Config where
  logging : LoggingConfig
  session : SessionConfig
deriving DecidableEq, Repr, Inhabited

/-- A table of a configuration: fields that it does not know are faults. -/
def configTable (name : String) (shape : Shape α) : RecordFormat α :=
  ⟨name, shape, true, false⟩

def Decoder.path : Decoder String
  | .str s => .ok s
  | j => .error (.invalidType j.found "path string")

namespace LoggingConfig

def format : RecordFormat LoggingConfig :=
  let d : LoggingConfig := default
  configTable "LoggingConfig" <|
    mk <$> .defaulting "level" d.level .text <*> .defaulting "json" d.json .bool
      <*> .defaulting "stderr" d.stderr .bool <*> .optional "file" .path
      <*> .defaulting "include_backtrace" d.includeBacktrace .bool

def toJson (c : LoggingConfig) : Json :=
  .obj [("file", Json.orNull (c.file.map Json.str)),
    ("include_backtrace", .bool c.includeBacktrace), ("json", .bool c.json),
    ("level", .str c.level), ("stderr", .bool c.stderr)]

end LoggingConfig

namespace SessionConfig

def format : RecordFormat SessionConfig :=
  let d : SessionConfig := default
  configTable "DebugConfig" <|
    mk <$> .defaulting "stop_at_entry" d.stopAtEntry .bool <*> .optional "source_alias" .text
      <*> .defaulting "max_value_length" d.maxValueLength (.natural "usize")
      <*> .defaulting "max_key_length" d.maxKeyLength (.natural "usize")
      <*> .defaulting "event_queue_capacity" d.eventQueueCapacity (.natural "usize")
      <*> .defaulting "shutdown_timeout_ms" d.shutdownTimeout (.natural "u64")

def toJson (c : SessionConfig) : Json :=
  .obj [("event_queue_capacity", Json.int c.eventQueueCapacity),
    ("max_key_length", Json.int c.maxKeyLength),
    ("max_value_length", Json.int c.maxValueLength),
    ("shutdown_timeout_ms", Json.int c.shutdownTimeout),
    ("source_alias", Json.orNull (c.sourceAlias.map Json.str)),
    ("stop_at_entry", .bool c.stopAtEntry)]

/-- The settings of a session that debugs `source`; at least one event can wait. -/
def settings (c : SessionConfig) (source : Option ProgramSource) : Settings where
  source := source
  stopAtEntry := c.stopAtEntry
  programAlias := c.sourceAlias
  limits := ⟨c.maxValueLength, c.maxKeyLength⟩
  queueCapacity := max c.eventQueueCapacity 1
  shutdownTimeout := c.shutdownTimeout
  crashReports := none

end SessionConfig

namespace Config

def format : RecordFormat Config :=
  configTable "AdapterConfig" <|
    mk <$> .defaulting "logging" default LoggingConfig.format.decode
      <*> .defaulting "adapter" default SessionConfig.format.decode

def toJson (c : Config) : Json :=
  .obj [("adapter", c.session.toJson), ("logging", c.logging.toJson)]

end Config

end DebugServer
