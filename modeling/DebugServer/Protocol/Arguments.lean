import DebugServer.Json.Decode

/-!
# Arguments of requests

One record for each command that takes arguments, with its JSON form. Members that a client leaves
out are absent or have a default; what is left out is left out again or written as `null`.
-/

namespace DebugServer

def Json.int64 (n : Int64) : Json :=
  Json.int n.toInt

def Json.optionalText (key : String) (s : Option String) : List (String × Json) :=
  Json.optional key (s.map Json.str)

def Json.optionalInt64 (key : String) (n : Option Int64) : List (String × Json) :=
  Json.optional key (n.map Json.int64)

structure InitializeArguments where
  clientId : Option String
  adapterId : Option String
  linesFromOne : Option Bool
  columnsFromOne : Option Bool
  pathFormat : Option String
deriving DecidableEq, Repr, Inhabited

namespace InitializeArguments

def format : RecordFormat InitializeArguments :=
  messageRecord "InitializeArguments" <|
    mk <$> .optional "clientID" .text <*> .optional "adapterID" .text
      <*> .optional "linesStartAt1" .bool <*> .optional "columnsStartAt1" .bool
      <*> .optional "pathFormat" .text

def toJson (a : InitializeArguments) : Json :=
  .obj <| Json.optionalText "adapterID" a.adapterId ++ Json.optionalText "clientID" a.clientId ++
    Json.optional "columnsStartAt1" (a.columnsFromOne.map Json.bool) ++
    Json.optional "linesStartAt1" (a.linesFromOne.map Json.bool) ++
    Json.optionalText "pathFormat" a.pathFormat

end InitializeArguments

structure LaunchArguments where
  program : Option String
  stopOnEntry : Option Bool
deriving DecidableEq, Repr, Inhabited

namespace LaunchArguments

def format : RecordFormat LaunchArguments :=
  messageRecord "LaunchArguments" <|
    mk <$> .optional "program" .text <*> .optional "stopOnEntry" .bool

def toJson (a : LaunchArguments) : Json :=
  .obj [("program", Json.orNull (a.program.map Json.str)),
    ("stopOnEntry", Json.orNull (a.stopOnEntry.map Json.bool))]

end LaunchArguments

/-- A file, by a name to show and the path to find it. -/
structure Source where
  name : Option String
  path : Option String
deriving DecidableEq, Repr, Inhabited

namespace Source

def format : RecordFormat Source :=
  messageRecord "Source" <| mk <$> .optional "name" .text <*> .optional "path" .text

def toJson (s : Source) : Json :=
  .obj (Json.optionalText "name" s.name ++ Json.optionalText "path" s.path)

end Source

structure SourceBreakpoint where
  line : Int64
  column : Option Int64
  condition : Option String
deriving DecidableEq, Repr, Inhabited

namespace SourceBreakpoint

def format : RecordFormat SourceBreakpoint :=
  messageRecord "SourceBreakpoint" <|
    mk <$> .required "line" .int64 <*> .optional "column" .int64 <*> .optional "condition" .text

def toJson (b : SourceBreakpoint) : Json :=
  .obj (Json.optionalInt64 "column" b.column ++ Json.optionalText "condition" b.condition ++
    [("line", Json.int64 b.line)])

end SourceBreakpoint

/-- Where breakpoints are to be; `lines` is an older form of `breakpoints`. -/
structure SetBreakpointsArguments where
  source : Source
  breakpoints : Option (List SourceBreakpoint)
  lines : Option (List Int64)
deriving DecidableEq, Repr, Inhabited

namespace SetBreakpointsArguments

def format : RecordFormat SetBreakpointsArguments :=
  messageRecord "SetBreakpointsArguments" <|
    mk <$> .defaulting "source" default Source.format.decode
      <*> .optional "breakpoints" (.list SourceBreakpoint.format.decode)
      <*> .optional "lines" (.list .int64)

def toJson (a : SetBreakpointsArguments) : Json :=
  .obj [("breakpoints", Json.orNull (a.breakpoints.map fun bs => .arr (bs.map (·.toJson)))),
    ("lines", Json.orNull (a.lines.map fun ls => .arr (ls.map Json.int64))),
    ("source", a.source.toJson)]

end SetBreakpointsArguments

structure FunctionBreakpoint where
  name : String
  condition : Option String
deriving DecidableEq, Repr, Inhabited

namespace FunctionBreakpoint

def format : RecordFormat FunctionBreakpoint :=
  messageRecord "FunctionBreakpoint" <|
    mk <$> .required "name" .text <*> .optional "condition" .text

def toJson (b : FunctionBreakpoint) : Json :=
  .obj (Json.optionalText "condition" b.condition ++ [("name", .str b.name)])

end FunctionBreakpoint

structure SetFunctionBreakpointsArguments where
  breakpoints : List FunctionBreakpoint
deriving DecidableEq, Repr, Inhabited

namespace SetFunctionBreakpointsArguments

def format : RecordFormat SetFunctionBreakpointsArguments :=
  messageRecord "SetFunctionBreakpointsArguments" <|
    mk <$> .defaulting "breakpoints" [] (.list FunctionBreakpoint.format.decode)

def toJson (a : SetFunctionBreakpointsArguments) : Json :=
  .obj [("breakpoints", .arr (a.breakpoints.map (·.toJson)))]

end SetFunctionBreakpointsArguments

structure ThreadArguments where
  thread : Int64
deriving DecidableEq, Repr, Inhabited

namespace ThreadArguments

def format : RecordFormat ThreadArguments :=
  messageRecord "ThreadArguments" <| mk <$> .required "threadId" .int64

def toJson (a : ThreadArguments) : Json :=
  .obj [("threadId", Json.int64 a.thread)]

end ThreadArguments

structure StackTraceArguments where
  thread : Int64
  startFrame : Option Int64
  levels : Option Int64
deriving DecidableEq, Repr, Inhabited

namespace StackTraceArguments

def format : RecordFormat StackTraceArguments :=
  messageRecord "StackTraceArguments" <|
    mk <$> .required "threadId" .int64 <*> .optional "startFrame" .int64
      <*> .optional "levels" .int64

def toJson (a : StackTraceArguments) : Json :=
  .obj [("levels", Json.orNull (a.levels.map Json.int64)),
    ("startFrame", Json.orNull (a.startFrame.map Json.int64)),
    ("threadId", Json.int64 a.thread)]

end StackTraceArguments

structure ScopesArguments where
  frame : Int64
deriving DecidableEq, Repr, Inhabited

namespace ScopesArguments

def format : RecordFormat ScopesArguments :=
  messageRecord "ScopesArguments" <| mk <$> .required "frameId" .int64

def toJson (a : ScopesArguments) : Json :=
  .obj [("frameId", Json.int64 a.frame)]

end ScopesArguments

structure VariablesArguments where
  reference : Int64
deriving DecidableEq, Repr, Inhabited

namespace VariablesArguments

def format : RecordFormat VariablesArguments :=
  messageRecord "VariablesArguments" <| mk <$> .required "variablesReference" .int64

def toJson (a : VariablesArguments) : Json :=
  .obj [("variablesReference", Json.int64 a.reference)]

end VariablesArguments

end DebugServer
