import DebugServer.Protocol.Arguments

/-!
# Bodies of responses and events

The records that a session sends to the client, with their JSON forms. Each can also be read back.
-/

namespace DebugServer

structure Capabilities where
  configurationDoneRequest : Bool
  functionBreakpoints : Bool
  terminateRequest : Bool
  conditionalBreakpoints : Bool
deriving DecidableEq, Repr, Inhabited

namespace Capabilities

def format : RecordFormat Capabilities :=
  messageRecord "Capabilities" <|
    mk <$> .required "supportsConfigurationDoneRequest" .bool
      <*> .required "supportsFunctionBreakpoints" .bool
      <*> .required "supportsTerminateRequest" .bool
      <*> .required "supportsConditionalBreakpoints" .bool

def toJson (c : Capabilities) : Json :=
  .obj [("supportsConditionalBreakpoints", .bool c.conditionalBreakpoints),
    ("supportsConfigurationDoneRequest", .bool c.configurationDoneRequest),
    ("supportsFunctionBreakpoints", .bool c.functionBreakpoints),
    ("supportsTerminateRequest", .bool c.terminateRequest)]

end Capabilities

structure BreakpointReport where
  verified : Bool
  line : Option Int64
  column : Option Int64
deriving DecidableEq, Repr, Inhabited

namespace BreakpointReport

def format : RecordFormat BreakpointReport :=
  messageRecord "Breakpoint" <|
    mk <$> .required "verified" .bool <*> .optional "line" .int64 <*> .optional "column" .int64

def toJson (b : BreakpointReport) : Json :=
  .obj (Json.optionalInt64 "column" b.column ++ Json.optionalInt64 "line" b.line ++
    [("verified", .bool b.verified)])

end BreakpointReport

structure BreakpointsBody where
  breakpoints : List BreakpointReport
deriving DecidableEq, Repr, Inhabited

namespace BreakpointsBody

def format : RecordFormat BreakpointsBody :=
  messageRecord "BreakpointsResponseBody" <|
    mk <$> .required "breakpoints" (.list BreakpointReport.format.decode)

def toJson (b : BreakpointsBody) : Json :=
  .obj [("breakpoints", .arr (b.breakpoints.map (·.toJson)))]

end BreakpointsBody

structure ContinueBody where
  allThreads : Bool
deriving DecidableEq, Repr, Inhabited

namespace ContinueBody

def format : RecordFormat ContinueBody :=
  messageRecord "ContinueResponseBody" <| mk <$> .required "allThreadsContinued" .bool

def toJson (b : ContinueBody) : Json :=
  .obj [("allThreadsContinued", .bool b.allThreads)]

end ContinueBody

structure ThreadReport where
  id : Int64
  name : String
deriving DecidableEq, Repr, Inhabited

namespace ThreadReport

def format : RecordFormat ThreadReport :=
  messageRecord "Thread" <| mk <$> .required "id" .int64 <*> .required "name" .text

def toJson (t : ThreadReport) : Json :=
  .obj [("id", Json.int64 t.id), ("name", .str t.name)]

end ThreadReport

structure ThreadsBody where
  threads : List ThreadReport
deriving DecidableEq, Repr, Inhabited

namespace ThreadsBody

def format : RecordFormat ThreadsBody :=
  messageRecord "ThreadsResponseBody" <|
    mk <$> .required "threads" (.list ThreadReport.format.decode)

def toJson (b : ThreadsBody) : Json :=
  .obj [("threads", .arr (b.threads.map (·.toJson)))]

end ThreadsBody

/-- A frame under the handle that the client can ask about it with. -/
structure StackFrame where
  id : Int
  name : String
  source : Option Source
  line : Int64
  column : Int64
deriving DecidableEq, Repr, Inhabited

namespace StackFrame

def format : RecordFormat StackFrame :=
  messageRecord "StackFrame" <|
    mk <$> .required "id" .integer <*> .required "name" .text
      <*> .optional "source" Source.format.decode
      <*> .required "line" .int64 <*> .required "column" .int64

def toJson (f : StackFrame) : Json :=
  .obj ([("column", Json.int64 f.column), ("id", Json.int f.id), ("line", Json.int64 f.line),
    ("name", .str f.name)] ++ Json.optional "source" (f.source.map (·.toJson)))

end StackFrame

structure StackTraceBody where
  frames : List StackFrame
  total : Option Int
deriving DecidableEq, Repr, Inhabited

namespace StackTraceBody

def format : RecordFormat StackTraceBody :=
  messageRecord "StackTraceResponseBody" <|
    mk <$> .required "stackFrames" (.list StackFrame.format.decode)
      <*> .optional "totalFrames" .integer

def toJson (b : StackTraceBody) : Json :=
  .obj (("stackFrames", .arr (b.frames.map (·.toJson))) ::
    Json.optional "totalFrames" (b.total.map Json.int))

end StackTraceBody

structure ScopeReport where
  name : String
  hint : Option String
  reference : Int
  expensive : Bool
deriving DecidableEq, Repr, Inhabited

namespace ScopeReport

def format : RecordFormat ScopeReport :=
  messageRecord "Scope" <|
    mk <$> .required "name" .text <*> .optional "presentationHint" .text
      <*> .required "variablesReference" .integer <*> .required "expensive" .bool

def toJson (s : ScopeReport) : Json :=
  .obj ([("expensive", .bool s.expensive), ("name", .str s.name)] ++
    Json.optionalText "presentationHint" s.hint ++
    [("variablesReference", Json.int s.reference)])

end ScopeReport

structure ScopesBody where
  scopes : List ScopeReport
deriving DecidableEq, Repr, Inhabited

namespace ScopesBody

def format : RecordFormat ScopesBody :=
  messageRecord "ScopesResponseBody" <|
    mk <$> .required "scopes" (.list ScopeReport.format.decode)

def toJson (b : ScopesBody) : Json :=
  .obj [("scopes", .arr (b.scopes.map (·.toJson)))]

end ScopesBody

/-- A variable as the client is told of it; the reference is zero when it has no children. -/
structure VariableReport where
  name : String
  value : String
  typeName : Option String
  reference : Int
deriving DecidableEq, Repr, Inhabited

namespace VariableReport

def format : RecordFormat VariableReport :=
  messageRecord "Variable" <|
    mk <$> .required "name" .text <*> .required "value" .text <*> .optional "type" .text
      <*> .required "variablesReference" .integer

def toJson (v : VariableReport) : Json :=
  .obj (("name", .str v.name) :: Json.optionalText "type" v.typeName ++
    [("value", .str v.value), ("variablesReference", Json.int v.reference)])

end VariableReport

structure VariablesBody where
  reports : List VariableReport
deriving DecidableEq, Repr, Inhabited

namespace VariablesBody

def format : RecordFormat VariablesBody :=
  messageRecord "VariablesResponseBody" <|
    mk <$> .required "variables" (.list VariableReport.format.decode)

def toJson (b : VariablesBody) : Json :=
  .obj [("variables", .arr (b.reports.map (·.toJson)))]

end VariablesBody

structure OutputBody where
  category : String
  output : String
  data : Option Json
deriving Repr, Inhabited

namespace OutputBody

def format : RecordFormat OutputBody :=
  messageRecord "OutputEventBody" <|
    mk <$> .required "category" .text <*> .required "output" .text <*> .optional "data" .json

def toJson (b : OutputBody) : Json :=
  .obj (("category", .str b.category) :: Json.optional "data" b.data ++
    [("output", .str b.output)])

end OutputBody

structure StoppedBody where
  reason : String
  thread : Int64
deriving DecidableEq, Repr, Inhabited

namespace StoppedBody

def format : RecordFormat StoppedBody :=
  messageRecord "StoppedEventBody" <|
    mk <$> .required "reason" .text <*> .required "threadId" .int64

def toJson (b : StoppedBody) : Json :=
  .obj [("reason", .str b.reason), ("threadId", Json.int64 b.thread)]

end StoppedBody

structure ThreadBody where
  reason : String
  thread : Int64
deriving DecidableEq, Repr, Inhabited

namespace ThreadBody

def format : RecordFormat ThreadBody :=
  messageRecord "ThreadEventBody" <|
    mk <$> .required "reason" .text <*> .required "threadId" .int64

def toJson (b : ThreadBody) : Json :=
  .obj [("reason", .str b.reason), ("threadId", Json.int64 b.thread)]

end ThreadBody

/-- A failure that the client may show to its user. -/
structure FailureMessage where
  id : Int64
  format : String
deriving DecidableEq, Repr, Inhabited

namespace FailureMessage

def recordFormat : RecordFormat FailureMessage :=
  messageRecord "Message" <| mk <$> .required "id" .int64 <*> .required "format" .text

def toJson (m : FailureMessage) : Json :=
  .obj [("format", .str m.format), ("id", Json.int64 m.id)]

end FailureMessage

structure ErrorBody where
  error : FailureMessage
deriving DecidableEq, Repr, Inhabited

namespace ErrorBody

def format : RecordFormat ErrorBody :=
  messageRecord "ErrorResponseBody" <|
    mk <$> .required "error" FailureMessage.recordFormat.decode

def toJson (b : ErrorBody) : Json :=
  .obj [("error", b.error.toJson)]

end ErrorBody

end DebugServer
