import DebugServer.Engine.Basic
import DebugServer.Protocol.Body
import DebugServer.Protocol.Message
import DebugServer.Protocol.Request

/-!
# Replies

What a request leads to: a body, or a refusal with its cause. The wording of every refusal is in
one place.
-/

namespace DebugServer

inductive Phase where
  | uninitialized
  | configuring
  | running
  | terminated
deriving DecidableEq, Repr, Inhabited

inductive Flow where
  | proceed
  | stop
deriving DecidableEq, Repr, Inhabited

inductive Refusal where
  | unknownCommand (name : String)
  | notLaunched
  | alreadyLaunched
  | sessionTerminated
  | arguments (error : DecodeError)
  | noProgram
  | missingSource
  | configurationDone
  | invalidThread
  | invalidFrame
  | invalidReference
  | createFailed (error : EngineError)
  | compileFailed (error : EngineError)
  | startFailed (error : EngineError)
  | entryFailed (error : EngineError)
  | continueFailed (thread : ThreadId) (error : EngineError)
  | stepFailed (thread : ThreadId) (error : EngineError)
  | pauseFailed (thread : ThreadId)
deriving DecidableEq, Repr

namespace Refusal

def threadText (thread : ThreadId) : String :=
  "thread " ++ toString thread.toInt

def message : Refusal → String
  | .unknownCommand name => "Unknown command " ++ Text.quoted name
  | .notLaunched => "No program is being debugged"
  | .alreadyLaunched => "Already launched"
  | .sessionTerminated => "Debug session has terminated"
  | .arguments e => "Invalid arguments: " ++ e.redactedMessage
  | .noProgram => "No program to debug"
  | .missingSource => "Missing source"
  | .configurationDone => "Configuration already done"
  | .invalidThread => "Invalid thread ID"
  | .invalidFrame => "Invalid frame ID"
  | .invalidReference => "Invalid variable reference"
  | .createFailed e => "Failed to create interpreter: " ++ e.message
  | .compileFailed e => "Failed to compile: " ++ e.message
  | .startFailed e => "Failed to start debugging: " ++ e.message
  | .entryFailed e => threadText mainThread ++ ": failed to start: " ++ e.message
  | .continueFailed thread e => threadText thread ++ ": failed to continue: " ++ e.message
  | .stepFailed thread e => threadText thread ++ ": failed to step: " ++ e.message
  | .pauseFailed thread => threadText thread ++ ": failed to pause"

/-- What a failed launch shows on the client's console: of a compiler error only its own text. -/
def consoleText : Refusal → String
  | .compileFailed e => e.message
  | r => r.message

end Refusal

inductive ReplyBody where
  | capabilities (body : Capabilities)
  | breakpoints (body : BreakpointsBody)
  | continued (body : ContinueBody)
  | threads (body : ThreadsBody)
  | stackTrace (body : StackTraceBody)
  | scopes (body : ScopesBody)
  | variableList (body : VariablesBody)
  | error (body : ErrorBody)
deriving DecidableEq, Repr

def ReplyBody.toJson : ReplyBody → Json
  | .capabilities b => b.toJson
  | .breakpoints b => b.toJson
  | .continued b => b.toJson
  | .threads b => b.toJson
  | .stackTrace b => b.toJson
  | .scopes b => b.toJson
  | .variableList b => b.toJson
  | .error b => b.toJson

/-- A compiler error is also given in a form that the client can show to its user. -/
def Refusal.body? : Refusal → Option ReplyBody
  | .compileFailed e => some (.error ⟨⟨1, e.message⟩⟩)
  | _ => none

structure Reply where
  result : Except Refusal (Option ReplyBody)
  flow : Flow

namespace Reply

def done : Reply :=
  ⟨.ok none, .proceed⟩

def body (b : ReplyBody) : Reply :=
  ⟨.ok (some b), .proceed⟩

def refuse (r : Refusal) : Reply :=
  ⟨.error r, .proceed⟩

def succeeded (r : Reply) : Bool :=
  r.result.isOk

def message (r : Reply) : String :=
  match r.result with
  | .ok _ => "Success"
  | .error refusal => refusal.message

def body? (r : Reply) : Option ReplyBody :=
  match r.result with
  | .ok b => b
  | .error refusal => refusal.body?

def letter (r : Reply) (request : Request) : Letter :=
  .response request.seq request.command r.succeeded (some r.message) (r.body?.map (·.toJson))

end Reply

end DebugServer
