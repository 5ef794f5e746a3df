import DebugServer.Session.Command
import DebugServer.Session.Control
import DebugServer.Session.Inspection
import DebugServer.Session.Launch

/-!
# Dispatching requests

Every request gets one response. Only a response or event that cannot be sent is an error; all
that the client or the engine got wrong is answered by a refusal.
-/

namespace DebugServer.Session

variable {σ : Type}

def withArguments (s : Session σ) (request : Request) (format : RecordFormat α)
    (action : α → Reply × Session σ) : Reply × Session σ :=
  match request.decodeArguments format with
  | .error e => (.refuse (.arguments e), s)
  | .ok a => action a

def answered (outcome : Reply × Session σ) : Except TransportError Reply × Session σ :=
  (.ok outcome.1, outcome.2)

def performLaunch (engine : Engine σ) (s : Session σ) (request : Request) :
    Except TransportError Reply × Session σ :=
  match request.decodeArguments LaunchArguments.format with
  | .error e => (.ok (.refuse (.arguments e)), s)
  | .ok a => s.launch engine a

def perform (engine : Engine σ) (s : Session σ) (request : Request) :
    Command → Except TransportError Reply × Session σ
  | .launch | .attach => s.performLaunch engine request
  | .setBreakpoints => answered <|
    s.withArguments request SetBreakpointsArguments.format (s.setBreakpoints engine)
  | .setFunctionBreakpoints => answered <|
    s.withArguments request SetFunctionBreakpointsArguments.format
      (s.setFunctionBreakpoints engine)
  | .configurationDone => answered (s.finishConfiguration engine)
  | .resume => answered (s.withArguments request ThreadArguments.format (s.resume engine))
  | .stepIn => answered (s.withArguments request ThreadArguments.format (s.step engine .stepInto))
  | .next => answered (s.withArguments request ThreadArguments.format (s.step engine .stepOver))
  | .stepOut => answered (s.withArguments request ThreadArguments.format (s.step engine .stepOut))
  | .pause => answered (s.withArguments request ThreadArguments.format (s.pause engine))
  | .threads => answered (s.threads engine)
  | .stackTrace => answered (s.withArguments request StackTraceArguments.format s.stackTrace)
  | .scopes => answered (s.withArguments request ScopesArguments.format s.scopes)
  | .listVariables => answered <|
    s.withArguments request VariablesArguments.format (s.listVariables engine)
  | .terminate => answered (.done, s.terminate engine)
  | .disconnect => answered (⟨.ok none, .stop⟩, s.terminate engine)

def dispatch (engine : Engine σ) (s : Session σ) (request : Request) :
    Except TransportError Reply × Session σ :=
  match Command.ofName? request.command with
  | none =>
    (.ok (.refuse (.unknownCommand request.command)),
     s.log (Log.session .warn "unknown command" [("command", .text request.command)]))
  | some command =>
    match command.refusal? s.phase with
    | some refusal => (.ok (.refuse refusal), s)
    | none => s.perform engine request command

/-- Notes a request in the journal and finds the reply to it. -/
def replyTo (engine : Engine σ) (s : Session σ) (request : Request) :
    Except TransportError Reply × Session σ :=
  (s.log (Log.session .debug "request"
    [("command", .text request.command), ("seq", .number request.seq.toInt)])).dispatch engine
      request

/-- Answers a request and says whether to go on. -/
def process (engine : Engine σ) (s : Session σ) (request : Request) :
    Except TransportError Flow × Session σ :=
  match s.replyTo engine request with
  | (.error e, s) => (.error e, s)
  | (.ok reply, s) =>
    let (sent, s) := s.send (reply.letter request)
    (sent.map fun () => reply.flow, s)

def capabilities : Capabilities :=
  ⟨true, true, true, true⟩

def configure (s : Session σ) (a : InitializeArguments) : Capabilities × Session σ :=
  let s := s.log (Log.session .debug "initialize"
    [("client", .text (a.clientId.getD "<unknown>"))])
  (capabilities, { s with translator := ⟨a.numbering, s.settings.programAlias⟩ })

end DebugServer.Session
