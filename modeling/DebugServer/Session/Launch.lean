import DebugServer.Session.Basic

/-!
# Launching

A launch creates an interpreter, compiles the program and starts it. The first of these that fails
ends the session.
-/

namespace DebugServer.Session

variable {σ : Type}

/-- Ends the session because of a failed launch, which is also shown on the client's console. -/
def failLaunch (s : Session σ) (refusal : Refusal) : Except TransportError Reply × Session σ :=
  let s := s.log (Log.session .error "launch failed" [("error", .text refusal.consoleText)])
  let s := { s with reached := .terminated }
  let (sent, s) := s.send (SessionEvent.output .stderr (refusal.consoleText ++ "\n")).letter
  (sent.map fun () => ⟨.error refusal, .stop⟩, s)

/-- Starts a compiled program and tells the client that it can be configured. Events are handled
from before the start on, so some may have been handled when it fails. -/
def start (engine : Engine σ) (s : Session σ) (program : Program) :
    Except TransportError Reply × Session σ :=
  let s := s.log (Log.session .info "compiled program" [("program", .text program.name)])
  let events := engine.startEvents program s.engine
  let (started, state) := engine.start program s.engine
  let s := { s with live := (s.live.run events).1, engine := state }
  match started with
  | .error e => s.failLaunch (.startFailed e)
  | .ok () =>
    let delivery := if events.any (·.isLast) then .stopped else .running
    let s := { s with program := some program, delivery, reached := .configuring }
    let (sent, s) := s.send SessionEvent.initialized.letter
    (sent.map fun () => .done, s)

def compile (engine : Engine σ) (s : Session σ) (source : ProgramSource) :
    Except TransportError Reply × Session σ :=
  let (created, state) := engine.create s.engine
  let s := { s with engine := state }
  match created with
  | .error e => s.failLaunch (.createFailed e)
  | .ok () =>
    let s := { s with connected := true }
    let (compiled, state) := engine.compile source s.engine
    let s := { s with engine := state }
    match compiled with
    | .error e => s.failLaunch (.compileFailed e)
    | .ok program => s.start engine program

def launchSource? (s : Session σ) (a : LaunchArguments) : Option ProgramSource :=
  match a.program with
  | some path => some (.path path)
  | none => s.settings.source

def launch (engine : Engine σ) (s : Session σ) (a : LaunchArguments) :
    Except TransportError Reply × Session σ :=
  match s.launchSource? a with
  | none => (.ok (.refuse .noProgram), s)
  | some source =>
    { s with stopAtEntry := a.stopOnEntry.getD s.stopAtEntry }.compile engine source

end DebugServer.Session
