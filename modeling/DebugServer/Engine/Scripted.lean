import DebugServer.Engine.Basic

/-!
# A scripted engine

An engine that runs nothing. It records what it is asked for and answers by a script, so that a
session can be driven through every case.
-/

namespace DebugServer

inductive EngineCall where
  | step (thread : ThreadId) (reason : StopReason)
  | resume (thread : ThreadId)
  | interrupt (thread : ThreadId) (reason : StopReason)
  | terminate
  | wait
  | setBreakpoints (target : BreakpointTarget) (requests : List BreakpointRequest)
  | threads
deriving DecidableEq, Repr, Inhabited

structure Script where
  programName : String
  threads : List ThreadInfo
  failing : List ThreadId
  /-- What resuming or stepping a thread fails with; this goes before every other answer. -/
  threadErrors : List (ThreadId × EngineError)
  interrupts : Bool
  /-- The results for lines and functions; what is not listed is invalid. -/
  lines : List (Int64 × ResolvedBreakpoint)
  functions : List (String × ResolvedBreakpoint)
  listed : Bool
  /-- How many results are given, whatever is asked for. -/
  resultCount : Option Nat
  createError : Option EngineError
  compileError : Option EngineError
  /-- What creating and compiling fail with before these. -/
  createFault : Option EngineError
  compileFault : Option EngineError
  startError : Option EngineError
  waitError : Option EngineError
  compileCrash : Option Crash
  waitCrash : Option Crash
  /-- Whether the debuggee goes on when it is asked to end. -/
  hangs : Bool
deriving Inhabited

def Script.default : Script where
  programName := "main.go"
  threads := [⟨1, "main"⟩]
  failing := []
  threadErrors := []
  interrupts := true
  lines := []
  functions := []
  listed := false
  resultCount := none
  createError := none
  compileError := none
  createFault := none
  compileFault := none
  startError := none
  waitError := none
  compileCrash := none
  waitCrash := none
  hangs := false

structure ScriptedState where
  script : Script
  calls : Array EngineCall
  compiled : Array ProgramSource
  started : Bool
  /-- Whether the debuggee has ended, and with what result. -/
  finished : Bool
  result : Option Value
  /-- The crash that took the whole process with it. -/
  crash : Option Crash
  memory : Memory
deriving Inhabited

namespace ScriptedState

def new (script : Script) (memory : Memory) : ScriptedState where
  script := script
  calls := #[]
  compiled := #[]
  started := false
  finished := false
  result := none
  crash := none
  memory := memory

def record (s : ScriptedState) (call : EngineCall) : ScriptedState :=
  { s with calls := s.calls.push call }

def finish (s : ScriptedState) (result : Option Value) : ScriptedState :=
  { s with finished := true, result }

def threadAnswer (s : ScriptedState) (thread : ThreadId) : Except EngineError Unit :=
  match s.script.threadErrors.lookup thread with
  | some e => .error e
  | none =>
    if s.script.failing.contains thread then .error (.unknownThread thread)
    else if s.finished then .error .terminated
    else .ok ()

def failIf (fault : Option EngineError) : Except EngineError Unit :=
  match fault with
  | some e => .error e
  | none => .ok ()

def compile (source : ProgramSource) (s : ScriptedState) :
    Except EngineError Program × ScriptedState :=
  let s := { s with compiled := s.compiled.push source, crash := s.script.compileCrash }
  match s.crash, s.script.compileFault <|> s.script.compileError with
  | some c, _ => (.error (.other c.message), s)
  | none, some e => (.error e, s)
  | none, none =>
    let name := match source with
      | .text _ => s.script.programName
      | .path path => path
    (.ok ⟨⟨1⟩, name⟩, s)

def wait (s : ScriptedState) : WaitOutcome × ScriptedState :=
  let s := s.record .wait
  if !s.finished then (.overdue, s)
  else match s.script.waitCrash, s.script.waitError with
    | some c, _ => (.crashed c, s)
    | none, some e => (.failed e, s)
    | none, none => (.finished s.result, s)

/-- A line is found where it is asked for, a function is not found. -/
def foundAsAsked (programName : String) (target : BreakpointTarget) :
    BreakpointRequest → ResolvedBreakpoint
  | .line line column _ =>
    let file := match target with
      | .program _ | .all => programName
      | .path path => path
    .resolved ⟨file, line, column.getD 1⟩
  | .function _ _ => .invalid

def foundAsListed (script : Script) : BreakpointRequest → ResolvedBreakpoint
  | .line line _ _ => (script.lines.lookup line).getD .invalid
  | .function name _ => (script.functions.lookup name).getD .invalid

/-- The result that fills up a list which is to be longer than what was asked for. -/
def extraResult : ResolvedBreakpoint :=
  .resolved ⟨"extra.go", 77, 7⟩

def setBreakpoints (target : BreakpointTarget) (requests : List BreakpointRequest)
    (s : ScriptedState) : List ResolvedBreakpoint × ScriptedState :=
  let s := s.record (.setBreakpoints target requests)
  let found := requests.map <|
    if s.script.listed then foundAsListed s.script
    else foundAsAsked s.script.programName target
  match s.script.resultCount with
  | none => (found, s)
  | some n => (found.take n ++ List.replicate (n - found.length) extraResult, s)

end ScriptedState

def scriptedEngine : Engine ScriptedState where
  create s := (ScriptedState.failIf (s.script.createFault <|> s.script.createError), s)
  compile := ScriptedState.compile
  start _ s :=
    match s.script.startError with
    | some e => (.error e, s)
    | none => (.ok (), { s with started := true })
  startEvents _ _ := []
  step thread reason s :=
    let s := s.record (.step thread reason)
    (s.threadAnswer thread, s)
  resume thread s :=
    let s := s.record (.resume thread)
    (s.threadAnswer thread, s)
  interrupt thread reason s := (s.script.interrupts, s.record (.interrupt thread reason))
  terminate s := { s.record .terminate with finished := s.finished || !s.script.hangs }
  wait := ScriptedState.wait
  setBreakpoints := ScriptedState.setBreakpoints
  threads s := (s.script.threads, s.record .threads)
  memory s := s.memory

end DebugServer
