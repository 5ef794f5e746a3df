import DebugServer.Engine.Stop

/-!
# Engines

A session does not run the debuggee itself. It drives an engine, which compiles a program and
controls its threads. An engine is given by what each call answers and how it changes the engine's
own state, of which nothing else is known.
-/

namespace DebugServer

inductive ProgramSource where
  | text (source : String)
  | path (path : String)
deriving DecidableEq, Repr, Inhabited

structure Program where
  id : ProgramId
  name : String
deriving DecidableEq, Repr, Inhabited

structure ThreadInfo where
  id : ThreadId
  name : String
deriving DecidableEq, Repr, Inhabited

inductive EngineError where
  | compile (message : String)
  | unknownThread (thread : ThreadId)
  | notRunning
  | terminated
  | other (message : String)
deriving DecidableEq, Repr, Inhabited

def EngineError.message : EngineError → String
  | .compile message => message
  | .unknownThread thread => "unknown thread " ++ toString thread.toInt
  | .notRunning => "thread is not running"
  | .terminated => "program has terminated"
  | .other message => message

inductive BreakpointTarget where
  | program (id : ProgramId)
  | path (path : String)
  /-- Every program of the engine. -/
  | all
deriving DecidableEq, Repr, Inhabited

inductive BreakpointRequest where
  | line (line : Int64) (column : Option Int64) (condition : Option String)
  | function (name : String) (condition : Option String)
deriving DecidableEq, Repr, Inhabited

structure ResolvedBreakpoint where
  valid : Bool
  position : Option Position
deriving DecidableEq, Repr, Inhabited

namespace ResolvedBreakpoint

def invalid : ResolvedBreakpoint :=
  ⟨false, none⟩

def resolved (position : Position) : ResolvedBreakpoint :=
  ⟨true, some position⟩

end ResolvedBreakpoint

structure Crash where
  payload : Option String
deriving DecidableEq, Repr, Inhabited

def Crash.message (c : Crash) : String :=
  c.payload.getD "panic payload (non-string)"

inductive WaitOutcome where
  | finished (result : Option Value)
  | failed (error : EngineError)
  | crashed (crash : Crash)
  | overdue
deriving Inhabited

structure Engine (σ : Type) where
  /-- Prepares an interpreter that is wired to the session's streams. -/
  create : σ → Except EngineError Unit × σ
  compile : ProgramSource → σ → Except EngineError Program × σ
  /-- Starts a program, halted before its first statement. -/
  start : Program → σ → Except EngineError Unit × σ
  /-- The events that are heard of while a program is being started, whatever comes of that. -/
  startEvents : Program → σ → List EngineEvent
  step : ThreadId → StopReason → σ → Except EngineError Unit × σ
  resume : ThreadId → σ → Except EngineError Unit × σ
  /-- Asks a running thread to stop; says whether it will. -/
  interrupt : ThreadId → StopReason → σ → Bool × σ
  /-- Asks the debuggee to end, which may take time. -/
  terminate : σ → σ
  /-- Waits until the debuggee has ended, up to a time limit. -/
  wait : σ → WaitOutcome × σ
  setBreakpoints : BreakpointTarget → List BreakpointRequest → σ → List ResolvedBreakpoint × σ
  threads : σ → List ThreadInfo × σ
  memory : σ → Memory

end DebugServer
