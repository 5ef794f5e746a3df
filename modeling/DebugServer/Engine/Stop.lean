import DebugServer.Value.Basic

/-!
# Stops

What the engine reports while the debuggee runs: threads come and go, a thread stops with a frozen
stack, the program ends. Lines and columns count from one.
-/

namespace DebugServer

abbrev ThreadId := Int64

/-- The thread that a program starts with. -/
def mainThread : ThreadId := 1

structure ProgramId where
  index : Nat
deriving DecidableEq, Repr, Inhabited

structure Position where
  file : String
  line : Int64
  column : Int64
deriving DecidableEq, Repr, Inhabited

/-- The variables of one frame that are listed together: its locals, or what it captured. -/
structure FrameScope where
  closure : Bool
  bindings : List NamedValue
deriving Inhabited

/-- A call on a stack; a frame without source information has no position. -/
structure Frame where
  name : String
  position : Option Position
  program : Option ProgramId
  scopes : List FrameScope
deriving Inhabited

/-- The frozen stack of a stopped thread, innermost frame first. Each of the next `overtaken`
reads coincides with a stop of another thread, which invalidates every handle. -/
structure FrameStack where
  frames : List Frame
  overtaken : Nat
deriving Inhabited

namespace FrameStack

def depth (s : FrameStack) : Nat :=
  s.frames.length

/-- The frames from position `start` up to but excluding `stop`, as far as there are any. -/
def window (s : FrameStack) (start stop : Nat) : List Frame :=
  (s.frames.take stop).drop start

end FrameStack

inductive StopReason where
  | breakpoint
  | stepInto
  | stepOver
  | stepOut
  | entry
  | pause
deriving DecidableEq, Repr, Inhabited

namespace StopReason

/-- The reason as clients know it, to whom all steps are the same. -/
def clientName : StopReason → String
  | .breakpoint => "breakpoint"
  | .stepInto | .stepOver | .stepOut => "step"
  | .entry => "entry"
  | .pause => "pause"

def inspect : StopReason → String
  | .breakpoint => "Breakpoint"
  | .stepInto => "StepInto"
  | .stepOver => "StepOver"
  | .stepOut => "StepOut"
  | .entry => "Entry"
  | .pause => "Pause"

end StopReason

structure StopEvent where
  reason : StopReason
  thread : ThreadId
  stack : FrameStack
deriving Inhabited

/-- A stop as diagnostics show it: of the stack only the depth. -/
def StopEvent.inspect (e : StopEvent) : String :=
  "StopEvent \x7b reason: " ++ e.reason.inspect ++ ", thread_id: " ++ toString e.thread.toInt ++
    ", depth: " ++ toString e.stack.depth ++ " \x7d"

inductive EngineEvent where
  | threadStarted (thread : ThreadId)
  | threadExited (thread : ThreadId)
  | stopped (stop : StopEvent)
  | terminated
deriving Inhabited

def EngineEvent.inspect : EngineEvent → String
  | .threadStarted thread => "ThreadStarted(" ++ toString thread.toInt ++ ")"
  | .threadExited thread => "ThreadExited(" ++ toString thread.toInt ++ ")"
  | .stopped stop => "Stopped(" ++ stop.inspect ++ ")"
  | .terminated => "Terminated"

end DebugServer
