import DebugServer.Session.Reply

/-!
# Commands

The commands of a session and the phases in which they are allowed.
-/

namespace DebugServer

inductive Command where
  | launch
  | attach
  | setBreakpoints
  | setFunctionBreakpoints
  | configurationDone
  | resume
  | stepIn
  | next
  | stepOut
  | pause
  | threads
  | stackTrace
  | scopes
  | listVariables
  | terminate
  | disconnect
deriving DecidableEq, Repr

namespace Command

def all : List Command :=
  [.launch, .attach, .setBreakpoints, .setFunctionBreakpoints, .configurationDone, .resume,
   .stepIn, .next, .stepOut, .pause, .threads, .stackTrace, .scopes, .listVariables, .terminate,
   .disconnect]

def name : Command → String
  | .launch => "launch"
  | .attach => "attach"
  | .setBreakpoints => "setBreakpoints"
  | .setFunctionBreakpoints => "setFunctionBreakpoints"
  | .configurationDone => "configurationDone"
  | .resume => "continue"
  | .stepIn => "stepIn"
  | .next => "next"
  | .stepOut => "stepOut"
  | .pause => "pause"
  | .threads => "threads"
  | .stackTrace => "stackTrace"
  | .scopes => "scopes"
  | .listVariables => "variables"
  | .terminate => "terminate"
  | .disconnect => "disconnect"

def ofName? (name : String) : Option Command :=
  all.find? (·.name = name)

/-- Why a command is not allowed in a phase. A session can always be ended; it is launched once,
before all other commands. -/
def refusal? (phase : Phase) : Command → Option Refusal
  | .terminate | .disconnect => none
  | .launch | .attach =>
    match phase with
    | .uninitialized => none
    | .terminated => some .sessionTerminated
    | _ => some .alreadyLaunched
  | _ =>
    match phase with
    | .uninitialized => some .notLaunched
    | .terminated => some .sessionTerminated
    | _ => none

end Command

end DebugServer
