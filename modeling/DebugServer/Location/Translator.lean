import DebugServer.Engine.Basic
import DebugServer.Location.FileName
import DebugServer.Location.Numbering
import DebugServer.Protocol.Body

/-!
# Locations between client and engine

Lines and columns are converted between the client's numbering and the engine's. The compiled
program may have an alias, a path that stands for it towards the client: a breakpoint at exactly
this path is one in the program, and frames of the program are shown there.
-/

namespace DebugServer

structure Translator where
  numbering : Numbering
  programAlias : Option String
deriving DecidableEq, Repr, Inhabited

/-- The numbering that a client asks for; it counts from one unless it says otherwise. -/
def InitializeArguments.numbering (a : InitializeArguments) : Numbering :=
  ⟨a.linesFromOne.getD true, a.columnsFromOne.getD true⟩

namespace Translator

def target (t : Translator) (path : String) (program : Program) : BreakpointTarget :=
  if t.programAlias = some path then .program program.id else .path path

/-- The requests for the engine, of which `lines` are used when `breakpoints` is absent. -/
def lineRequests (t : Translator) (a : SetBreakpointsArguments) : List BreakpointRequest :=
  match a.breakpoints with
  | some breakpoints =>
    breakpoints.map fun b =>
      .line (t.numbering.lineToEngine b.line) (b.column.map t.numbering.columnToEngine) b.condition
  | none => (a.lines.getD []).map fun line => .line (t.numbering.lineToEngine line) none none

def functionRequests (breakpoints : List FunctionBreakpoint) : List BreakpointRequest :=
  breakpoints.map fun b => .function b.name b.condition

/-- What the client is told of a resolved breakpoint: only one that is valid and has a position
is verified. -/
def report (t : Translator) (b : ResolvedBreakpoint) : BreakpointReport :=
  match b.position, b.valid with
  | some position, true =>
    ⟨true, some (t.numbering.lineToClient position.line),
      some (t.numbering.columnToClient position.column)⟩
  | _, _ => ⟨false, none, none⟩

def reports (t : Translator) (results : List ResolvedBreakpoint) : List BreakpointReport :=
  results.map t.report

def sourceAt (path : String) : Source :=
  ⟨some (displayName path), some path⟩

/-- Where a frame is shown: the frames of the program at its alias, if it has one. -/
def frameSource (t : Translator) (frame : Frame) (program : Program) : Option Source :=
  match if frame.program = some program.id then t.programAlias else none with
  | some path => some (sourceAt path)
  | none => frame.position.map fun position => sourceAt position.file

/-- A frame under its handle; without a position it has no source and is at line and column 0. -/
def stackFrame (t : Translator) (id : Int) (frame : Frame) (program : Program) : StackFrame :=
  match frame.position with
  | some position =>
    ⟨id, frame.name, t.frameSource frame program, t.numbering.lineToClient position.line,
      t.numbering.columnToClient position.column⟩
  | none => ⟨id, frame.name, none, 0, 0⟩

end Translator

end DebugServer
