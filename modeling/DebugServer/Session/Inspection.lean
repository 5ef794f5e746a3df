import DebugServer.Session.Basic

/-!
# Inspecting a stopped thread

Frames of a retained stop, the scopes of a frame, the variables of a scope. Handles are issued in
the epoch in which the data was read, so that none survives a stop.
-/

namespace DebugServer.Session

variable {σ : Type}

/-- The positions of the frames asked for: from the start frame on, as many as there are levels,
or all when none are asked for. -/
def frameWindow (a : StackTraceArguments) (depth : Nat) : Nat × Nat :=
  let first := (a.startFrame.getD 0).toInt.toNat
  let levels := (a.levels.getD 0).toInt.toNat
  (first, if 0 < levels then first + levels else depth)

def issueFrames (t : Translator) (program : Program) (epoch : Epoch) :
    List Frame → Tables → Option (List StackFrame) × Tables
  | [], tables => (some [], tables)
  | frame :: rest, tables =>
    match tables.frames.addIn epoch frame with
    | none => (none, tables)
    | some (id, frames) =>
      let (issued, tables) := issueFrames t program epoch rest { tables with frames }
      (issued.map (t.stackFrame id frame program :: ·), tables)

/-- Reads the stack until the read is not overtaken by another thread's stop, at most `attempts`
times. -/
def readStack (t : Translator) (program : Program) (a : StackTraceArguments) :
    (attempts : Nat) → Tables → Option StackTraceBody × Tables
  | 0, tables => (none, tables)
  | attempts + 1, tables =>
    match tables.retained? a.thread with
    | none => (none, tables)
    | some (stop, epoch) =>
      let (first, last) := frameWindow a stop.stack.depth
      let (frames, tables) := tables.readFrames stop first last
      match issueFrames t program epoch frames tables with
      | (some issued, tables) => (some ⟨issued, some stop.stack.depth⟩, tables)
      | (none, tables) => readStack t program a attempts tables

def readAttempts : Nat := 4

def stackTrace (s : Session σ) (a : StackTraceArguments) : Reply × Session σ :=
  match s.program with
  | none => (.refuse .notLaunched, s)
  | some program =>
    let (read, tables) := readStack s.translator program a readAttempts s.live.tables
    (match read with
      | some body => .body (.stackTrace body)
      | none => .refuse .invalidThread,
     s.withTables tables)

def issueScopes (epoch : Epoch) :
    List FrameScope → VariableTable → Option (List ScopeReport) × VariableTable
  | [], table => (some [], table)
  | scope :: rest, table =>
    match table.addIn epoch (.frame scope) with
    | none => (none, table)
    | some (reference, table) =>
      let (issued, table) := issueScopes epoch rest table
      let name := if scope.closure then "Closure" else "Locals"
      (issued.map (⟨name, some "locals", reference, false⟩ :: ·), table)

def scopes (s : Session σ) (a : ScopesArguments) : Reply × Session σ :=
  let tables := s.live.tables
  match tables.frames.get? a.frame.toInt with
  | none => (.refuse .invalidFrame, s)
  | some frame =>
    let (issued, values) := issueScopes tables.values.epoch frame.scopes tables.values
    (match issued with
      | some scopes => .body (.scopes ⟨scopes⟩)
      | none => .refuse .invalidFrame,
     s.withTables { tables with values })

def report (v : Variable) : VariableReport :=
  ⟨v.name, v.value, some v.typeName, v.reference⟩

def listVariables (engine : Engine σ) (s : Session σ) (a : VariablesArguments) :
    Reply × Session σ :=
  let tables := s.live.tables
  match tables.values.expand (engine.memory s.engine) a.reference.toInt with
  | none => (.refuse .invalidReference, s)
  | some (shown, values) =>
    (.body (.variableList ⟨shown.map report⟩), s.withTables { tables with values })

end DebugServer.Session
