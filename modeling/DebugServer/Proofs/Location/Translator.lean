import Mathlib.Data.List.Forall2
import DebugServer.Location.Translator
import DebugServer.Proofs.Location.Numbering

/-!
# Breakpoints and frames in the client's terms

What the engine is asked for a breakpoint, what the client is told of one, and the path that a frame
is shown at. The numbers are those of the other side, shifted; the path leads back to where the
frame is.
-/

namespace DebugServer

/-- The breakpoints that a client wants; `lines` count only where `breakpoints` is absent. -/
def SetBreakpointsArguments.wanted (a : SetBreakpointsArguments) : List SourceBreakpoint :=
  match a.breakpoints with
  | some breakpoints => breakpoints
  | none => (a.lines.getD []).map fun line => ⟨line, none, none⟩

namespace Numbering

/-- The request to the engine for a breakpoint that a client wants. -/
inductive Asks (b : Numbering) (wanted : SourceBreakpoint) : BreakpointRequest → Prop where
  | line {line : Int64} {column : Option Int64}
      (line_eq : line.toInt = min Int64.maxValue.toInt (wanted.line.toInt + shift b.linesFromOne))
      (column_eq : column.map Int64.toInt = wanted.column.map fun c =>
        min Int64.maxValue.toInt (c.toInt + shift b.columnsFromOne)) :
      Asks b wanted (.line line column wanted.condition)

/-- What a client is told of a breakpoint, by the engine's result for it, if there is one. -/
inductive Tells (b : Numbering) : Option ResolvedBreakpoint → BreakpointReport → Prop where
  | verified {position : Position} {line column : Int64}
      (line_eq : line.toInt =
        max Int64.minValue.toInt (position.line.toInt - shift b.linesFromOne))
      (column_eq : column.toInt =
        max Int64.minValue.toInt (position.column.toInt - shift b.columnsFromOne)) :
      Tells b (some (.resolved position)) ⟨true, some line, some column⟩
  | unverified {result : Option ResolvedBreakpoint}
      (unresolved : ∀ position, result ≠ some (.resolved position)) :
      Tells b result ⟨false, none, none⟩

end Numbering

namespace Translator

variable (t : Translator)

theorem lineRequests_eq (a : SetBreakpointsArguments) :
    t.lineRequests a = a.wanted.map fun b =>
      .line (t.numbering.lineToEngine b.line) (b.column.map t.numbering.columnToEngine)
        b.condition := by
  unfold lineRequests SetBreakpointsArguments.wanted
  cases a.breakpoints with
  | none => simp
  | some breakpoints => rfl

theorem asks_lineRequests (a : SetBreakpointsArguments) :
    List.Forall₂ t.numbering.Asks a.wanted (t.lineRequests a) := by
  rw [lineRequests_eq, List.forall₂_map_right_iff]
  apply List.forall₂_same.mpr
  intro b _
  apply Numbering.Asks.line
  · exact Numbering.toInt_toEngine _ _
  · rw [Option.map_map]
    congr 1
    funext c
    exact Numbering.toInt_toEngine _ _

theorem tells_report (result : Option ResolvedBreakpoint) :
    t.numbering.Tells result (t.report (result.getD .invalid)) := by
  rcases result with _ | ⟨valid, position⟩
  · exact .unverified nofun
  · cases position with
    | none => exact .unverified nofun
    | some position =>
      cases valid with
      | false => exact .unverified nofun
      | true => exact .verified (Numbering.toInt_toClient _ _) (Numbering.toInt_toClient _ _)

/-- A result at the requested line and column is told under the client's own numbers. -/
theorem report_of_requested {b : SourceBreakpoint} {position : Position}
    (hline : position.line = t.numbering.lineToEngine b.line) :
    (t.report (.resolved position)).line =
        some (Numbering.returned t.numbering.linesFromOne b.line) ∧
      (b.column.map t.numbering.columnToEngine = some position.column →
        (t.report (.resolved position)).column =
          b.column.map (Numbering.returned t.numbering.columnsFromOne)) := by
  constructor
  · change some (t.numbering.lineToClient position.line) = _
    rw [hline]
    exact congrArg some (Numbering.toClient_toEngine _ _)
  · intro hcolumn
    obtain ⟨c, hc, hposition⟩ := Option.map_eq_some_iff.mp hcolumn
    change some (t.numbering.columnToClient position.column) = _
    rw [hc, ← hposition]
    exact congrArg some (Numbering.toClient_toEngine _ _)

/-! ### Frames -/

variable {frame : Frame} {program : Program} {position : Position}

/-- The path that a frame at this position is shown at. -/
def shownPath (t : Translator) (frame : Frame) (program : Program) (position : Position) : String :=
  if frame.program = some program.id then t.programAlias.getD position.file else position.file

theorem stackFrame_of_position (h : frame.position = some position) (id : Int) :
    t.stackFrame id frame program =
      ⟨id, frame.name, some (sourceAt (t.shownPath frame program position)),
        t.numbering.lineToClient position.line, t.numbering.columnToClient position.column⟩ := by
  have hsource : t.frameSource frame program =
      some (sourceAt (t.shownPath frame program position)) := by
    unfold frameSource shownPath
    by_cases hown : frame.program = some program.id
    · cases t.programAlias <;> simp [hown, h]
    · simp [hown, h]
  simp only [stackFrame, h, hsource]

theorem target_shownPath_of_program
    (h : t.programAlias.isSome ∧ frame.program = some program.id ∨
      t.programAlias = some position.file) :
    t.target (t.shownPath frame program position) program = .program program.id := by
  have hpath : t.programAlias = some (t.shownPath frame program position) := by
    unfold shownPath
    rcases h with ⟨hsome, hown⟩ | hfile
    · obtain ⟨path, hpath⟩ := Option.isSome_iff_exists.mp hsome
      simp [hown, hpath]
    · simp [hfile]
  rw [target, if_pos hpath]

theorem shownPath_of_file
    (h : ¬ (t.programAlias.isSome ∧ frame.program = some program.id ∨
      t.programAlias = some position.file)) :
    t.shownPath frame program position = position.file := by
  unfold shownPath
  by_cases hown : frame.program = some program.id
  · cases hpath : t.programAlias with
    | none => simp
    | some path => exact absurd (.inl ⟨by rw [hpath]; rfl, hown⟩) h
  · exact if_neg hown

end Translator

end DebugServer
