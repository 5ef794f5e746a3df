import DebugServer.Engine.Scripted
import DebugServer.Proofs.Session.EventRuns

/-!
# Effects of commands

What each command can change. Apart from the launch and the end of the configuration, a command
leaves the course of the session alone: only tables, journal and engine can differ afterwards. The
calls on the engine are named, so that what is said here of a session also holds of its calls.
-/

namespace DebugServer

namespace Engine

variable {σ : Type}

/-- The state of the engine after a call while debugging. -/
def effect (engine : Engine σ) (state : σ) : EngineCall → σ
  | .step thread reason => (engine.step thread reason state).2
  | .resume thread => (engine.resume thread state).2
  | .interrupt thread reason => (engine.interrupt thread reason state).2
  | .terminate => engine.terminate state
  | .wait => (engine.wait state).2
  | .setBreakpoints target requests => (engine.setBreakpoints target requests state).2
  | .threads => (engine.threads state).2

def effects (engine : Engine σ) (state : σ) (calls : List EngineCall) : σ :=
  calls.foldl engine.effect state

/-- Prepares, compiles and starts a program, up to the first of these that fails. -/
def launch (engine : Engine σ) (source : ProgramSource) (state : σ) : Except Refusal Program × σ :=
  match engine.create state with
  | (.error e, state) => (.error (.createFailed e), state)
  | (.ok (), state) =>
    match engine.compile source state with
    | (.error e, state) => (.error (.compileFailed e), state)
    | (.ok program, state) =>
      match engine.start program state with
      | (.error e, state) => (.error (.startFailed e), state)
      | (.ok (), state) => (.ok program, state)

/-- The events that are handled while a program is launched: those of its start, if it comes to
that. -/
def launchEvents (engine : Engine σ) (source : ProgramSource) (state : σ) : List EngineEvent :=
  match engine.create state with
  | (.error _, _) => []
  | (.ok (), state) =>
    match engine.compile source state with
    | (.error _, _) => []
    | (.ok program, state) => EngineEvent.untilEnd (engine.startEvents program state)

theorem stops_launchEvents {engine : Engine σ} {source : ProgramSource} {state : σ}
    (h : (engine.launchEvents source state).any (·.isLast) = true) (t : Tables) :
    ((engine.launchEvents source state).foldl Tables.after t).stops = .empty := by
  unfold launchEvents at h ⊢
  split at h
  · cases h
  split at h
  · cases h
  · rw [EngineEvent.any_isLast_untilEnd] at h
    exact Tables.stops_untilEnd h t

end Engine

namespace Session

variable {σ : Type} {engine : Engine σ} {s s' : Session σ}

/-- The session goes on with other tables and journal, after some calls on the engine. -/
def Continues (engine : Engine σ) (s : Session σ) (calls : List EngineCall) (s' : Session σ) :
    Prop :=
  ∃ tables journal, s' =
    { s with live := { s.live with tables, journal }, engine := engine.effects s.engine calls }

theorem Continues.refl (engine : Engine σ) (s : Session σ) : Continues engine s [] s :=
  ⟨_, _, rfl⟩

theorem log_continues (engine : Engine σ) (s : Session σ) (record : Log.Record) :
    Continues engine s [] (s.log record) :=
  ⟨_, _, rfl⟩

theorem withTables_continues (engine : Engine σ) (s : Session σ) (tables : Tables) :
    Continues engine s [] (s.withTables tables) :=
  ⟨_, _, rfl⟩

theorem Continues.after_log {record : Log.Record} {calls : List EngineCall}
    (h : Continues engine (s.log record) calls s') : Continues engine s calls s' := by
  obtain ⟨tables, journal, rfl⟩ := h
  exact ⟨tables, journal, rfl⟩

/-- A reply after which requests are still read, with calls only while a program is being
debugged. -/
def Controls (engine : Engine σ) (s : Session σ) (outcome : Reply × Session σ) : Prop :=
  outcome.1.flow = .proceed ∧
    ∃ calls, Continues engine s calls outcome.2 ∧ (s.program = none → calls = [])

theorem refuse_controls (engine : Engine σ) (s : Session σ) (refusal : Refusal) :
    Controls engine s (.refuse refusal, s) :=
  ⟨rfl, [], .refl engine s, fun _ => rfl⟩

theorem withArguments_controls {α : Type} {request : Request} {format : RecordFormat α}
    {action : α → Reply × Session σ} (h : ∀ a, Controls engine s (action a)) :
    Controls engine s (s.withArguments request format action) := by
  unfold withArguments
  split
  · exact refuse_controls engine s _
  · exact h _

theorem resume_controls (a : ThreadArguments) : Controls engine s (s.resume engine a) := by
  unfold resume
  split
  · exact refuse_controls engine s _
  · refine ⟨?_, [.resume a.thread], ⟨_, _, rfl⟩, by simp_all⟩
    dsimp only
    split <;> rfl

theorem step_controls (reason : StopReason) (a : ThreadArguments) :
    Controls engine s (s.step engine reason a) := by
  unfold step
  split
  · exact refuse_controls engine s _
  · refine ⟨?_, [.step a.thread reason], ⟨_, _, rfl⟩, by simp_all⟩
    dsimp only
    split <;> rfl

theorem pause_controls (a : ThreadArguments) : Controls engine s (s.pause engine a) := by
  unfold pause
  split
  · exact refuse_controls engine s _
  · refine ⟨?_, [.interrupt a.thread .pause], ⟨_, _, rfl⟩, by simp_all⟩
    dsimp only
    split <;> rfl

theorem threads_controls : Controls engine s (s.threads engine) := by
  unfold threads
  split
  · exact refuse_controls engine s _
  · exact ⟨rfl, [.threads], ⟨_, _, rfl⟩, by simp_all⟩

theorem resolve_controls (target : BreakpointTarget) (requests : List BreakpointRequest)
    (h : s.program ≠ none) : Controls engine s (s.resolve engine target requests) := by
  unfold resolve
  dsimp only
  split <;> exact ⟨rfl, [.setBreakpoints target requests], ⟨_, _, rfl⟩, fun hn => (h hn).elim⟩

theorem setBreakpoints_controls (a : SetBreakpointsArguments) :
    Controls engine s (s.setBreakpoints engine a) := by
  unfold setBreakpoints
  split
  · exact refuse_controls engine s _
  · exact refuse_controls engine s _
  · exact resolve_controls _ _ (by simp_all)

theorem setFunctionBreakpoints_controls (a : SetFunctionBreakpointsArguments) :
    Controls engine s (s.setFunctionBreakpoints engine a) := by
  unfold setFunctionBreakpoints
  split
  · exact refuse_controls engine s _
  · exact resolve_controls _ _ (by simp_all)

theorem stackTrace_controls (a : StackTraceArguments) : Controls engine s (s.stackTrace a) := by
  unfold stackTrace
  split
  · exact refuse_controls engine s _
  · refine ⟨?_, [], withTables_continues engine s _, fun _ => rfl⟩
    dsimp only
    split <;> rfl

theorem scopes_controls (a : ScopesArguments) : Controls engine s (s.scopes a) := by
  unfold scopes
  dsimp only
  split
  · exact refuse_controls engine s _
  · refine ⟨?_, [], withTables_continues engine s _, fun _ => rfl⟩
    dsimp only
    split <;> rfl

theorem listVariables_controls (a : VariablesArguments) :
    Controls engine s (s.listVariables engine a) := by
  unfold listVariables
  dsimp only
  split
  · exact refuse_controls engine s _
  · exact ⟨rfl, [], withTables_continues engine s _, fun _ => rfl⟩

theorem terminate_continues (engine : Engine σ) (s : Session σ) :
    Continues engine s (if s.program = none then [] else [.terminate]) (s.terminate engine) := by
  unfold terminate
  cases s.program with
  | none => exact Continues.refl engine s
  | some program => exact ⟨_, _, rfl⟩

end Session

end DebugServer
