import DebugServer.Proofs.Session.History

/-!
# Sessions that are watched

Any engine can be run with a record of the calls on it, in order and with what came of those that
launch a program. The record does not change the session: without it, every input leads to the
same session.
-/

namespace DebugServer

/-- A call on an engine; of the calls that launch a program, also whether they succeeded. -/
inductive TracedCall where
  | create (succeeded : Bool)
  | compile (succeeded : Bool)
  | start (succeeded : Bool)
  | control (call : EngineCall)
deriving DecidableEq

structure Traced (σ : Type) where
  state : σ
  calls : List TracedCall

variable {σ : Type}

namespace Engine

def traced (engine : Engine σ) : Engine (Traced σ) where
  create t :=
    ((engine.create t.state).1,
      ⟨(engine.create t.state).2, t.calls ++ [.create (engine.create t.state).1.isOk]⟩)
  compile source t :=
    ((engine.compile source t.state).1,
      ⟨(engine.compile source t.state).2,
        t.calls ++ [.compile (engine.compile source t.state).1.isOk]⟩)
  start program t :=
    ((engine.start program t.state).1,
      ⟨(engine.start program t.state).2,
        t.calls ++ [.start (engine.start program t.state).1.isOk]⟩)
  startEvents program t := engine.startEvents program t.state
  step thread reason t :=
    ((engine.step thread reason t.state).1,
      ⟨(engine.step thread reason t.state).2, t.calls ++ [.control (.step thread reason)]⟩)
  resume thread t :=
    ((engine.resume thread t.state).1,
      ⟨(engine.resume thread t.state).2, t.calls ++ [.control (.resume thread)]⟩)
  interrupt thread reason t :=
    ((engine.interrupt thread reason t.state).1,
      ⟨(engine.interrupt thread reason t.state).2,
        t.calls ++ [.control (.interrupt thread reason)]⟩)
  terminate t := ⟨engine.terminate t.state, t.calls ++ [.control .terminate]⟩
  wait t := ((engine.wait t.state).1, ⟨(engine.wait t.state).2, t.calls ++ [.control .wait]⟩)
  setBreakpoints target requests t :=
    ((engine.setBreakpoints target requests t.state).1,
      ⟨(engine.setBreakpoints target requests t.state).2,
        t.calls ++ [.control (.setBreakpoints target requests)]⟩)
  threads t :=
    ((engine.threads t.state).1, ⟨(engine.threads t.state).2, t.calls ++ [.control .threads]⟩)
  memory t := engine.memory t.state

variable {engine : Engine σ}

theorem calls_effect_traced (t : Traced σ) (call : EngineCall) :
    (engine.traced.effect t call).calls = t.calls ++ [.control call] := by
  cases call <;> rfl

theorem calls_effects_traced (t : Traced σ) (calls : List EngineCall) :
    (engine.traced.effects t calls).calls = t.calls ++ calls.map .control := by
  induction calls generalizing t with
  | nil => simp [effects]
  | cons call calls ih =>
    have hrest := ih (engine.traced.effect t call)
    rw [calls_effect_traced] at hrest
    simpa [effects] using hrest

/-- The calls of a launch that succeeds. -/
def launchCalls : List TracedCall :=
  [.create true, .compile true, .start true]

/-- The calls of launches that fail: up to the first failure. -/
def failedLaunches : List (List TracedCall) :=
  [[.create false], [.create true, .compile false], [.create true, .compile true, .start false]]

theorem calls_launch_traced {source : ProgramSource} {t t' : Traced σ}
    {outcome : Except Refusal Program} (h : engine.traced.launch source t = (outcome, t')) :
    ∃ calls, t'.calls = t.calls ++ calls ∧
      (outcome.isOk = true → calls = launchCalls) ∧
      (outcome.isOk = false → calls ∈ failedLaunches) := by
  simp only [launch, traced] at h
  cases hcreate : (engine.create t.state).1 with
  | error e =>
    simp only [hcreate, Prod.mk.injEq] at h
    obtain ⟨rfl, rfl⟩ := h
    refine ⟨[.create false], rfl, fun hok => ?_, fun _ => ?_⟩
    · cases hok
    · simp [failedLaunches]
  | ok _ =>
  simp only [hcreate] at h
  cases hcompile : (engine.compile source (engine.create t.state).2).1 with
  | error e =>
    simp only [hcompile, Prod.mk.injEq] at h
    obtain ⟨rfl, rfl⟩ := h
    refine ⟨[.create true, .compile false], List.append_assoc _ _ _, fun hok => ?_, fun _ => ?_⟩
    · cases hok
    · simp [failedLaunches]
  | ok program =>
  simp only [hcompile] at h
  cases hstart : (engine.start program (engine.compile source (engine.create t.state).2).2).1 with
  | error e =>
    simp only [hstart, Prod.mk.injEq] at h
    obtain ⟨rfl, rfl⟩ := h
    refine ⟨[.create true, .compile true, .start false], ?_, fun hok => ?_, fun _ => ?_⟩
    · rw [List.append_assoc, List.append_assoc]
      rfl
    · cases hok
    · simp [failedLaunches]
  | ok _ =>
    simp only [hstart, Prod.mk.injEq] at h
    obtain ⟨rfl, rfl⟩ := h
    refine ⟨launchCalls, ?_, fun _ => rfl, fun hfailed => ?_⟩
    · rw [List.append_assoc, List.append_assoc]
      rfl
    · cases hfailed

end Engine

namespace Session

/-- The session without the record. -/
def untraced (s : Session (Traced σ)) : Session σ :=
  { s with engine := s.engine.state }

/-- An outcome without the record. -/
def dropTrace {α : Type} (outcome : α × Session (Traced σ)) : α × Session σ :=
  (outcome.1, outcome.2.untraced)

variable {engine : Engine σ} {s : Session (Traced σ)} {request : Request}

theorem withArguments_untraced {α : Type} {format : RecordFormat α}
    {action : α → Reply × Session σ} {tracedAction : α → Reply × Session (Traced σ)}
    (h : ∀ a, action a = dropTrace (tracedAction a)) :
    s.untraced.withArguments request format action =
      dropTrace (s.withArguments request format tracedAction) := by
  unfold withArguments
  split
  · rfl
  · exact h _

theorem resume_untraced (a : ThreadArguments) :
    s.untraced.resume engine a = dropTrace (s.resume engine.traced a) := by
  obtain ⟨settings, live, translator, stopAtEntry, reached, program, delivery, connected, t⟩ := s
  cases program <;> rfl

theorem step_untraced (reason : StopReason) (a : ThreadArguments) :
    s.untraced.step engine reason a = dropTrace (s.step engine.traced reason a) := by
  obtain ⟨settings, live, translator, stopAtEntry, reached, program, delivery, connected, t⟩ := s
  cases program <;> rfl

theorem pause_untraced (a : ThreadArguments) :
    s.untraced.pause engine a = dropTrace (s.pause engine.traced a) := by
  obtain ⟨settings, live, translator, stopAtEntry, reached, program, delivery, connected, t⟩ := s
  cases program <;> rfl

theorem threads_untraced :
    s.untraced.threads engine = dropTrace (s.threads engine.traced) := by
  obtain ⟨settings, live, translator, stopAtEntry, reached, program, delivery, connected, t⟩ := s
  cases program <;> rfl

theorem terminate_untraced :
    s.untraced.terminate engine = (s.terminate engine.traced).untraced := by
  obtain ⟨settings, live, translator, stopAtEntry, reached, program, delivery, connected, t⟩ := s
  cases program <;> rfl

theorem stackTrace_untraced (a : StackTraceArguments) :
    s.untraced.stackTrace a = dropTrace (s.stackTrace a) := by
  obtain ⟨settings, live, translator, stopAtEntry, reached, program, delivery, connected, t⟩ := s
  cases program <;> rfl

theorem scopes_untraced (a : ScopesArguments) :
    s.untraced.scopes a = dropTrace (s.scopes a) := by
  unfold scopes
  simp only [show s.untraced.live = s.live from rfl]
  split <;> rfl

theorem listVariables_untraced (a : VariablesArguments) :
    s.untraced.listVariables engine a = dropTrace (s.listVariables engine.traced a) := by
  unfold listVariables
  simp only [show s.untraced.live = s.live from rfl,
    show engine.memory s.untraced.engine = engine.traced.memory s.engine from rfl]
  split <;> rfl

theorem resolve_untraced (target : BreakpointTarget) (requests : List BreakpointRequest) :
    s.untraced.resolve engine target requests =
      dropTrace (s.resolve engine.traced target requests) := by
  unfold resolve
  simp only [show engine.setBreakpoints target requests s.untraced.engine =
    ((engine.traced.setBreakpoints target requests s.engine).1,
      (engine.traced.setBreakpoints target requests s.engine).2.state) from rfl]
  split <;> rfl

theorem setBreakpoints_untraced (a : SetBreakpointsArguments) :
    s.untraced.setBreakpoints engine a = dropTrace (s.setBreakpoints engine.traced a) := by
  unfold setBreakpoints
  simp only [show s.untraced.program = s.program from rfl]
  split
  · rfl
  · rfl
  · exact resolve_untraced _ _

theorem setFunctionBreakpoints_untraced (a : SetFunctionBreakpointsArguments) :
    s.untraced.setFunctionBreakpoints engine a =
      dropTrace (s.setFunctionBreakpoints engine.traced a) := by
  unfold setFunctionBreakpoints
  simp only [show s.untraced.program = s.program from rfl]
  split
  · rfl
  · exact resolve_untraced _ _

theorem finishConfiguration_untraced :
    s.untraced.finishConfiguration engine = dropTrace (s.finishConfiguration engine.traced) := by
  unfold finishConfiguration
  simp only [show s.untraced.phase = s.phase from rfl, show s.untraced.program = s.program from rfl,
    show s.untraced.stopAtEntry = s.stopAtEntry from rfl]
  split
  · rfl
  split
  · rfl
  cases s.stopAtEntry with
  | true =>
    simp only [if_true, show engine.step mainThread .entry s.untraced.engine =
      ((engine.traced.step mainThread .entry s.engine).1,
        (engine.traced.step mainThread .entry s.engine).2.state) from rfl]
    split <;> rfl
  | false =>
    simp only [Bool.false_eq_true, if_false, show engine.resume mainThread s.untraced.engine =
      ((engine.traced.resume mainThread s.engine).1,
        (engine.traced.resume mainThread s.engine).2.state) from rfl]
    split <;> rfl

theorem send_untraced (letter : Letter) :
    s.untraced.send letter = dropTrace (s.send letter) := by
  unfold send
  simp only [show s.untraced.live = s.live from rfl]
  split <;> rfl

theorem send_map_untraced {α : Type} (letter : Letter) (reply : Unit → α) :
    ((s.untraced.send letter).1.map reply, (s.untraced.send letter).2) =
      dropTrace ((s.send letter).1.map reply, (s.send letter).2) := by
  rw [send_untraced]
  rfl

theorem failLaunch_untraced (refusal : Refusal) :
    s.untraced.failLaunch refusal = dropTrace (s.failLaunch refusal) :=
  send_map_untraced (s := { s.log _ with reached := .terminated }) _ _

theorem start_untraced (program : Program) :
    s.untraced.start engine program = dropTrace (s.start engine.traced program) := by
  cases hstart : engine.start program s.engine.state with
  | mk started state =>
  have htraced : engine.traced.start program s.engine =
      (started, ⟨state, s.engine.calls ++ [.start started.isOk]⟩) := by
    simp [Engine.traced, hstart]
  have hevents : engine.traced.startEvents program s.engine =
      engine.startEvents program s.engine.state := rfl
  simp only [start, log, untraced, hstart, htraced, hevents]
  cases started with
  | error e => exact (failLaunch_untraced (s := { s with live := _, engine := ⟨state, _⟩ }) _ :)
  | ok _ =>
    exact (send_map_untraced (s := { s with
      live := _, program := _, delivery := _, reached := _, engine := ⟨state, _⟩ }) _ _ :)

theorem compile_untraced (source : ProgramSource) :
    s.untraced.compile engine source = dropTrace (s.compile engine.traced source) := by
  cases hcreate : engine.create s.engine.state with
  | mk created afterCreate =>
  have htraced : engine.traced.create s.engine =
      (created, ⟨afterCreate, s.engine.calls ++ [.create created.isOk]⟩) := by
    simp [Engine.traced, hcreate]
  cases hcompile : engine.compile source afterCreate with
  | mk compiled afterCompile =>
  have hcompiled : ∀ calls, engine.traced.compile source ⟨afterCreate, calls⟩ =
      (compiled, ⟨afterCompile, calls ++ [.compile compiled.isOk]⟩) := by
    simp [Engine.traced, hcompile]
  simp only [compile, untraced, hcreate, htraced]
  cases created with
  | error e => exact (failLaunch_untraced (s := { s with engine := ⟨afterCreate, _⟩ }) _ :)
  | ok _ =>
  simp only [hcompile, hcompiled]
  cases compiled with
  | error e =>
    exact (failLaunch_untraced (s := { s with connected := true, engine := ⟨afterCompile, _⟩ }) _ :)
  | ok program =>
    exact (start_untraced (s := { s with connected := true, engine := ⟨afterCompile, _⟩ }) _ :)

theorem performLaunch_untraced :
    s.untraced.performLaunch engine request =
      dropTrace (s.performLaunch engine.traced request) := by
  unfold performLaunch
  split
  · rfl
  rename_i a ha
  unfold launch
  simp only [show s.untraced.launchSource? a = s.launchSource? a from rfl]
  split
  · rfl
  · exact (compile_untraced (s := { s with stopAtEntry := _ }) _ :)

theorem perform_untraced (c : Command) :
    s.untraced.perform engine request c = dropTrace (s.perform engine.traced request c) := by
  have answering : ∀ {o : Reply × Session σ} {o' : Reply × Session (Traced σ)}, o = dropTrace o' →
      answered o = dropTrace (answered o') := by
    rintro _ _ rfl
    rfl
  cases c with
  | launch | attach => exact performLaunch_untraced
  | setBreakpoints => exact answering (withArguments_untraced setBreakpoints_untraced)
  | setFunctionBreakpoints =>
    exact answering (withArguments_untraced setFunctionBreakpoints_untraced)
  | configurationDone => exact answering finishConfiguration_untraced
  | resume => exact answering (withArguments_untraced resume_untraced)
  | stepIn | next | stepOut => exact answering (withArguments_untraced (step_untraced _))
  | pause => exact answering (withArguments_untraced pause_untraced)
  | threads => exact answering threads_untraced
  | stackTrace => exact answering (withArguments_untraced stackTrace_untraced)
  | scopes => exact answering (withArguments_untraced scopes_untraced)
  | listVariables => exact answering (withArguments_untraced listVariables_untraced)
  | terminate | disconnect =>
    apply answering
    rw [terminate_untraced]
    rfl

theorem replyTo_untraced :
    s.untraced.replyTo engine request = dropTrace (s.replyTo engine.traced request) := by
  unfold replyTo dispatch
  simp only [show ∀ record, (s.untraced.log record).phase = (s.log record).phase from fun _ => rfl]
  split
  · rfl
  split
  · rfl
  · exact (perform_untraced (s := s.log _) _ :)

theorem process_untraced :
    s.untraced.process engine request = dropTrace (s.process engine.traced request) := by
  unfold process
  rw [replyTo_untraced]
  cases hreply : s.replyTo engine.traced request with
  | mk result s' =>
  cases result with
  | error e => rfl
  | ok reply => exact send_map_untraced _ _

theorem answerInitialize_untraced :
    Server.answerInitialize s.untraced request = dropTrace (Server.answerInitialize s request) := by
  unfold Server.answerInitialize
  split
  · exact send_untraced _
  · exact (send_untraced (s := { s with live := _, translator := _ }) _ :)

theorem deliver_untraced (event : EngineEvent) :
    s.untraced.deliver event = dropTrace (s.deliver event) := by
  unfold deliver
  simp only [show s.untraced.delivery = s.delivery from rfl]
  split <;> rfl

theorem print_untraced (stream : OutputStream) (text : String) :
    s.untraced.print stream text = dropTrace (s.print stream text) := by
  unfold print
  simp only [show s.untraced.connected = s.connected from rfl,
    show s.untraced.live = s.live from rfl]
  split
  · split <;> rfl
  · rfl

theorem foldl_log_untraced (records : List Log.Record) :
    records.foldl log s.untraced = (records.foldl log s).untraced := by
  induction records generalizing s with
  | nil => rfl
  | cons record records ih => exact ih (s := s.log record)

theorem shutdown_untraced : s.untraced.shutdown engine = (s.shutdown engine.traced).untraced := by
  cases hwait : engine.wait (engine.terminate s.engine.state) with
  | mk outcome state =>
  have htraced : engine.traced.wait (engine.traced.terminate s.engine) =
      (outcome, ⟨state, s.engine.calls ++ [.control .terminate] ++ [.control .wait]⟩) := by
    simp [Engine.traced, hwait]
  have hlog := foldl_log_untraced (waitRecords s.settings outcome) (s := { s with
    reached := .terminated
    engine := ⟨state, s.engine.calls ++ [.control .terminate] ++ [.control .wait]⟩ })
  simp only [untraced] at hlog
  simp only [shutdown, untraced, hwait, htraced]
  split
  · rfl
  · rw [hlog]
    rfl

end Session

/-- The same input for a session whose engine is watched. -/
def SessionInput.traced : SessionInput σ → SessionInput (Traced σ)
  | .request r => .request r
  | .greeting r => .greeting r
  | .event e => .event e
  | .output stream text => .output stream text
  | .progress change => .progress fun t => { t with state := change t.state }
  | .shutdown => .shutdown

namespace Session

variable {engine : Engine σ} {s : Session (Traced σ)}

theorem advance_untraced (input : SessionInput σ) :
    s.untraced.advance engine input = (s.advance engine.traced input.traced).untraced := by
  cases input with
  | request request => exact congrArg Prod.snd process_untraced
  | greeting request => exact congrArg Prod.snd answerInitialize_untraced
  | event event => exact congrArg Prod.snd (deliver_untraced event)
  | output stream text => exact congrArg Prod.snd (print_untraced stream text)
  | progress change => rfl
  | shutdown => exact shutdown_untraced

/-- The session of a watched engine, from its start on. -/
def watched (engine : Engine σ) (settings : Settings) (state : σ) (past : List (SessionInput σ)) :
    Session (Traced σ) :=
  (new settings ⟨state, []⟩).after engine.traced (past.map .traced)

/-- A session goes the same way whether its engine is watched or not. -/
theorem watched_untraced (settings : Settings) (state : σ) (past : List (SessionInput σ)) :
    (watched engine settings state past).untraced = (new settings state).after engine past := by
  induction past with
  | nil => rfl
  | cons input past ih =>
    simp only [after]
    rw [← ih, advance_untraced]
    rfl

end Session

end DebugServer
