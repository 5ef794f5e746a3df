import DebugServer.Proofs.Session.Access
import DebugServer.Proofs.Session.EventRuns
import DebugServer.Proofs.Session.Traced

/-!
# Where a session stands

How far a session has come, what there is to inspect and what its engine was asked for does not
depend on whether its messages are still accepted. So these parts of a session are looked at by
themselves, while its outbox may be closed or lost at any time.
-/

namespace DebugServer

namespace Tables

/-- Whether no handle stands for anything. -/
structure HasNoHandles (t : Tables) : Prop where
  frames : t.frames.entries = []
  values : t.values.scopes.entries = []

/-- Whether there is nothing to inspect. -/
structure IsEmpty (t : Tables) : Prop extends HasNoHandles t where
  stops : t.stops.stops = []

theorem clear_isEmpty (t : Tables) : t.clear.IsEmpty :=
  ⟨⟨rfl, rfl⟩, rfl⟩

theorem HasNoHandles.foldl_after {t : Tables} (h : t.HasNoHandles) (events : List EngineEvent) :
    (events.foldl Tables.after t).HasNoHandles := by
  induction events generalizing t with
  | nil => exact h
  | cons event rest ih =>
    apply ih (t := t.after event)
    cases event with
    | threadStarted | threadExited => exact h
    | stopped | terminated => exact ⟨rfl, rfl⟩

theorem IsEmpty.foldl_after {t : Tables} (h : t.IsEmpty) {events : List EngineEvent}
    (hevents : ∀ stop, .stopped stop ∉ events) : (events.foldl Tables.after t).IsEmpty := by
  induction events generalizing t with
  | nil => exact h
  | cons event rest ih =>
    refine ih (t := t.after event) ?_ fun stop hstop => hevents stop (List.mem_cons_of_mem _ hstop)
    cases event with
    | threadStarted | threadExited => exact h
    | terminated => exact t.clear_isEmpty
    | stopped stop => exact (hevents stop List.mem_cons_self).elim

/-- Whether this is what the events of a start that failed have made of tables that were empty. -/
def LeftByStart {σ : Type} (engine : Engine σ) (t : Tables) : Prop :=
  ∃ program state before, (engine.start program state).1.isOk = false ∧ before.IsEmpty ∧
    t = (EngineEvent.untilEnd (engine.startEvents program state)).foldl Tables.after before

end Tables

namespace Engine

variable {σ : Type} {engine : Engine σ}

/-- What an engine promises when it is asked to keep the main thread suspended until a thread is
first resumed or stepped, as a session always asks it to: nothing has stopped in a program that it
fails to start. -/
def HaltsAtEntry (engine : Engine σ) : Prop :=
  ∀ program state, (engine.start program state).1.isOk = false →
    ∀ stop, .stopped stop ∉ engine.startEvents program state

theorem HaltsAtEntry.isEmpty (h : engine.HaltsAtEntry) {t : Tables} {p : Prop}
    (ht : t.IsEmpty ∨ p ∧ t.LeftByStart engine) : t.IsEmpty := by
  rcases ht with hempty | ⟨-, program, state, before, hfails, hbefore, rfl⟩
  · exact hempty
  · exact hbefore.foldl_after fun stop hstop =>
      h program state hfails stop (List.mem_of_mem_take hstop)

/-- A launch that fails makes events be handled only if it has come to the start. -/
theorem launchEvents_of_error {source : ProgramSource} {t t' : Traced σ} {refusal : Refusal}
    (h : engine.traced.launch source t = (.error refusal, t')) :
    engine.traced.launchEvents source t = [] ∨
      .start false ∈ t'.calls ∧ ∃ program state, (engine.start program state).1.isOk = false ∧
        engine.traced.launchEvents source t =
          EngineEvent.untilEnd (engine.startEvents program state) := by
  simp only [launch, launchEvents, traced] at h ⊢
  cases hcreate : (engine.create t.state).1 with
  | error e => exact .inl rfl
  | ok _ =>
  simp only [hcreate] at h ⊢
  cases hcompile : (engine.compile source (engine.create t.state).2).1 with
  | error e => exact .inl rfl
  | ok program =>
  simp only [hcompile] at h ⊢
  cases hstart : (engine.start program (engine.compile source (engine.create t.state).2).2).1 with
  | ok _ => simp [hstart] at h
  | error e =>
    simp only [hstart, Prod.mk.injEq] at h
    obtain ⟨-, rfl⟩ := h
    exact .inr ⟨by simp [Except.isOk, Except.toBool], program, _, by rw [hstart]; rfl, rfl⟩

end Engine

structure Standing (σ : Type) where
  reached : Phase
  ended : Bool
  program : Option Program
  delivery : Delivery
  tables : Tables
  engine : σ

namespace Session

variable {σ : Type}

def standing (s : Session σ) : Standing σ :=
  ⟨s.reached, s.live.ended, s.program, s.delivery, s.live.tables, s.engine⟩

end Session

namespace Standing

variable {σ : Type}

/-- Without a program, a session has not come to its launch or is over. -/
def IsPlaced (a : Standing σ) : Prop :=
  a.program = none → a.reached = .uninitialized ∨ a.reached = .terminated

/-- The standing after these events. -/
def hears (a : Standing σ) (events : List EngineEvent) : Standing σ :=
  { a with
    tables := events.foldl Tables.after a.tables, ended := a.ended || events.any (·.isLast) }

/-- What an input can do to the standing of a session. -/
inductive Step (engine : Engine σ) (a : Standing σ) : SessionInput σ → Standing σ → Prop where
  | kept (input : SessionInput σ) : Step engine a input a
  | controlled {request : Request} {calls : List EngineCall} {tables : Tables}
      (debugged : a.program ≠ none) :
      Step engine a (.request request)
        { a with tables, engine := engine.effects a.engine calls }
  | configured {request : Request} {call : EngineCall} (debugged : a.program ≠ none) :
      Step engine a (.request request)
        { a with engine := engine.effect a.engine call, reached := .running }
  | failed {request : Request} {source : ProgramSource} {refusal : Refusal} {state : σ}
      (before : a.reached = .uninitialized)
      (outcome : engine.launch source a.engine = (.error refusal, state)) :
      Step engine a (.request request)
        { a.hears (engine.launchEvents source a.engine) with
          engine := state, reached := .terminated }
  | launched {request : Request} {source : ProgramSource} {program : Program} {state : σ}
      (before : a.reached = .uninitialized)
      (outcome : engine.launch source a.engine = (.ok program, state)) :
      Step engine a (.request request)
        { a.hears (engine.launchEvents source a.engine) with
          engine := state, program := some program, reached := .configuring
          delivery := if (engine.launchEvents source a.engine).any (·.isLast) then .stopped
            else .running }
  | handled {event : EngineEvent} (running : a.delivery = .running) :
      Step engine a (.event event)
        { a with
          tables := a.tables.after event, ended := a.ended || event.isLast
          delivery := if event.isLast then .stopped else .running }
  | progressed (change : σ → σ) :
      Step engine a (.progress change) { a with engine := change a.engine }
  | closed (undebugged : a.program = none) :
      Step engine a .shutdown { a with reached := .terminated }
  | ended (debugged : a.program ≠ none) :
      Step engine a .shutdown
        { a with
          tables := a.tables.clear, program := none, delivery := .stopped
          reached := .terminated, engine := engine.effects a.engine [.terminate, .wait] }

end Standing

namespace Session

variable {σ : Type} {engine : Engine σ} {s : Session σ} {request : Request}

theorem Continues.step {calls : List EngineCall} {s' : Session σ}
    (h : Continues engine s calls s') (hp : s.program ≠ none) :
    s.standing.Step engine (.request request) s'.standing := by
  obtain ⟨tables, journal, rfl⟩ := h
  exact .controlled hp

end Session

namespace Standing

variable {σ : Type} {engine : Engine σ} {a b : Standing (Traced σ)} {input : SessionInput σ}

/-- A standing that a session can have, whatever has become of its messages. -/
structure IsSound (engine : Engine σ) (a : Standing (Traced σ)) : Prop where
  placed : a.IsPlaced
  fresh : a.reached = .uninitialized →
    a.delivery = .notStarted ∧ a.engine.calls = [] ∧ a.tables.IsEmpty
  undebugged : a.program = none → a.delivery ≠ .running ∧
    (a.tables.IsEmpty ∨ .start false ∈ a.engine.calls ∧ a.tables.LeftByStart engine)
  unlaunched : a.delivery = .notStarted →
    a.program = none ∧ (a.engine.calls = [] ∨ a.engine.calls ∈ Engine.failedLaunches)
  launched : a.delivery ≠ .notStarted →
    ∃ controls : List EngineCall, a.engine.calls = Engine.launchCalls ++ controls.map .control

theorem isSound_of_launched (hdelivery : a.delivery ≠ .notStarted)
    (hreached : a.reached ≠ .uninitialized)
    (hended : a.program = none → a.reached = .terminated ∧ a.delivery ≠ .running ∧ a.tables.IsEmpty)
    (hcalls : ∃ controls : List EngineCall,
      a.engine.calls = Engine.launchCalls ++ controls.map .control) : a.IsSound engine where
  placed hp := .inr (hended hp).1
  fresh hr := (hreached hr).elim
  undebugged hp := ⟨(hended hp).2.1, .inl (hended hp).2.2⟩
  unlaunched hd := (hdelivery hd).elim
  launched _ := hcalls

/-- While a program is being debugged, it has been launched, and more calls may follow. -/
theorem IsSound.of_program (h : a.IsSound engine) (hp : a.program ≠ none) :
    a.delivery ≠ .notStarted ∧ a.reached ≠ .uninitialized ∧
      ∀ calls : List EngineCall, ∃ controls : List EngineCall,
        a.engine.calls ++ calls.map .control = Engine.launchCalls ++ controls.map .control := by
  have hdelivery : a.delivery ≠ .notStarted := fun hd => hp (h.unlaunched hd).1
  obtain ⟨controls, hcontrols⟩ := h.launched hdelivery
  refine ⟨hdelivery, fun hr => hdelivery (h.fresh hr).1, fun calls => ⟨controls ++ calls, ?_⟩⟩
  rw [hcontrols, List.map_append, List.append_assoc]

/-- A change that an input makes by itself leaves the record of the calls alone. -/
theorem calls_of_progress {change : Traced σ → Traced σ} (h : input.traced = .progress change)
    (t : Traced σ) : (change t).calls = t.calls := by
  cases input <;> cases h
  rfl

theorem IsSound.step (h : a.IsSound engine) (hstep : a.Step engine.traced input.traced b) :
    b.IsSound engine := by
  generalize hinput : input.traced = watched at hstep
  cases hstep with
  | kept => exact h
  | @controlled _ calls _ debugged =>
    obtain ⟨hdelivery, hreached, hcalls⟩ := h.of_program debugged
    refine isSound_of_launched hdelivery hreached (fun hnone => (debugged hnone).elim) ?_
    rw [Engine.calls_effects_traced]
    exact hcalls calls
  | @configured _ call debugged =>
    obtain ⟨hdelivery, -, hcalls⟩ := h.of_program debugged
    refine isSound_of_launched hdelivery nofun (fun hnone => (debugged hnone).elim) ?_
    rw [Engine.calls_effect_traced]
    exact hcalls [call]
  | failed before outcome =>
    obtain ⟨hdelivery, hcalls, hempty⟩ := h.fresh before
    obtain ⟨calls, hlaunch, -, hfails⟩ := Engine.calls_launch_traced outcome
    refine ⟨fun _ => .inr rfl, nofun, fun hp => ⟨(h.undebugged hp).1, ?_⟩,
      fun hd => ⟨(h.unlaunched hd).1, .inr ?_⟩, fun hd => (hd hdelivery).elim⟩
    · simp only [hears]
      rcases Engine.launchEvents_of_error outcome with
        hnone | ⟨hcalled, program, state, hfailed, hall⟩
      · rw [hnone]
        exact .inl hempty
      · rw [hall]
        exact .inr ⟨hcalled, program, state, _, hfailed, hempty, rfl⟩
    · rw [hlaunch, hcalls]
      exact hfails rfl
  | launched before outcome =>
    obtain ⟨calls, hlaunch, hsucceeds, -⟩ := Engine.calls_launch_traced outcome
    refine isSound_of_launched ?_ nofun nofun ⟨[], ?_⟩
    · dsimp only
      split <;> exact nofun
    · rw [hlaunch, (h.fresh before).2.1, hsucceeds rfl]
      rfl
  | @handled event running =>
    have hdebugged : a.program ≠ none := fun hnone => (h.undebugged hnone).1 running
    obtain ⟨hdelivery, hreached, -⟩ := h.of_program hdebugged
    refine isSound_of_launched ?_ hreached (fun hnone => (hdebugged hnone).elim)
      (h.launched hdelivery)
    dsimp only
    split <;> exact nofun
  | progressed change =>
    have hcalls := calls_of_progress hinput a.engine
    refine ⟨h.placed, ?_, ?_, ?_, ?_⟩ <;> simp only [hcalls]
    · exact h.fresh
    · exact h.undebugged
    · exact h.unlaunched
    · exact h.launched
  | closed undebugged =>
    exact ⟨fun _ => .inr rfl, nofun, h.undebugged, h.unlaunched, h.launched⟩
  | ended debugged =>
    obtain ⟨-, -, hcalls⟩ := h.of_program debugged
    refine isSound_of_launched nofun nofun (fun _ => ⟨rfl, nofun, a.tables.clear_isEmpty⟩) ?_
    rw [Engine.calls_effects_traced]
    exact hcalls [.terminate, .wait]

/-- Whether a program that was launched is still being debugged, that is, not shut down. -/
def IsUnended (a : Standing σ) : Prop :=
  a.program = none → a.delivery = .notStarted

theorem IsUnended.step {engine : Engine σ} {a b : Standing σ} {input : SessionInput σ}
    (h : a.IsUnended) (hstep : a.Step engine input b) (hinput : input ≠ .shutdown) :
    b.IsUnended := by
  cases hstep with
  | kept | controlled | configured | failed | progressed => exact h
  | launched => exact nofun
  | handled running =>
    intro hnone
    simp [h hnone] at running
  | closed | ended => exact (hinput rfl).elim

/-- Whether a session is over. -/
structure IsOver (a : Standing σ) : Prop where
  reached : a.reached = .terminated
  undebugged : a.program = none
  undelivered : a.delivery ≠ .running

/-- What is over stays so, and its engine is left alone. -/
theorem IsOver.step {engine : Engine σ} {a b : Standing σ} {input : SessionInput σ} (h : a.IsOver)
    (hstep : a.Step engine input b) :
    b = a ∨ ∃ change, input = .progress change ∧ b = { a with engine := change a.engine } := by
  cases hstep with
  | kept => exact .inl rfl
  | controlled debugged | configured debugged | ended debugged =>
    exact (debugged h.undebugged).elim
  | failed before | launched before => simp [h.reached] at before
  | handled running => exact (h.undelivered running).elim
  | progressed change => exact .inr ⟨change, rfl, rfl⟩
  | closed =>
    left
    rw [← h.reached]

end Standing

namespace Session

variable {σ : Type} {s : Session (Traced σ)}

end Session

end DebugServer
