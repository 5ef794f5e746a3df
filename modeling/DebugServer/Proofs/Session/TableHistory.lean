import DebugServer.Proofs.Session.Access

/-!
# Tables along a history

What one input does to the tables of a session that is not over afterwards: a request uses them,
and every event that is handled changes them by itself. Here the stacks are such that no read of
their frames is overtaken by another thread's stop.
-/

namespace DebugServer

namespace Moment

/-- Whether the stack that comes with a moment, if any, is read without disturbance. -/
def Undisturbed : Moment → Prop
  | .handled (.stopped stop) => stop.stack.overtaken = 0
  | _ => True

instance : DecidablePred Undisturbed
  | .handled (.stopped stop) => inferInstanceAs (Decidable (stop.stack.overtaken = 0))
  | .handled (.threadStarted _) | .handled (.threadExited _) | .handled .terminated
  | .answered _ _ _ => .isTrue trivial

/-- Whether a moment is the stop of some thread. -/
def isStop : Moment → Bool
  | .handled (.stopped _) => true
  | _ => false

end Moment

namespace Tables

/-- Whether the stacks of all retained stops are read without disturbance. -/
def Undisturbed (t : Tables) : Prop :=
  ∀ {thread stop}, t.stops.get? thread = some stop → stop.stack.overtaken = 0

theorem Undisturbed.after {t : Tables} (h : t.Undisturbed) {event : EngineEvent}
    (hevent : (Moment.handled event).Undisturbed) : (t.after event).Undisturbed := by
  intro thread stop hstop
  cases event with
  | threadStarted | threadExited => exact h hstop
  | terminated => cases hstop
  | stopped latest =>
    rw [Tables.after, recordStop_stops, RetainedStops.get?_retain] at hstop
    split at hstop
    · cases hstop
      exact hevent
    · exact h hstop

theorem limits_after (t : Tables) (event : EngineEvent) :
    (t.after event).values.limits = t.values.limits := by
  cases event <;> rfl

/-- What every event keeps true of the tables and the moments up to it. -/
theorem foldl_after_induction {P : Tables → List Moment → Prop} {events : List EngineEvent}
    {t : Tables} (history : List Moment) (h : P t history)
    (step : ∀ {t history}, ∀ event ∈ events, P t history →
      P (t.after event) (.handled event :: history)) :
    P (events.foldl Tables.after t) (events.reverse.map .handled ++ history) := by
  induction events generalizing t history with
  | nil => exact h
  | cons event rest ih =>
    have hrest := ih _ (step event List.mem_cons_self h) fun later hlater =>
      step later (List.mem_cons_of_mem _ hlater)
    simpa using hrest

end Tables

namespace Session

variable {σ : Type} {engine : Engine σ} {s s' : Session σ} {past : List (SessionInput σ)}

/-- What an input does to the tables of a session, with the moments that it brings. -/
inductive TableSteps (engine : Engine σ) (s s' : Session σ) : List Moment → Prop where
  | quiet (same : s'.live.tables = s.live.tables) : TableSteps engine s s' []
  | answered {request : Request} {reply : Reply}
      (accesses : Accesses engine s request reply s'.live.tables) :
      TableSteps engine s s' [.answered request reply (engine.memory s.engine)]
  | handled {event : EngineEvent} (unended : event.isLast = false) (debugged : s.program ≠ none)
      (tables : s'.live.tables = s.live.tables.after event) :
      TableSteps engine s s' [.handled event]
  | launched {request : Request} {reply : Reply} {events : List EngineEvent}
      (access : request.access? = none) (bare : reply.IsBare)
      (unended : ∀ event ∈ events, event.isLast = false) (begun : s'.reached ≠ .uninitialized)
      (tables : s'.live.tables = events.foldl Tables.after s.live.tables) :
      TableSteps engine s s' (.answered request reply (engine.memory s.engine) ::
        events.reverse.map .handled)

/-- Every request that looks for something is answered after using the tables in one of the known
ways. -/
theorem replies_accesses (engine : Engine σ) (hs : s.Consistent) (h : s.Readable)
    (hlive : s.phase ≠ .terminated) {request : Request} (ha : request.access? ≠ none) :
    ∃ reply tables, s.Replies engine request reply ∧ Accesses engine s request reply tables := by
  obtain ⟨reply, s', -, hreply, hprocess, -⟩ := advance_request engine hs.isOpen request
  exact ⟨reply, _, ⟨s', hreply, hprocess⟩,
    replyTo_accesses h hs hlive (launches?_of_access? ha) hreply⟩

theorem request_tableSteps (hs : s.Consistent) (h : s.Readable) {request : Request}
    (hlive : (s.advance engine (.request request)).phase ≠ .terminated) :
    TableSteps engine s (s.advance engine (.request request))
      (s.moments engine (.request request)) := by
  obtain ⟨reply, s', hanswers, hreply, hprocess, hmoments⟩ :=
    advance_request engine hs.isOpen request
  have hbefore := live_of_advance hs.isOpen hlive
  have answering : s.launches? request = none → TableSteps engine s
      (s.advance engine (.request request)) (s.moments engine (.request request)) := by
    intro hl
    rw [hmoments, launchEvents_of_none hl]
    apply TableSteps.answered
    have haccesses := replyTo_accesses h hs hbefore hl hreply
    rw [advance, hprocess]
    exact haccesses
  rw [advance, hprocess] at hlive
  cases hanswers with
  | stayed _ _ _ launches => exact answering launches
  | configured command => exact answering (launches?_eq_none (by simp [command]))
  | failed => simp [phase, post, hears, withOutbox] at hlive
  | @launched source _ _ _ _ launches =>
    have haccess : request.access? = none :=
      not_not.mp fun ha => by simp [launches?_of_access? ha] at launches
    rw [hmoments, launchEvents_of_some launches, advance, hprocess]
    have hunended : s.live.ended = false ∧
        ∀ event ∈ engine.launchEvents source s.engine, event.isLast = false := by
      simpa [phase, post, hears, withOutbox] using hlive
    have hbegun : Phase.configuring ≠ .uninitialized := by decide
    exact .launched haccess Reply.done_isBare hunended.2 hbegun rfl

theorem deliver_tableSteps (hs : s.Consistent) {event : EngineEvent}
    (hlive : (s.deliver event).2.phase ≠ .terminated) :
    TableSteps engine s (s.deliver event).2 (s.moments engine (.event event)) := by
  unfold deliver at hlive ⊢
  cases hdelivery : s.delivery with
  | notStarted | stopped =>
    simp only [moments, hdelivery, reduceCtorEq, if_false]
    exact .quiet rfl
  | running =>
    obtain ⟨journal, hhandle⟩ := LiveState.handle_of_isOpen hs.isOpen event
    simp only [hdelivery, hhandle, moments, if_true] at hlive ⊢
    refine .handled ?_ (hs.delivery_iff.mp hdelivery).1 rfl
    cases hlast : event.isLast with
    | false => rfl
    | true => simp [phase, hlast] at hlive

/-- One step, for every input that does not end the session. -/
theorem advance_tableSteps (hs : s.Consistent) (h : s.Readable) {input : SessionInput σ}
    (hlive : (s.advance engine input).phase ≠ .terminated) :
    TableSteps engine s (s.advance engine input) (s.moments engine input) := by
  cases input with
  | request request => exact request_tableSteps hs h hlive
  | greeting request =>
    obtain ⟨translator, journal, reply, hgreeting⟩ := advance_greeting engine hs.isOpen request
    rw [hgreeting]
    exact .quiet rfl
  | event event => exact deliver_tableSteps hs hlive
  | output stream text =>
    obtain ⟨letters, -, hprint⟩ := print_of_isOpen hs.isOpen stream text
    simp only [advance, hprint]
    exact .quiet rfl
  | progress change => exact .quiet rfl
  | shutdown => exact (hlive phase_shutdown).elim

/-- Before the launch there is nothing to find, and nothing gets into the tables. -/
theorem Accesses.untouched {request : Request} {reply : Reply} {tables : Tables}
    (h : Accesses engine s request reply tables)
    (hempty : s.live.tables = .empty s.settings.limits) :
    tables = .empty s.settings.limits := by
  have hframes : ∀ id, s.live.tables.frames.get? id = none := by simp [hempty, Tables.empty]
  have hvalues : ∀ id, s.live.tables.values.scopes.get? id = none := by
    simp [hempty, Tables.empty, VariableTable.empty]
  have hstops : ∀ thread, s.live.tables.stops.get? thread = none := by
    simp [hempty, Tables.empty]
  cases h with
  | released access bare =>
    rw [hempty]
    rfl
  | listed access retained debugged => simp [hstops] at retained
  | opened access found => simp [hframes] at found
  | expanded access found read => simp [hvalues] at found
  | missed wanted lacks => exact hempty
  | other access bare => exact hempty

theorem Accesses.undisturbed {request : Request} {reply : Reply} {tables : Tables}
    (h : Accesses engine s request reply tables) (hr : s.live.tables.Undisturbed) :
    tables.Undisturbed := by
  intro thread stop hstop
  cases h with
  | @released released reply access bare =>
    have hrelease : (s.live.tables.stops.release released).get? thread = some stop := hstop
    rw [RetainedStops.get?_release] at hrelease
    split at hrelease
    · cases hrelease
    · exact hr hrelease
  | listed | opened | expanded | missed | other => exact hr hstop

theorem Accesses.limits {request : Request} {reply : Reply} {tables : Tables}
    (h : Accesses engine s request reply tables) :
    tables.values.limits = s.live.tables.values.limits := by
  cases h <;> rfl

/-- Requests keep to the tables that they find, so stops and events alone matter. -/
theorem TableSteps.undisturbed {moments : List Moment} (h : TableSteps engine s s' moments)
    (hr : s.live.tables.Undisturbed) (hm : ∀ moment ∈ moments, moment.Undisturbed) :
    s'.live.tables.Undisturbed := by
  cases h with
  | quiet same => rwa [same]
  | answered accesses => exact accesses.undisturbed hr
  | handled unended debugged tables =>
    rw [tables]
    exact hr.after (hm _ List.mem_cons_self)
  | launched access bare unended begun tables =>
    rw [tables]
    apply Tables.foldl_after_induction (P := fun t _ => t.Undisturbed) [] hr
    intro t history event hevent ht
    exact ht.after (hm _ (List.mem_cons_of_mem _ (by simpa using hevent)))

theorem TableSteps.limits {moments : List Moment} (h : TableSteps engine s s' moments) :
    s'.live.tables.values.limits = s.live.tables.values.limits := by
  cases h with
  | quiet same => rw [same]
  | answered accesses => exact accesses.limits
  | handled unended debugged tables => rw [tables, Tables.limits_after]
  | launched access bare unended begun tables =>
    rw [tables]
    apply Tables.foldl_after_induction
      (P := fun t _ => t.values.limits = s.live.tables.values.limits) [] rfl
    intro t history event _ ht
    rw [Tables.limits_after, ht]

theorem TableSteps.untouched {moments : List Moment} (h : TableSteps engine s s' moments)
    (hs : s.Consistent) (hr : s.reached = .uninitialized) (hr' : s'.reached = .uninitialized)
    (hempty : s.live.tables = .empty s.settings.limits) :
    s'.live.tables = .empty s.settings.limits := by
  cases h with
  | quiet same => rw [same, hempty]
  | answered accesses => exact accesses.untouched hempty
  | handled unended debugged => exact (debugged (hs.program_eq_none hr)).elim
  | launched access bare unended begun => exact (begun hr').elim

theorem Readable.advance (h : s.Readable) (hs : s.Consistent) {input : SessionInput σ}
    (hi : ∀ moment ∈ s.moments engine input, moment.Undisturbed)
    (hlive : (s.advance engine input).phase ≠ .terminated) :
    (s.advance engine input).Readable := by
  have hsteps := advance_tableSteps hs h hlive
  have hsettings := settings_advance engine hs.isOpen input
  refine ⟨fun hr => ?_, hsteps.undisturbed h.undisturbed hi, ?_⟩
  · have hphase := (phase_eq_uninitialized_iff (hs.advance input)).mpr hr
    have hbefore := (phase_eq_uninitialized_iff hs).mp
      (phase_uninitialized_of_advance hs.isOpen hphase)
    rw [hsettings]
    exact hsteps.untouched hs hbefore hr (h.untouched hbefore)
  · rw [hsettings, hsteps.limits]
    exact h.limits

theorem after_readable (settings : Settings) (state : σ)
    (hpast : ∀ moment ∈ (new settings state).history engine past, moment.Undisturbed)
    (hlive : ((new settings state).after engine past).phase ≠ .terminated) :
    ((new settings state).after engine past).Readable := by
  induction past with
  | nil => exact ⟨fun _ => rfl, nofun, rfl⟩
  | cons input past ih =>
    have hs := after_consistent engine settings state past
    have h :=
      ih (fun m hm => hpast m (List.mem_append_right _ hm)) (live_of_advance hs.isOpen hlive)
    exact h.advance hs (fun m hm => hpast m (List.mem_append_left _ hm)) hlive

theorem settings_after (engine : Engine σ) (settings : Settings) (state : σ)
    (past : List (SessionInput σ)) :
    ((new settings state).after engine past).settings = settings := by
  induction past with
  | nil => rfl
  | cons input past ih =>
    exact (settings_advance engine (after_consistent engine settings state past).isOpen input).trans
      ih

section

variable {P : Tables → List Moment → Prop} {limits : TextLimits}
  (answered : ∀ {s : Session σ} {request : Request} {reply : Reply} {tables : Tables}
    {history : List Moment}, s.live.tables.values.limits = limits →
    Accesses engine s request reply tables → P s.live.tables history →
    P tables (.answered request reply (engine.memory s.engine) :: history))
  (handled : ∀ {tables : Tables} {history : List Moment} {event : EngineEvent},
    event.isLast = false → P tables history → P (tables.after event) (.handled event :: history))

include answered handled

theorem TableSteps.keeps {moments history : List Moment} (h : TableSteps engine s s' moments)
    (hlimits : s.live.tables.values.limits = limits) (hP : P s.live.tables history) :
    P s'.live.tables (moments ++ history) := by
  cases h with
  | quiet same => rwa [same]
  | answered accesses => exact answered hlimits accesses hP
  | handled unended debugged tables =>
    rw [tables]
    exact handled unended hP
  | @launched request reply events access bare unended begun tables =>
    let heard := s.withTables (events.foldl Tables.after s.live.tables)
    have hheard : P heard.live.tables (events.reverse.map .handled ++ history) ∧
        heard.live.tables.values.limits = limits :=
      Tables.foldl_after_induction (P := fun t history => P t history ∧ t.values.limits = limits)
        history ⟨hP, hlimits⟩ fun event hevent ⟨ht, hl⟩ =>
          ⟨handled (unended event hevent) ht, (Tables.limits_after _ _).trans hl⟩
    rw [tables]
    exact answered (s := heard) hheard.2 (.other access bare) hheard.1

/-- What holds of the tables and the history at first, and is kept by every use of the tables and by
every event, holds as long as the session is not over. -/
theorem after_induction {settings : Settings} {state : σ} (hsettings : settings.limits = limits)
    (start : P (.empty limits) [])
    (hpast : ∀ moment ∈ (new settings state).history engine past, moment.Undisturbed)
    (hlive : ((new settings state).after engine past).phase ≠ .terminated) :
    P ((new settings state).after engine past).live.tables
      ((new settings state).history engine past) := by
  subst hsettings
  induction past with
  | nil => exact start
  | cons input past ih =>
    have hbefore := fun m hm => hpast m (List.mem_append_right _ hm)
    have hs := after_consistent engine settings state past
    have hearlier := live_of_advance hs.isOpen hlive
    have hreadable := after_readable settings state hbefore hearlier
    have hlimits : _ = settings.limits :=
      hreadable.limits.trans (congrArg _ (settings_after engine settings state past))
    have hsteps := advance_tableSteps hs hreadable hlive
    exact hsteps.keeps answered handled hlimits (ih hbefore hearlier)

end

end Session

end DebugServer
