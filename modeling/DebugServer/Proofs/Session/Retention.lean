import DebugServer.Proofs.Session.TableHistory

/-!
# How long a thread stays inspectable

A thread that has stopped can be inspected until it stops again, which replaces its stop, or until
it is told to go on or to pause, which releases it. Nothing else that happens in a session makes a
difference, in whatever order it happens.
-/

namespace DebugServer

/-- Whether a moment is a stop of this thread. -/
def Moment.Stops (thread : ThreadId) (moment : Moment) : Prop :=
  ∃ stop, moment = .handled (.stopped stop) ∧ stop.thread = thread

/-- Whether a moment is a request that lets this thread go on, or asks it to pause; what the engine
makes of the request does not matter. -/
def Moment.Releases (thread : ThreadId) (moment : Moment) : Prop :=
  ∃ request reply memory, moment = .answered request reply memory ∧
    request.access? = some (.release thread)

/-- The latest stop of a thread, while the thread has not been released since. -/
inductive Unreleased (thread : ThreadId) (stop : StopEvent) : List Moment → Prop where
  | stopped {past : List Moment} (same : stop.thread = thread) :
      Unreleased thread stop (.handled (.stopped stop) :: past)
  | since {moment : Moment} {past : List Moment} (earlier : Unreleased thread stop past)
      (stops : ¬ moment.Stops thread) (releases : ¬ moment.Releases thread) :
      Unreleased thread stop (moment :: past)

section

variable {thread : ThreadId} {stop : StopEvent} {moment : Moment} {past : List Moment}

theorem unreleased_cons_iff_of_calm (hs : ¬ moment.Stops thread) (hr : ¬ moment.Releases thread) :
    Unreleased thread stop (moment :: past) ↔ Unreleased thread stop past := by
  constructor
  · intro h
    cases h with
    | stopped same => exact (hs ⟨stop, rfl, same⟩).elim
    | since earlier => exact earlier
  · exact fun h => .since h hs hr

theorem unreleased_cons_of_releases (h : moment.Releases thread) :
    ¬ Unreleased thread stop (moment :: past) := by
  intro hu
  cases hu with
  | stopped same =>
    obtain ⟨_, _, _, hmoment, -⟩ := h
    cases hmoment
  | since earlier stops releases => exact releases h

theorem unreleased_stopped_iff {latest : StopEvent} (h : latest.thread = thread) :
    Unreleased thread stop (.handled (.stopped latest) :: past) ↔ latest = stop := by
  constructor
  · intro hu
    cases hu with
    | stopped => rfl
    | since earlier stops => exact (stops ⟨latest, rfl, h⟩).elim
  · rintro rfl
    exact .stopped h

end

namespace Session

variable {σ : Type} {engine : Engine σ} {s : Session σ} {past : List (SessionInput σ)}

/-- The stops in the tables are those that are unreleased according to the history. -/
def Retains (tables : Tables) (history : List Moment) : Prop :=
  ∀ thread stop, tables.stops.get? thread = some stop ↔ Unreleased thread stop history

theorem Retains.calm {history : List Moment} {moment : Moment} {t tables : Tables}
    (h : Retains t history) (hstops : tables.stops = t.stops) {thread : ThreadId}
    (hs : ¬ moment.Stops thread) (hr : ¬ moment.Releases thread) (stop : StopEvent) :
    tables.stops.get? thread = some stop ↔ Unreleased thread stop (moment :: history) := by
  rw [hstops, unreleased_cons_iff_of_calm hs hr]
  exact h thread stop

theorem Retains.answered {history : List Moment} {request : Request} {reply : Reply}
    {tables : Tables} (h : Retains s.live.tables history)
    (haccesses : Accesses engine s request reply tables) :
    Retains tables (.answered request reply (engine.memory s.engine) :: history) := by
  intro thread stop
  have hs : ¬ (Moment.answered request reply (engine.memory s.engine)).Stops thread := by
    rintro ⟨_, hmoment, -⟩
    cases hmoment
  have hother : request.access? ≠ some (.release thread) →
      ¬ (Moment.answered request reply (engine.memory s.engine)).Releases thread := by
    rintro hne ⟨_, _, _, hmoment, ha⟩
    cases hmoment
    exact hne ha
  cases haccesses with
  | @released released _ access bare =>
    rw [show (s.live.tables.release released).stops = s.live.tables.stops.release released from
      rfl, RetainedStops.get?_release]
    by_cases hthread : released = thread
    · subst hthread
      simp only [if_true, reduceCtorEq, false_iff]
      exact unreleased_cons_of_releases ⟨_, _, _, rfl, access⟩
    · rw [if_neg hthread, unreleased_cons_iff_of_calm hs (hother (by simp [access, hthread]))]
      exact h thread stop
  | listed access | opened access | expanded access | other access =>
    exact h.calm rfl hs (hother (by simp [access])) stop
  | missed wanted lacks =>
    refine h.calm rfl hs (hother ?_) stop
    rw [wanted]
    rintro ⟨⟩
    exact lacks

theorem Retains.handled {history : List Moment} {t : Tables} {event : EngineEvent}
    (h : Retains t history) (hunended : event.isLast = false) :
    Retains (t.after event) (.handled event :: history) := by
  intro thread stop
  have hr : ¬ (Moment.handled event).Releases thread := by
    rintro ⟨_, _, _, hmoment, -⟩
    cases hmoment
  cases event with
  | threadStarted | threadExited =>
    refine h.calm rfl ?_ hr stop
    rintro ⟨_, hmoment, -⟩
    cases hmoment
  | terminated => cases hunended
  | stopped latest =>
    rw [Tables.after, Tables.recordStop_stops, RetainedStops.get?_retain]
    by_cases hthread : latest.thread = thread
    · rw [if_pos hthread, unreleased_stopped_iff hthread, Option.some.injEq]
    · rw [if_neg hthread, unreleased_cons_iff_of_calm ?_ hr]
      · exact h thread stop
      · rintro ⟨_, hmoment, hsame⟩
        cases hmoment
        exact hthread hsame

theorem empty_retains (limits : TextLimits) : Retains (.empty limits) [] := by
  intro thread stop
  constructor
  · intro hstop
    cases hstop
  · intro hstop
    cases hstop

theorem after_retains (settings : Settings) (state : σ)
    (hpast : ∀ moment ∈ (new settings state).history engine past, moment.Undisturbed)
    (hlive : ((new settings state).after engine past).phase ≠ .terminated) :
    Retains ((new settings state).after engine past).live.tables
      ((new settings state).history engine past) := by
  refine after_induction (P := Retains) ?_ ?_ rfl (empty_retains _) hpast hlive
  · intro s request reply tables history _ haccesses h
    exact h.answered haccesses
  · intro tables history event hunended h
    exact h.handled hunended

/-- The end of the program lets all stops go, for good. -/
theorem stops_advance (hs : s.Consistent) (input : SessionInput σ)
    (h : s.live.ended = true → s.live.tables.stops = .empty) :
    (s.advance engine input).live.ended = true →
      (s.advance engine input).live.tables.stops = .empty := by
  cases input with
  | request request =>
    obtain ⟨reply, s', hanswers, hreply, hprocess, -⟩ := advance_request engine hs.isOpen request
    simp only [advance, hprocess]
    intro hended
    cases hbefore : s.live.ended with
    | true =>
      have hover : s.phase = .terminated := by simp [phase, hbefore]
      have htables := tables_replyTo_of_over hover hreply
      rw [show (s'.post [reply.letter request]).live.tables = s'.live.tables from rfl, htables]
      exact h hbefore
    | false =>
      have hlaunched : (s.launchEvents engine request).any (·.isLast) = true := by
        have hended' : s'.live.ended = true := hended
        rwa [hanswers.ended, hbefore, Bool.false_or] at hended'
      exact hanswers.stops_of_last hlaunched
  | greeting request =>
    obtain ⟨translator, journal, reply, hgreeting⟩ := advance_greeting engine hs.isOpen request
    rw [hgreeting]
    exact h
  | event event =>
    simp only [advance, deliver]
    cases hdelivery : s.delivery with
    | notStarted => exact h
    | stopped => exact h
    | running =>
      obtain ⟨journal, hhandle⟩ := LiveState.handle_of_isOpen hs.isOpen event
      simp only [hhandle, (hs.delivery_iff.mp hdelivery).2]
      cases event with
      | terminated => exact fun _ => rfl
      | threadStarted | threadExited | stopped =>
        intro hended
        cases hended
  | output stream text =>
    obtain ⟨letters, -, hprint⟩ := print_of_isOpen hs.isOpen stream text
    simp only [advance, hprint]
    exact h
  | progress change => exact h
  | shutdown =>
    by_cases hp : s.program = none
    · simp only [advance, shutdown_of_none hp]
      exact h
    · obtain ⟨journal, hs⟩ := shutdown_of_some engine hp
      simp only [advance, hs]
      exact fun _ => rfl

theorem after_stops_of_ended (settings : Settings) (state : σ)
    (h : ((new settings state).after engine past).live.ended = true) :
    ((new settings state).after engine past).live.tables.stops = .empty := by
  induction past with
  | nil => cases h
  | cons input past ih =>
    exact stops_advance (after_consistent engine settings state past) input ih h

theorem stackTrace_replies (engine : Engine σ) (hs : s.Consistent) (h : s.Readable)
    (hlive : s.phase ≠ .terminated) {request : Request} {a : StackTraceArguments}
    (ha : request.access? = some (.frames a)) :
    ∃ reply, s.Replies engine request reply ∧
      ((∃ refusal, s.live.tables.stops.get? a.thread = none ∧ reply = .refuse refusal) ∨
        ∃ stop program, s.live.tables.stops.get? a.thread = some stop ∧ s.program = some program ∧
          reply = .body (.stackTrace ⟨s.translator.stackFrames program
            (s.live.tables.frames.size + 1) (stop.framesFor a), some stop.stack.depth⟩)) := by
  have haccess : request.access? ≠ none := by simp [ha]
  obtain ⟨reply, tables, hreplies, haccesses⟩ := replies_accesses engine hs h hlive haccess
  refine ⟨reply, hreplies, ?_⟩
  cases haccesses with
  | released access | opened access | expanded access | other access => simp [ha] at access
  | missed wanted lacks =>
    rw [ha] at wanted
    cases wanted
    exact .inl ⟨_, lacks, rfl⟩
  | listed access retained debugged =>
    rw [ha] at access
    cases access
    exact .inr ⟨_, _, retained, debugged, rfl⟩

/-- While a session is not over, the stack of a thread is shown exactly if the latest stop of the
thread has not been released since, and it is the stack of this stop, between the two positions
that are asked for. Once the end of the program has been handled no stop is retained. -/
theorem inspectable_iff_unreleased (engine : Engine σ) (settings : Settings) (state : σ)
    (past : List (SessionInput σ))
    (hpast : ∀ moment ∈ (new settings state).history engine past, moment.Undisturbed) :
    let s := (new settings state).after engine past
    let history := (new settings state).history engine past
    (s.phase ≠ .terminated → ∀ (request : Request) (a : StackTraceArguments),
      request.access? = some (.frames a) →
        ∃ reply, s.Replies engine request reply ∧
          (reply.succeeded ↔ ∃ stop, Unreleased a.thread stop history) ∧
          ∀ stop, Unreleased a.thread stop history →
            ∃ program next, s.program = some program ∧
              reply = .body (.stackTrace ⟨s.translator.stackFrames program next
                (stop.stack.window a.first (a.last stop.stack.depth)),
                some stop.stack.depth⟩)) ∧
    (.handled .terminated ∈ history → s.live.tables.stops = .empty) := by
  intro s history
  constructor
  · intro hlive request a ha
    have hretains : Retains s.live.tables history := after_retains settings state hpast hlive
    have hs : s.Consistent := after_consistent engine settings state past
    obtain ⟨reply, hreplies, hcases⟩ := stackTrace_replies engine hs
      (after_readable settings state hpast hlive) hlive ha
    refine ⟨reply, hreplies, ?_⟩
    rcases hcases with ⟨refusal, hnone, rfl⟩ | ⟨stop, program, hstop, hprogram, rfl⟩
    · have hun : ∀ stop, ¬ Unreleased a.thread stop history := by
        intro stop hu
        rw [(hretains _ _).mpr hu] at hnone
        cases hnone
      exact ⟨iff_of_false nofun fun ⟨stop, hu⟩ => hun stop hu, fun stop hu => (hun stop hu).elim⟩
    · refine ⟨iff_of_true rfl ⟨stop, (hretains _ _).mp hstop⟩, fun other hu => ?_⟩
      have hsame := (hretains _ _).mpr hu
      rw [hstop] at hsame
      cases hsame
      exact ⟨program, _, hprogram, rfl⟩
  · intro hhandled
    exact after_stops_of_ended settings state ((ended_iff_handled settings state).mpr hhandled)

/-- A thread that stopped after the launch is inspected. -/
theorem inspectable_after_launch :
    let settings : Settings := ⟨none, false, none, ⟨10, 10⟩, 10, 10, none⟩
    let state := ScriptedState.new .default .empty
    let launch : Request := ⟨1, "request", "launch", .obj [("program", .str "main.go")]⟩
    let stop : StopEvent := ⟨.breakpoint, 1, ⟨[⟨"main", none, none, []⟩], 0⟩⟩
    let inspect : Request := ⟨2, "request", "stackTrace", .obj [("threadId", .num (.int 1))]⟩
    let past := [.event (.stopped stop), .request launch]
    let s := (new settings state).after scriptedEngine past
    (∀ moment ∈ (new settings state).history scriptedEngine past, moment.Undisturbed) ∧
      s.phase ≠ .terminated ∧
      ∃ reply, s.Replies scriptedEngine inspect reply ∧ reply.succeeded := by
  intro settings state launch stop inspect past s
  have hpast : ∀ moment ∈ (new settings state).history scriptedEngine past,
      moment.Undisturbed := by decide +kernel
  have hlive : s.phase ≠ .terminated := by decide +kernel
  have haccess : inspect.access? = some (.frames ⟨1, none, none⟩) := rfl
  obtain ⟨reply, hreplies, hiff, -⟩ :=
    (inspectable_iff_unreleased scriptedEngine settings state past hpast).1 hlive inspect _ haccess
  exact ⟨hpast, hlive, reply, hreplies, hiff.mpr ⟨stop, .stopped rfl⟩⟩

end Session

end DebugServer
