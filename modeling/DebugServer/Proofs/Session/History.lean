import DebugServer.Server
import DebugServer.Proofs.Session.Course

/-!
# Histories of a session

A session takes inputs one after the other, in any order: requests of the client, events and
output of the debuggee, what the engine does by itself, a shutdown. Pasts and histories have the
latest entry first, so that what holds since some entry is said by recursion.
-/

namespace DebugServer

/-- What can happen to a session whose engine has states `σ`. -/
inductive SessionInput (σ : Type) where
  | request (request : Request)
  /-- An `initialize` request, which is answered in every phase. -/
  | greeting (request : Request)
  | event (event : EngineEvent)
  | output (stream : OutputStream) (text : String)
  /-- The engine goes on by itself. -/
  | progress (change : σ → σ)
  | shutdown

/-- What a client can know of: a request with its reply, at a time when the debuggee's memory was as
given, or an event that was handled. -/
inductive Moment where
  | answered (request : Request) (reply : Reply) (memory : Memory)
  | handled (event : EngineEvent)

def Phase.rank : Phase → Nat
  | .uninitialized => 0
  | .configuring => 1
  | .running => 2
  | .terminated => 3

theorem Phase.rank_le (phase : Phase) : phase.rank ≤ Phase.terminated.rank := by
  cases phase <;> simp [rank]

namespace Session

variable {σ : Type} {engine : Engine σ} {s : Session σ}

def advance (engine : Engine σ) (s : Session σ) : SessionInput σ → Session σ
  | .request request => (s.process engine request).2
  | .greeting request => (Server.answerInitialize s { request with command := "initialize" }).2
  | .event event => (s.deliver event).2
  | .output stream text => (s.print stream text).2
  | .progress change => { s with engine := change s.engine }
  | .shutdown => s.shutdown engine

/-- The events that are handled before the reply to a request, which are those of a launch. -/
def launchEvents (engine : Engine σ) (s : Session σ) (request : Request) : List EngineEvent :=
  match s.launches? request with
  | some source => engine.launchEvents source s.engine
  | none => []

/-- What a client can know of an input, the latest first. -/
def moments (engine : Engine σ) (s : Session σ) : SessionInput σ → List Moment
  | .request request =>
    let handled := (s.launchEvents engine request).reverse.map .handled
    match (s.replyTo engine request).1 with
    | .ok reply => .answered request reply (engine.memory s.engine) :: handled
    | .error _ => handled
  | .event event => if s.delivery = .running then [.handled event] else []
  | _ => []

/-- The session after a past. -/
def after (engine : Engine σ) (s : Session σ) : (past : List (SessionInput σ)) → Session σ
  | [] => s
  | input :: past => (s.after engine past).advance engine input

def history (engine : Engine σ) (s : Session σ) : (past : List (SessionInput σ)) → List Moment
  | [] => []
  | input :: past => (s.after engine past).moments engine input ++ s.history engine past

/-- How the parts of a session that say how far it has come belong together. -/
structure Consistent (s : Session σ) : Prop where
  isOpen : s.live.outbox.IsOpen
  program_iff : s.program ≠ none ↔ s.reached = .configuring ∨ s.reached = .running
  delivery_iff : s.delivery = .running ↔ s.program ≠ none ∧ s.live.ended = false
  unlaunched : s.reached = .uninitialized → s.live.ended = false

theorem new_consistent (settings : Settings) (state : σ) : (new settings state).Consistent where
  isOpen := ⟨rfl, rfl⟩
  program_iff := by simp [new]
  delivery_iff := by simp [new]
  unlaunched _ := rfl

theorem phase_eq_uninitialized_iff (h : s.Consistent) :
    s.phase = .uninitialized ↔ s.reached = .uninitialized := by
  unfold phase
  split
  · rename_i hended
    refine iff_of_false (by simp) fun hr => ?_
    rw [h.unlaunched hr] at hended
    cases hended
  · exact Iff.rfl

theorem reached_eq_phase (h : s.phase ≠ .terminated) : s.reached = s.phase := by
  unfold phase at h ⊢
  split
  · rename_i hended
    exact (h (if_pos hended)).elim
  · rfl

theorem Consistent.program_eq_none (h : s.Consistent) (hr : s.reached = .uninitialized) :
    s.program = none := by
  apply Decidable.byContradiction
  intro hp
  have hlaunched := h.program_iff.mp hp
  simp [hr] at hlaunched

/-- In a session that was launched and is not over, the program runs and its events are handled. -/
theorem Consistent.of_phase (h : s.Consistent) (hp : s.phase = .configuring ∨ s.phase = .running) :
    s.live.ended = false ∧ s.program ≠ none ∧ s.delivery = .running := by
  have hended : s.live.ended = false := by
    cases he : s.live.ended with
    | false => rfl
    | true => simp [phase, he] at hp
  have hreached : s.reached = s.phase := by simp [phase, hended]
  have hprogram : s.program ≠ none := h.program_iff.mpr (hreached ▸ hp)
  exact ⟨hended, hprogram, h.delivery_iff.mpr ⟨hprogram, hended⟩⟩

/-- Between the launch and the end every other command is performed. -/
theorem replyTo_of_launched (engine : Engine σ) {request : Request} {c : Command}
    (hphase : s.phase = .configuring ∨ s.phase = .running) (hcommand : request.command = c.name)
    (hl : c ≠ .launch) (ha : c ≠ .attach) :
    ∃ record, s.replyTo engine request = (s.log record).perform engine request c := by
  have hname : Command.ofName? request.command = some c :=
    Command.ofName?_eq_some_iff.mpr hcommand.symm
  refine ⟨Log.session .debug "request"
    [("command", .text request.command), ("seq", .number request.seq.toInt)], ?_⟩
  simp only [replyTo, dispatch, hname]
  rw [show (s.log _).phase = s.phase from rfl, Command.refusal?_of_launched hphase hl ha]

theorem process_of_replyTo {reply : Reply} {request : Request} {s' : Session σ}
    (h : s.replyTo engine request = (.ok reply, s')) (ho : s'.live.outbox.IsOpen) :
    s.process engine request = (.ok reply.flow, s'.post [reply.letter request]) := by
  unfold process
  rw [h]
  simp only
  rw [send_of_isOpen ho]
  rfl

theorem answerInitialize_of_isOpen (h : s.live.outbox.IsOpen) (request : Request) :
    ∃ translator journal reply, (Server.answerInitialize s request) =
      (.ok (), { s with translator, live := { s.live with journal } : Session σ }.post
        [Reply.letter reply request]) := by
  unfold Server.answerInitialize
  split
  · exact ⟨s.translator, s.live.journal, _, send_of_isOpen h _⟩
  · simp only [configure, log]
    rw [send_of_isOpen (by exact h)]
    exact ⟨_, _, _, rfl⟩

theorem advance_greeting (engine : Engine σ) (h : s.live.outbox.IsOpen) (request : Request) :
    ∃ translator journal reply, s.advance engine (.greeting request) =
      { s with translator, live := { s.live with journal } : Session σ }.post
        [Reply.letter reply { request with command := "initialize" }] := by
  obtain ⟨translator, journal, reply, hanswer⟩ :=
    answerInitialize_of_isOpen h { request with command := "initialize" }
  refine ⟨translator, journal, reply, ?_⟩
  simp only [advance, hanswer]

theorem foldl_log (records : List Log.Record) (s : Session σ) :
    ∃ journal, records.foldl log s = { s with live := { s.live with journal } } := by
  induction records generalizing s with
  | nil => exact ⟨_, rfl⟩
  | cons record records ih => exact ih (s.log record)

theorem shutdown_of_none (h : s.program = none) :
    s.shutdown engine = { s with reached := .terminated } := by
  simp [shutdown, h]

theorem shutdown_of_some (engine : Engine σ) (h : s.program ≠ none) :
    ∃ journal, s.shutdown engine =
      { s with
        live := { s.live with tables := s.live.tables.clear, journal }, program := none
        delivery := .stopped, reached := .terminated
        engine := engine.effects s.engine [.terminate, .wait] } := by
  have hsome : s.program.isNone = false :=
    Option.isNone_eq_false_iff.mpr (Option.isSome_iff_ne_none.mpr h)
  simp only [shutdown, hsome, Bool.false_eq_true, if_false]
  obtain ⟨journal, hlog⟩ := foldl_log
    (waitRecords s.settings (engine.wait (engine.terminate s.engine)).1)
    { s with
      reached := .terminated
      engine := (engine.wait (engine.terminate s.engine)).2 }
  rw [hlog]
  exact ⟨journal, rfl⟩

theorem launchEvents_of_none {request : Request} (h : s.launches? request = none) :
    s.launchEvents engine request = [] := by
  simp only [launchEvents, h]

theorem launchEvents_of_some {request : Request} {source : ProgramSource}
    (h : s.launches? request = some source) :
    s.launchEvents engine request = engine.launchEvents source s.engine := by
  simp only [launchEvents, h]

/-- No request but a launch makes events be handled. -/
theorem Answers.ended {request : Request} {result : Except TransportError Reply}
    {s' : Session σ} (h : Answers engine s request (result, s')) :
    s'.live.ended = (s.live.ended || (s.launchEvents engine request).any (·.isLast)) := by
  cases h with
  | stayed continues idle terminated launches =>
    obtain ⟨_, _, rfl⟩ := continues
    rw [launchEvents_of_none launches, List.any_nil, Bool.or_false]
  | configured command =>
    have hl : s.launches? request = none := launches?_eq_none (by simp [command])
    rw [launchEvents_of_none hl, List.any_nil, Bool.or_false]
  | failed launches | launched launches =>
    rw [launchEvents_of_some launches]
    rfl

/-- An end of the program that is handled during a launch lets all stops go. -/
theorem Answers.stops_of_last {request : Request} {result : Except TransportError Reply}
    {s' : Session σ} (h : Answers engine s request (result, s'))
    (hlast : (s.launchEvents engine request).any (·.isLast) = true) :
    s'.live.tables.stops = .empty := by
  cases h with
  | stayed continues idle terminated launches =>
    rw [launchEvents_of_none launches] at hlast
    cases hlast
  | configured command =>
    rw [launchEvents_of_none (launches?_eq_none (by simp [command]))] at hlast
    cases hlast
  | failed launches | launched launches =>
    rw [launchEvents_of_some launches] at hlast
    exact Engine.stops_launchEvents hlast s.live.tables

theorem Answers.isOpen {request : Request} {result : Except TransportError Reply}
    {s' : Session σ} (h : Answers engine s request (result, s')) (ho : s.live.outbox.IsOpen) :
    s'.live.outbox.IsOpen := by
  cases h with
  | stayed continues =>
    obtain ⟨_, _, rfl⟩ := continues
    exact ho
  | configured => exact ho
  | failed => exact (ho.acceptAll _).acceptAll _
  | launched => exact (ho.acceptAll _).acceptAll _

/-- Whether a reply is the answer to a request, which is sent last. -/
def Replies (engine : Engine σ) (s : Session σ) (request : Request) (reply : Reply) : Prop :=
  ∃ s', s.replyTo engine request = (.ok reply, s') ∧
    s.process engine request = (.ok reply.flow, s'.post [reply.letter request])

/-- A request is answered by one reply, which is sent last. -/
theorem advance_request (engine : Engine σ) (h : s.live.outbox.IsOpen) (request : Request) :
    ∃ reply s', Answers engine s request (.ok reply, s') ∧
      s.replyTo engine request = (.ok reply, s') ∧
      s.process engine request = (.ok reply.flow, s'.post [reply.letter request]) ∧
      s.moments engine (.request request) = .answered request reply (engine.memory s.engine) ::
        (s.launchEvents engine request).reverse.map .handled := by
  have hanswers := replyTo_answers engine request h
  obtain ⟨reply, s', hreply⟩ : ∃ reply s', s.replyTo engine request = (.ok reply, s') := by
    cases hanswers' : s.replyTo engine request with
    | mk result s' =>
      rw [hanswers'] at hanswers
      cases hanswers <;> exact ⟨_, _, rfl⟩
  rw [hreply] at hanswers
  have hopen := hanswers.isOpen h
  exact ⟨reply, s', hanswers, hreply, process_of_replyTo hreply hopen, by simp [moments, hreply]⟩

theorem Consistent.post (h : s.Consistent) (letters : List Letter) :
    (s.post letters).Consistent where
  isOpen := h.isOpen.acceptAll letters
  program_iff := h.program_iff
  delivery_iff := h.delivery_iff
  unlaunched := h.unlaunched

theorem Consistent.of_answers {request : Request} {result : Except TransportError Reply}
    {s' : Session σ} (h : s.Consistent) (ha : Answers engine s request (result, s')) :
    s'.Consistent := by
  have launching : ∀ {source}, s.launches? request = some source →
      s.reached = .uninitialized ∧ s.live.ended = false ∧ s.delivery ≠ .running := by
    intro source hl
    have hreached : s.reached = .uninitialized := by
      unfold launches? at hl
      split at hl
      · rename_i hcond
        exact (phase_eq_uninitialized_iff h).mp hcond.2
      · cases hl
    refine ⟨hreached, h.unlaunched hreached, fun hd => ?_⟩
    have hprogram := h.program_iff.mp (h.delivery_iff.mp hd).1
    simp [hreached] at hprogram
  cases ha with
  | stayed continues =>
    obtain ⟨tables, journal, rfl⟩ := continues
    exact ⟨h.isOpen, h.program_iff, h.delivery_iff, h.unlaunched⟩
  | configured command phase program =>
    exact ⟨h.isOpen, by simp [program], by simpa using h.delivery_iff, by simp⟩
  | failed launches outcome =>
    obtain ⟨hreached, hended, hdelivery⟩ := launching launches
    have hprogram := h.program_eq_none hreached
    apply Consistent.post
    exact ⟨h.isOpen.acceptAll _, by simp [hears, hprogram], by simp [hears, hprogram, hdelivery],
      by simp [hears]⟩
  | launched launches outcome =>
    obtain ⟨hreached, hended, hdelivery⟩ := launching launches
    apply Consistent.post
    refine ⟨h.isOpen.acceptAll _, by simp [hears], ?_, by simp [hears]⟩
    cases hlast : (engine.launchEvents _ s.engine).any (·.isLast) <;> simp [hears, hended, hlast]

theorem Consistent.deliver (h : s.Consistent) (event : EngineEvent) :
    (s.deliver event).2.Consistent := by
  unfold Session.deliver
  split
  · exact h
  · rename_i hrunning
    obtain ⟨hprogram, hended⟩ := h.delivery_iff.mp hrunning
    obtain ⟨journal, hhandle⟩ := LiveState.handle_of_isOpen h.isOpen event
    have hreached : s.reached ≠ .uninitialized := by
      intro hr
      simpa [hr] using h.program_iff.mp hprogram
    rw [hhandle]
    refine ⟨h.isOpen.acceptAll [event.letter], h.program_iff, ?_, fun hr => (hreached hr).elim⟩
    cases hlast : event.isLast <;> simp [hprogram, hended]
  · exact ⟨h.isOpen, h.program_iff, h.delivery_iff, h.unlaunched⟩

theorem Consistent.shutdown (h : s.Consistent) : (s.shutdown engine).Consistent := by
  by_cases hp : s.program = none
  · rw [shutdown_of_none hp]
    exact ⟨h.isOpen, by simp [hp], by simpa [hp] using h.delivery_iff, by simp⟩
  · obtain ⟨journal, hs⟩ := shutdown_of_some engine hp
    rw [hs]
    exact ⟨h.isOpen, by simp, by simp, by simp⟩

theorem Consistent.advance (h : s.Consistent) (input : SessionInput σ) :
    (s.advance engine input).Consistent := by
  cases input with
  | request request =>
    obtain ⟨reply, s', hanswers, -, hprocess, -⟩ := advance_request engine h.isOpen request
    simp only [Session.advance, hprocess]
    exact (h.of_answers hanswers).post _
  | greeting request =>
    obtain ⟨translator, journal, reply, hgreeting⟩ := advance_greeting engine h.isOpen request
    rw [hgreeting]
    apply Consistent.post
    exact ⟨h.isOpen, h.program_iff, h.delivery_iff, h.unlaunched⟩
  | event event => exact h.deliver event
  | output stream text =>
    obtain ⟨letters, -, hprint⟩ := print_of_isOpen h.isOpen stream text
    simp only [Session.advance, hprint]
    exact h.post letters
  | progress change => exact ⟨h.isOpen, h.program_iff, h.delivery_iff, h.unlaunched⟩
  | shutdown => exact h.shutdown

theorem after_consistent (engine : Engine σ) (settings : Settings) (state : σ)
    (past : List (SessionInput σ)) :
    ((new settings state).after engine past).Consistent := by
  induction past with
  | nil => exact new_consistent settings state
  | cons input past ih => exact ih.advance input

theorem launches?_allowed {request : Request} {source : ProgramSource}
    (h : s.launches? request = some source) :
    (request.command = "launch" ∨ request.command = "attach") ∧ s.phase = .uninitialized := by
  unfold launches? at h
  split at h
  · rename_i hallowed
    exact hallowed
  · cases h

theorem Answers.rank_le {request : Request} {result : Except TransportError Reply}
    {s' : Session σ} (h : Answers engine s request (result, s')) :
    s.phase.rank ≤ s'.phase.rank := by
  cases h with
  | stayed continues =>
    obtain ⟨_, _, rfl⟩ := continues
    exact Nat.le_refl _
  | configured command phase program =>
    have hended : s.live.ended = false := by
      cases he : s.live.ended with
      | false => rfl
      | true => simp [Session.phase, he] at phase
    rw [phase]
    simp [Session.phase, hended, Phase.rank]
  | failed launches outcome =>
    rw [(launches?_allowed launches).2]
    exact Nat.zero_le _
  | launched launches outcome =>
    rw [(launches?_allowed launches).2]
    exact Nat.zero_le _

theorem deliver_rank_le (h : s.live.outbox.IsOpen) (event : EngineEvent) :
    s.phase.rank ≤ (s.deliver event).2.phase.rank := by
  unfold deliver
  split
  · exact Nat.le_refl _
  · obtain ⟨journal, hhandle⟩ := LiveState.handle_of_isOpen h event
    rw [hhandle]
    cases hlast : event.isLast with
    | true => simpa [phase] using Phase.rank_le _
    | false => simp [phase]
  · exact Nat.le_refl _

theorem phase_shutdown : (s.shutdown engine).phase = .terminated := by
  by_cases hp : s.program = none
  · simp [shutdown_of_none hp, phase]
  · obtain ⟨journal, hs⟩ := shutdown_of_some engine hp
    simp [hs, phase]

/-- A session never goes back. -/
theorem rank_le_advance (engine : Engine σ) (h : s.live.outbox.IsOpen) (input : SessionInput σ) :
    s.phase.rank ≤ (s.advance engine input).phase.rank := by
  cases input with
  | request request =>
    obtain ⟨reply, s', hanswers, -, hprocess, -⟩ := advance_request engine h request
    simp only [advance, hprocess]
    exact hanswers.rank_le
  | greeting request =>
    obtain ⟨translator, journal, reply, hgreeting⟩ := advance_greeting engine h request
    rw [hgreeting]
    exact Nat.le_refl _
  | event event => exact deliver_rank_le h event
  | output stream text =>
    obtain ⟨letters, -, hprint⟩ := print_of_isOpen h stream text
    simp only [advance, hprint]
    exact Nat.le_refl _
  | progress change => exact Nat.le_refl _
  | shutdown =>
    simp only [advance, phase_shutdown]
    exact Phase.rank_le _

theorem live_of_advance (h : s.live.outbox.IsOpen) {input : SessionInput σ}
    (hlive : (s.advance engine input).phase ≠ .terminated) : s.phase ≠ .terminated := by
  intro hphase
  have hrank := rank_le_advance engine h input
  rw [hphase] at hrank
  apply hlive
  cases hp : (s.advance engine input).phase <;> simp [hp, Phase.rank] at hrank ⊢

theorem phase_uninitialized_of_advance (h : s.live.outbox.IsOpen) {input : SessionInput σ}
    (hphase : (s.advance engine input).phase = .uninitialized) : s.phase = .uninitialized := by
  have hrank := rank_le_advance engine h input
  rw [hphase] at hrank
  cases hp : s.phase <;> simp [hp, Phase.rank] at hrank ⊢

theorem settings_advance (engine : Engine σ) (h : s.live.outbox.IsOpen) (input : SessionInput σ) :
    (s.advance engine input).settings = s.settings := by
  cases input with
  | request request =>
    obtain ⟨reply, s', hanswers, -, hprocess, -⟩ := advance_request engine h request
    simp only [advance, hprocess]
    cases hanswers with
    | stayed continues =>
      obtain ⟨_, _, rfl⟩ := continues
      rfl
    | configured | failed | launched => rfl
  | greeting request =>
    obtain ⟨translator, journal, reply, hgreeting⟩ := advance_greeting engine h request
    rw [hgreeting]
    rfl
  | event event =>
    simp only [advance, deliver]
    split <;> rfl
  | output stream text =>
    obtain ⟨letters, -, hprint⟩ := print_of_isOpen h stream text
    simp only [advance, hprint]
    rfl
  | progress change => rfl
  | shutdown =>
    by_cases hp : s.program = none
    · simp only [advance, shutdown_of_none hp]
    · obtain ⟨journal, hs⟩ := shutdown_of_some engine hp
      simp only [advance, hs]

/-- The program has ended as soon as its end has been handled, and not before. -/
theorem ended_advance_iff (h : s.Consistent) (input : SessionInput σ) :
    (s.advance engine input).live.ended = true ↔
      s.live.ended = true ∨ .handled .terminated ∈ s.moments engine input := by
  cases input with
  | request request =>
    obtain ⟨reply, s', hanswers, -, hprocess, hmoments⟩ := advance_request engine h.isOpen request
    have hended : (s.advance engine (.request request)).live.ended = s'.live.ended := by
      simp only [Session.advance, hprocess]
      rfl
    rw [hended, hanswers.ended, hmoments]
    simp [EngineEvent.isLast_iff]
  | greeting request =>
    obtain ⟨translator, journal, reply, hgreeting⟩ := advance_greeting engine h.isOpen request
    simp [hgreeting, moments, post, withOutbox]
  | event event =>
    cases hdelivery : s.delivery with
    | notStarted | stopped =>
      simp [Session.advance, deliver, hdelivery, moments, log, LiveState.log]
    | running =>
      obtain ⟨journal, hhandle⟩ := LiveState.handle_of_isOpen h.isOpen event
      simp [Session.advance, deliver, hdelivery, hhandle, moments, EngineEvent.isLast_iff,
        @eq_comm _ _ event]
  | output stream text =>
    obtain ⟨letters, -, hprint⟩ := print_of_isOpen h.isOpen stream text
    simp [Session.advance, hprint, moments, post, withOutbox]
  | progress change => simp [Session.advance, moments]
  | shutdown =>
    by_cases hp : s.program = none
    · simp [Session.advance, shutdown_of_none hp, moments]
    · obtain ⟨journal, hs⟩ := shutdown_of_some engine hp
      simp [Session.advance, hs, moments]

theorem ended_iff_handled (settings : Settings) (state : σ) {past : List (SessionInput σ)} :
    ((new settings state).after engine past).live.ended = true ↔
      .handled .terminated ∈ (new settings state).history engine past := by
  induction past with
  | nil => exact iff_of_false nofun nofun
  | cons input past ih =>
    simp only [after, history, List.mem_append]
    rw [ended_advance_iff (after_consistent engine settings state past), ih, or_comm]

end Session

end DebugServer
