import DebugServer.Proofs.Session.History

/-!
# Responses of a session

Whatever comes of a request, one response is sent to it. Events and output are sent in between, and
all letters go out in order through one outbox.
-/

namespace DebugServer

/-- What a response has to carry: the number and the command of its request. -/
def Request.key (request : Request) : Int64 × String :=
  (request.seq, request.command)

namespace Session

variable {σ : Type} {engine : Engine σ} {s s' s'' : Session σ}

/-- A session that goes on sends letters, among them the responses to these requests. -/
def Sends (s s' : Session σ) (answers : List (Int64 × String)) : Prop :=
  ∃ letters, s'.live.outbox = s.live.outbox.acceptAll letters ∧
    letters.filterMap Letter.answered? = answers

theorem Sends.refl (s : Session σ) : s.Sends s [] :=
  ⟨[], rfl, rfl⟩

theorem Sends.trans {first second : List (Int64 × String)} (h : s.Sends s' first)
    (h' : s'.Sends s'' second) : s.Sends s'' (first ++ second) := by
  obtain ⟨letters, houtbox, hanswers⟩ := h
  obtain ⟨letters', houtbox', hanswers'⟩ := h'
  refine ⟨letters ++ letters', ?_, ?_⟩
  · rw [houtbox', houtbox, Outbox.acceptAll_append]
  · rw [List.filterMap_append, hanswers, hanswers']

theorem Sends.isOpen {answers : List (Int64 × String)} (h : s.Sends s' answers)
    (ho : s.live.outbox.IsOpen) : s'.live.outbox.IsOpen := by
  obtain ⟨letters, houtbox, -⟩ := h
  rw [houtbox]
  exact ho.acceptAll letters

/-- Events are told by events, which answer nothing. -/
theorem hears_sends (s : Session σ) (events : List EngineEvent) : s.Sends (s.hears events) [] := by
  refine ⟨events.map (·.letter), rfl, List.filterMap_eq_nil_iff.mpr fun letter hletter => ?_⟩
  obtain ⟨event, -, rfl⟩ := List.mem_map.mp hletter
  cases event <;> rfl

/-- Whether a request ends the session: it disconnects, or launches a program and the engine
fails. -/
def ends (engine : Engine σ) (s : Session σ) (request : Request) : Bool :=
  request.command = "disconnect" || match s.launches? request with
    | some source => !(engine.launch source s.engine).1.isOk
    | none => false

theorem ends_of_not_launched {request : Request} (h : s.launches? request = none) :
    s.ends engine request = true ↔ request.command = "disconnect" := by
  simp [ends, h]

theorem ends_of_launched {request : Request} {source : ProgramSource}
    (h : s.launches? request = some source) :
    s.ends engine request = true ↔ (engine.launch source s.engine).1.isOk = false := by
  have hcommand : request.command ≠ "disconnect" := by
    rcases (launches?_allowed h).1 with hc | hc <;> simp [hc]
  simp [ends, h, hcommand]

theorem Answers.sends {request : Request} {reply : Reply}
    (h : Answers engine s request (.ok reply, s')) :
    s.Sends (s'.post [reply.letter request]) [request.key] ∧
      (reply.flow = .stop ↔ s.ends engine request = true) := by
  cases h with
  | stayed continues idle terminated launches configures flow =>
    obtain ⟨_, _, rfl⟩ := continues
    exact ⟨⟨_, rfl, rfl⟩, flow.trans (ends_of_not_launched launches).symm⟩
  | configured command phase program =>
    have hl : s.launches? request = none := launches?_eq_none (by simp [command])
    refine ⟨⟨_, rfl, rfl⟩, ?_⟩
    rw [ends_of_not_launched hl, command]
    simp [Reply.done]
  | @failed source refusal state _ _ _ text launches outcome =>
    have hheard := s.hears_sends (engine.launchEvents source s.engine)
    refine ⟨hheard.trans ⟨[(SessionEvent.output .stderr text).letter, _], rfl, rfl⟩,
      iff_of_true rfl ?_⟩
    rw [ends_of_launched launches, outcome]
    rfl
  | @launched source program state _ _ launches outcome =>
    have hheard := s.hears_sends (engine.launchEvents source s.engine)
    refine ⟨hheard.trans ⟨[SessionEvent.initialized.letter, _], rfl, rfl⟩, ?_⟩
    rw [ends_of_launched launches, outcome]
    exact iff_of_false nofun nofun

theorem process_sends (engine : Engine σ) (h : s.live.outbox.IsOpen) (request : Request) :
    ∃ flow s', s.process engine request = (.ok flow, s') ∧ s.Sends s' [request.key] ∧
      (flow = .stop ↔ s.ends engine request = true) := by
  obtain ⟨reply, s', hanswers, -, hprocess, -⟩ := advance_request engine h request
  obtain ⟨hsends, hflow⟩ := hanswers.sends
  exact ⟨reply.flow, _, hprocess, hsends, hflow⟩

theorem answer_sends (engine : Engine σ) (h : s.live.outbox.IsOpen) (request : Request) :
    ∃ flow s', Server.answer engine s request = (.ok flow, s') ∧ s.Sends s' [request.key] ∧
      (flow = .stop ↔ s.ends engine request = true) := by
  unfold Server.answer
  split
  · rename_i hcommand
    obtain ⟨translator, journal, reply, hanswer⟩ := answerInitialize_of_isOpen h request
    refine ⟨.proceed, _, by rw [hanswer]; rfl, ⟨[reply.letter request], rfl, rfl⟩, ?_⟩
    rw [ends_of_not_launched (launches?_eq_none (by simp [hcommand])), hcommand]
    simp
  · obtain ⟨flow, s', hprocess, hsends, hflow⟩ := process_sends engine h request
    rw [hprocess]
    cases flow with
    | stop => exact ⟨.stop, _, rfl, hsends, hflow⟩
    | proceed => exact ⟨.proceed, _, rfl, hsends, hflow⟩

end Session

end DebugServer
