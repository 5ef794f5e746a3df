import DebugServer.Proofs.Session.Traced

/-!
# The life of a session

A session is launched at most once, and configured at most once after that. Its engine is created
for the launch, and its debuggee is not touched before. When the session is over, the debuggee is
only asked to end and waited for.
-/

namespace DebugServer

/-- Whether a letter is the response to a configuration that has ended. -/
def Letter.isConfigured : Letter → Bool
  | .response _ command success _ _ => command = "configurationDone" && success
  | .event _ _ => false

/-- Whether a letter is neither the sign that a program can be configured nor that it was. -/
def Letter.IsPlain (letter : Letter) : Prop :=
  letter.isEvent "initialized" = false ∧ letter.isConfigured = false

def TracedCall.isCreate : TracedCall → Bool
  | .create _ => true
  | _ => false

variable {σ : Type}

/-- What an input may ask of the debuggee of a session that is over. -/
def SessionInput.MayCall (input : SessionInput σ) (controls : List EngineCall) : Prop :=
  controls = [] ∨
    (controls = [.terminate] ∧ ∃ request, input = .request request ∧
      (request.command = "terminate" ∨ request.command = "disconnect")) ∨
    (controls = [.terminate, .wait] ∧ input = .shutdown)

namespace Session

variable {engine : Engine σ} {s s' : Session (Traced σ)} {input : SessionInput σ}

/-- What an input does to the course of a session, its calls and its letters. -/
inductive LifeStep (input : SessionInput σ) (s s' : Session (Traced σ)) : Prop where
  | kept {controls : List EngineCall} {letters : List Letter}
      (calls : s'.engine.calls = s.engine.calls ++ controls.map .control)
      (idle : s.program = none → controls = [])
      (closing : s.phase = .terminated ∨ input = .shutdown → input.MayCall controls)
      (sent : s'.live.outbox.letters = s.live.outbox.letters ++ letters)
      (plain : ∀ letter ∈ letters, letter.IsPlain)
      (program : s'.program = s.program ∨ s'.program = none)
      (reached : s'.reached = s.reached ∨ s'.reached = .terminated)
  | configured {request : Request} {call : EngineCall} {letter : Letter}
      (requested : input = .request request)
      (calls : s'.engine.calls = s.engine.calls ++ [.control call])
      (debugged : s.program ≠ none) (before : s.phase = .configuring)
      (sent : s'.live.outbox.letters = s.live.outbox.letters ++ [letter])
      (plain : letter.isEvent "initialized" = false) (after : s'.reached = .running)
  | failed {request : Request} {calls : List TracedCall} {letters : List Letter}
      (requested : input = .request request) (before : s.phase = .uninitialized)
      (called : s'.engine.calls = s.engine.calls ++ calls)
      (fails : calls ∈ Engine.failedLaunches)
      (sent : s'.live.outbox.letters = s.live.outbox.letters ++ letters)
      (plain : ∀ letter ∈ letters, letter.IsPlain) (program : s'.program = s.program)
      (after : s'.reached = .terminated)
  | launched {request : Request} {told : List Letter} {letter : Letter}
      (requested : input = .request request)
      (command : request.command = "launch" ∨ request.command = "attach")
      (before : s.phase = .uninitialized)
      (called : s'.engine.calls = s.engine.calls ++ Engine.launchCalls)
      (sent : s'.live.outbox.letters =
        s.live.outbox.letters ++ (told ++ [SessionEvent.initialized.letter, letter]))
      (plainTold : ∀ letter ∈ told, letter.IsPlain) (plain : letter.IsPlain)
      (after : s'.reached = .configuring)

theorem letter_isPlain {reply : Reply} {request : Request}
    (h : request.command = "configurationDone" → reply.succeeded = false) :
    (reply.letter request).IsPlain := by
  refine ⟨rfl, ?_⟩
  by_cases hc : request.command = "configurationDone"
  · simp [Reply.letter, Letter.isConfigured, h hc]
  · simp [Reply.letter, Letter.isConfigured, hc]

theorem letters_post (letters : List Letter) :
    (s.post letters).live.outbox.letters = s.live.outbox.letters ++ letters :=
  Outbox.letters_acceptAll _ letters

theorem letters_hears_post (events : List EngineEvent) (before letters : List Letter) :
    (((s.hears events).post before).post letters).live.outbox.letters =
      s.live.outbox.letters ++ (events.map (·.letter) ++ (before ++ letters)) := by
  rw [letters_post, letters_post, hears, Outbox.letters_acceptAll]
  simp only [List.append_assoc]

theorem event_letter_isPlain (event : EngineEvent) : event.letter.IsPlain := by
  cases event <;> exact ⟨by simp [EngineEvent.letter, SessionEvent.letter, Letter.isEvent], rfl⟩

theorem event_letters_isPlain (events : List EngineEvent) :
    ∀ letter ∈ events.map (·.letter), letter.IsPlain := by
  intro letter hletter
  obtain ⟨event, -, rfl⟩ := List.mem_map.mp hletter
  exact event_letter_isPlain event

theorem request_lifeStep (h : s.live.outbox.IsOpen) (request : Request) :
    LifeStep (.request request) s (s.advance engine.traced (.request request)) := by
  obtain ⟨reply, s', hanswers, -, hprocess, -⟩ := advance_request engine.traced h request
  simp only [advance, hprocess]
  cases hanswers with
  | @stayed _ calls _ continues idle terminated launches configures flow =>
    obtain ⟨_, _, rfl⟩ := continues
    refine .kept (Engine.calls_effects_traced _ calls) idle ?_ (letters_post _) ?_ (Or.inl rfl)
      (Or.inl rfl)
    · rintro (hover | hinput)
      · rcases terminated hover with hcalls | ⟨hcalls, hcommand⟩
        · exact Or.inl hcalls
        · exact Or.inr (Or.inl ⟨hcalls, request, rfl, hcommand⟩)
      · cases hinput
    · intro letter hletter
      rw [List.mem_singleton.mp hletter]
      exact letter_isPlain configures
  | @configured call _ command phase program =>
    exact .configured rfl (Engine.calls_effect_traced _ call) program phase (letters_post _) rfl rfl
  | @failed source refusal state _ _ _ text launches outcome =>
    obtain ⟨calls, hcalls, -, hfails⟩ := Engine.calls_launch_traced outcome
    refine .failed rfl (launches?_allowed launches).2 hcalls (hfails rfl)
      (letters_hears_post _ _ _) ?_ rfl rfl
    intro letter hletter
    rcases List.mem_append.mp hletter with htold | _ | ⟨_, _ | ⟨_, ⟨⟩⟩⟩
    · exact event_letters_isPlain _ letter htold
    · exact ⟨by simp [SessionEvent.letter, Letter.isEvent], rfl⟩
    · exact letter_isPlain fun _ => rfl
  | @launched source program state _ _ launches outcome =>
    obtain ⟨calls, hcalls, hlaunch, -⟩ := Engine.calls_launch_traced outcome
    rw [hlaunch rfl] at hcalls
    have hcommand := (launches?_allowed launches).1
    refine .launched rfl hcommand (launches?_allowed launches).2 hcalls (letters_hears_post _ _ _)
      (event_letters_isPlain _) ?_ rfl
    apply letter_isPlain
    rcases hcommand with hcommand | hcommand <;> simp [hcommand]

/-- Inputs other than requests leave the calls alone, unless they shut the session down. -/
theorem kept_of_same (hcalls : s'.engine.calls = s.engine.calls) {letters : List Letter}
    (hsent : s'.live.outbox.letters = s.live.outbox.letters ++ letters)
    (hplain : ∀ letter ∈ letters, letter.IsPlain)
    (hprogram : s'.program = s.program ∨ s'.program = none)
    (hreached : s'.reached = s.reached ∨ s'.reached = .terminated) : LifeStep input s s' := by
  have hnone : s'.engine.calls = s.engine.calls ++ ([] : List EngineCall).map .control := by
    simp [hcalls]
  exact .kept hnone (fun _ => rfl) (fun _ => Or.inl rfl) hsent hplain hprogram hreached

theorem kept_of_silent (hcalls : s'.engine.calls = s.engine.calls)
    (hsilent : s'.live.outbox.letters = s.live.outbox.letters)
    (hprogram : s'.program = s.program ∨ s'.program = none)
    (hreached : s'.reached = s.reached ∨ s'.reached = .terminated) : LifeStep input s s' := by
  refine kept_of_same hcalls (?_ : _ = _ ++ []) ?_ hprogram hreached
  · rw [hsilent, List.append_nil]
  · intro letter hletter
    cases hletter

theorem shutdown_lifeStep (engine : Engine σ) :
    LifeStep (σ := σ) .shutdown s (s.shutdown engine.traced) := by
  by_cases hp : s.program = none
  · rw [shutdown_of_none hp]
    exact kept_of_silent rfl rfl (Or.inl rfl) (Or.inr rfl)
  · obtain ⟨journal, hs⟩ := shutdown_of_some engine.traced hp
    rw [hs]
    refine .kept (Engine.calls_effects_traced _ _) (fun hn => (hp hn).elim)
      (fun _ => Or.inr (Or.inr ⟨rfl, rfl⟩)) (List.append_nil _).symm ?_ (Or.inr rfl) (Or.inr rfl)
    intro letter hletter
    cases hletter

theorem advance_lifeStep (engine : Engine σ) (h : s.live.outbox.IsOpen) (input : SessionInput σ) :
    LifeStep input s (s.advance engine.traced input.traced) := by
  cases input with
  | request request => exact request_lifeStep h request
  | greeting request =>
    obtain ⟨translator, journal, reply, hgreeting⟩ := advance_greeting engine.traced h request
    simp only [SessionInput.traced, hgreeting]
    refine kept_of_same rfl (letters_post _) ?_ (Or.inl rfl) (Or.inl rfl)
    intro letter hletter
    rw [List.mem_singleton.mp hletter]
    exact letter_isPlain (by simp)
  | event event =>
    simp only [SessionInput.traced, advance, deliver]
    cases hdelivery : s.delivery with
    | notStarted => exact kept_of_silent rfl rfl (Or.inl rfl) (Or.inl rfl)
    | stopped => exact kept_of_silent rfl rfl (Or.inl rfl) (Or.inl rfl)
    | running =>
      obtain ⟨_, hhandle⟩ := LiveState.handle_of_isOpen h event
      simp only [hhandle]
      refine kept_of_same rfl (Outbox.letters_acceptAll s.live.outbox [event.letter]) ?_
        (Or.inl rfl) (Or.inl rfl)
      intro letter hletter
      rw [List.mem_singleton.mp hletter]
      exact event_letter_isPlain event
  | output stream text =>
    obtain ⟨letters, houtput, hprint⟩ := print_of_isOpen h stream text
    simp only [SessionInput.traced, advance, hprint]
    refine kept_of_same rfl (letters_post _) (fun letter hletter => ?_) (Or.inl rfl) (Or.inl rfl)
    have hname := houtput letter hletter
    cases letter with
    | response => cases hname
    | event name body =>
      obtain rfl : name = "output" := of_decide_eq_true hname
      exact ⟨by simp [Letter.isEvent], rfl⟩
  | progress change =>
    exact kept_of_silent rfl rfl (Or.inl rfl) (Or.inl rfl)
  | shutdown => exact shutdown_lifeStep engine

/-- A session that went through its life in order. -/
structure InOrder (s : Session (Traced σ)) : Prop where
  uncalled : s.reached = .uninitialized → s.engine.calls = []
  unannounced : s.reached = .uninitialized →
    s.live.outbox.letters.countP (·.isEvent "initialized") = 0
  unconfigured : s.reached = .uninitialized ∨ s.reached = .configuring →
    s.live.outbox.letters.countP Letter.isConfigured = 0
  announced : s.live.outbox.letters.countP (·.isEvent "initialized") ≤ 1
  configured : s.live.outbox.letters.countP Letter.isConfigured ≤ 1
  calls : (s.program = none ∧ (s.engine.calls = [] ∨ s.engine.calls ∈ Engine.failedLaunches)) ∨
    ∃ controls : List EngineCall, s.engine.calls = Engine.launchCalls ++ controls.map .control

theorem countP_plain {letters : List Letter} (h : ∀ letter ∈ letters, letter.IsPlain) :
    letters.countP (·.isEvent "initialized") = 0 ∧ letters.countP Letter.isConfigured = 0 := by
  constructor
  · exact List.countP_eq_zero.mpr fun letter hletter => by simp [(h letter hletter).1]
  · exact List.countP_eq_zero.mpr fun letter hletter => by simp [(h letter hletter).2]

theorem new_inOrder (settings : Settings) (state : σ) : (new settings ⟨state, []⟩).InOrder where
  uncalled _ := rfl
  unannounced _ := rfl
  unconfigured _ := rfl
  announced := Nat.zero_le _
  configured := Nat.zero_le _
  calls := Or.inl ⟨rfl, Or.inl rfl⟩

theorem inOrder_of_late (hlate : s.reached = .running ∨ s.reached = .terminated)
    (announced : s.live.outbox.letters.countP (·.isEvent "initialized") ≤ 1)
    (configured : s.live.outbox.letters.countP Letter.isConfigured ≤ 1)
    (calls : (s.program = none ∧
        (s.engine.calls = [] ∨ s.engine.calls ∈ Engine.failedLaunches)) ∨
      ∃ controls : List EngineCall,
        s.engine.calls = Engine.launchCalls ++ controls.map .control) : s.InOrder := by
  have hlaunched : s.reached ≠ .uninitialized ∧ s.reached ≠ .configuring := by
    rcases hlate with h | h <;> simp [h]
  refine ⟨fun hr => (hlaunched.1 hr).elim, fun hr => (hlaunched.1 hr).elim, ?_, announced,
    configured, calls⟩
  rintro (hr | hr)
  · exact (hlaunched.1 hr).elim
  · exact (hlaunched.2 hr).elim

theorem InOrder.step (h : s.InOrder) (hs : s.Consistent) (hstep : LifeStep input s s') :
    s'.InOrder := by
  cases hstep with
  | @kept controls letters calls idle closing sent plain program reached =>
    obtain ⟨hann, hconf⟩ := countP_plain plain
    have hreached : s'.reached ≠ .terminated → s'.reached = s.reached :=
      fun hne => reached.resolve_right hne
    have hidle : s.reached = .uninitialized → controls = [] :=
      fun hr => idle (hs.program_eq_none hr)
    refine ⟨fun hr => ?_, fun hr => ?_, fun hr => ?_, ?_, ?_, ?_⟩
    · have hbefore : s.reached = .uninitialized := (hreached (by simp [hr])).symm.trans hr
      rw [calls, hidle hbefore, h.uncalled hbefore]
      rfl
    · have hbefore : s.reached = .uninitialized := (hreached (by simp [hr])).symm.trans hr
      rw [sent, List.countP_append, hann, h.unannounced hbefore]
    · have hbefore : s.reached = .uninitialized ∨ s.reached = .configuring := by
        rw [hreached (by rcases hr with hr | hr <;> simp [hr])] at hr
        exact hr
      rw [sent, List.countP_append, hconf, h.unconfigured hbefore]
    · rw [sent, List.countP_append, hann]
      exact h.announced
    · rw [sent, List.countP_append, hconf]
      exact h.configured
    · rcases h.calls with ⟨hp, hcalls⟩ | ⟨earlier, hcalls⟩
      · refine Or.inl ⟨program.elim (fun hsame => hsame.trans hp) id, ?_⟩
        rw [calls, idle hp, List.map_nil, List.append_nil]
        exact hcalls
      · refine Or.inr ⟨earlier ++ controls, ?_⟩
        rw [calls, hcalls, List.map_append, List.append_assoc]
  | @configured request call letter requested calls debugged before sent plain after =>
    have hreached : s.reached = .configuring :=
      (reached_eq_phase (by simp [before])).trans before
    apply inOrder_of_late (Or.inl after)
    · rw [sent, List.countP_append, List.countP_singleton, plain]
      exact h.announced
    · rw [sent, List.countP_append, h.unconfigured (Or.inr hreached), Nat.zero_add]
      exact List.countP_le_length
    · rcases h.calls with ⟨hp, -⟩ | ⟨earlier, hcalls⟩
      · exact (debugged hp).elim
      · refine Or.inr ⟨earlier ++ [call], ?_⟩
        rw [calls, hcalls, List.map_append, List.append_assoc]
        rfl
  | @failed request calls letters requested before called fails sent plain program after =>
    obtain ⟨hann, hconf⟩ := countP_plain plain
    have hreached := (phase_eq_uninitialized_iff hs).mp before
    apply inOrder_of_late (Or.inr after)
    · rw [sent, List.countP_append, hann]
      exact h.announced
    · rw [sent, List.countP_append, hconf]
      exact h.configured
    · refine Or.inl ⟨program.trans (hs.program_eq_none hreached), Or.inr ?_⟩
      rw [called, h.uncalled hreached]
      exact fails
  | @launched request told letter requested command before called sent plainTold plain after =>
    have hreached := (phase_eq_uninitialized_iff hs).mp before
    obtain ⟨hann, hconf⟩ := countP_plain plainTold
    have hsigns :
        (told ++ [SessionEvent.initialized.letter, letter]).countP (·.isEvent "initialized") = 1 ∧
          (told ++ [SessionEvent.initialized.letter, letter]).countP Letter.isConfigured = 0 := by
      constructor
      · rw [List.countP_append, hann, List.countP_cons, List.countP_singleton, plain.1]
        rfl
      · rw [List.countP_append, hconf, List.countP_cons, List.countP_singleton, plain.2]
        rfl
    refine ⟨fun hr => ?_, fun hr => ?_, fun hr => ?_, ?_, ?_, ?_⟩
    · simp [after] at hr
    · simp [after] at hr
    · rw [sent, List.countP_append, hsigns.2, h.unconfigured (Or.inl hreached)]
    · apply Nat.le_of_eq
      rw [sent, List.countP_append, hsigns.1, h.unannounced hreached]
    · rw [sent, List.countP_append, hsigns.2, h.unconfigured (Or.inl hreached)]
      exact Nat.zero_le 1
    · refine Or.inr ⟨[], ?_⟩
      rw [called, h.uncalled hreached]
      rfl

theorem watched_inOrder (engine : Engine σ) (settings : Settings) (state : σ)
    (past : List (SessionInput σ)) : (watched engine settings state past).InOrder := by
  induction past with
  | nil => exact new_inOrder settings state
  | cons input past ih =>
    have hs := after_consistent engine.traced settings ⟨state, []⟩ (past.map SessionInput.traced)
    exact ih.step hs (advance_lifeStep engine hs.isOpen input)

/-- The debuggee is first touched after a launch that succeeded. -/
theorem launchCalls_isPrefix {controls : List EngineCall} {earlier later : List TracedCall}
    {call : EngineCall}
    (h : Engine.launchCalls ++ controls.map .control = earlier ++ .control call :: later) :
    Engine.launchCalls <+: earlier := by
  have hlaunch : Engine.launchCalls <+: earlier ++ .control call :: later := ⟨_, h⟩
  have hearlier : earlier ++ [.control call] <+: earlier ++ .control call :: later := by
    refine ⟨later, ?_⟩
    simp
  by_cases hlength : Engine.launchCalls.length ≤ earlier.length
  · exact List.prefix_of_prefix_length_le hlaunch (List.prefix_append _ _) hlength
  · have hshort : earlier ++ [.control call] <+: Engine.launchCalls :=
      List.prefix_of_prefix_length_le hearlier hlaunch (by simp; omega)
    have hmem : TracedCall.control call ∈ Engine.launchCalls :=
      hshort.subset (List.mem_append_right _ List.mem_cons_self)
    simp [Engine.launchCalls] at hmem

theorem InOrder.created_once (h : s.InOrder) : s.engine.calls.countP TracedCall.isCreate ≤ 1 := by
  rcases h.calls with ⟨-, hcalls | hcalls⟩ | ⟨controls, hcalls⟩
  · simp [hcalls]
  · simp only [Engine.failedLaunches, List.mem_cons, List.not_mem_nil, or_false] at hcalls
    rcases hcalls with hcalls | hcalls | hcalls <;> rw [hcalls] <;> decide
  · have hcontrols : (controls.map TracedCall.control).countP TracedCall.isCreate = 0 := by
      simp [List.countP_eq_zero, TracedCall.isCreate]
    rw [hcalls, List.countP_append, hcontrols]
    decide

theorem InOrder.launched_first (h : s.InOrder) {earlier later : List TracedCall} {call : EngineCall}
    (hcall : s.engine.calls = earlier ++ .control call :: later) :
    Engine.launchCalls <+: earlier := by
  have hmem : TracedCall.control call ∈ s.engine.calls := by simp [hcall]
  rcases h.calls with ⟨-, hcalls | hcalls⟩ | ⟨controls, hcalls⟩
  · simp [hcalls] at hmem
  · simp only [Engine.failedLaunches, List.mem_cons, List.not_mem_nil, or_false] at hcalls
    rcases hcalls with hcalls | hcalls | hcalls <;> simp [hcalls] at hmem
  · exact launchCalls_isPrefix (hcalls.symm.trans hcall)

/-- How the life of a session goes on with an input. -/
structure Orderly (input : SessionInput σ) (s s' : Session (Traced σ)) : Prop where
  forward : s.phase.rank ≤ s'.phase.rank
  created_once : s'.engine.calls.countP TracedCall.isCreate ≤ 1
  announced_once : s'.live.outbox.letters.countP (·.isEvent "initialized") ≤ 1
  /-- Only a launch that succeeded is announced. -/
  announced_by_launch : ∃ letters, s'.live.outbox.letters = s.live.outbox.letters ++ letters ∧
    (∀ letter ∈ letters, letter.isEvent "initialized" → ∃ request, input = .request request ∧
      (request.command = "launch" ∨ request.command = "attach") ∧
      s'.engine.calls = s.engine.calls ++ Engine.launchCalls)
  configured_once : s'.live.outbox.letters.countP Letter.isConfigured ≤ 1
  launched_first : ∀ {earlier later : List TracedCall} {call : EngineCall},
    s'.engine.calls = earlier ++ .control call :: later → Engine.launchCalls <+: earlier
  /-- Once it is over, the debuggee is only asked to end, by three inputs, and waited for by one. -/
  closing : s.phase = .terminated ∨ input = .shutdown →
    ∃ controls, s'.engine.calls = s.engine.calls ++ controls.map .control ∧ input.MayCall controls

/-- Whatever has happened and whatever the engine answered, a session goes on in an orderly way. -/
theorem orderly (engine : Engine σ) (settings : Settings) (state : σ) (past : List (SessionInput σ))
    (input : SessionInput σ) :
    Orderly input (watched engine settings state past)
      (watched engine settings state (input :: past)) := by
  have hs : (watched engine settings state past).Consistent :=
    after_consistent engine.traced settings ⟨state, []⟩ (past.map SessionInput.traced)
  have horder := watched_inOrder engine settings state (input :: past)
  have hstep : LifeStep input (watched engine settings state past)
      (watched engine settings state (input :: past)) := advance_lifeStep engine hs.isOpen input
  refine ⟨rank_le_advance engine.traced hs.isOpen input.traced, horder.created_once,
    horder.announced, ?_, horder.configured, horder.launched_first, ?_⟩
  · cases hstep with
    | kept calls idle closing sent plain =>
      exact ⟨_, sent, fun letter hletter hname => by simp [(plain letter hletter).1] at hname⟩
    | configured requested calls debugged before sent plain =>
      refine ⟨_, sent, fun letter hletter hname => ?_⟩
      rw [List.mem_singleton.mp hletter, plain] at hname
      cases hname
    | failed requested before called fails sent plain =>
      exact ⟨_, sent, fun letter hletter hname => by simp [(plain letter hletter).1] at hname⟩
    | launched requested command before called sent plain =>
      exact ⟨_, sent, fun _ _ _ => ⟨_, requested, command, called⟩⟩
  · have hrequest : ∀ {request}, input = .request request → input ≠ .shutdown := by
      rintro _ rfl hshutdown
      cases hshutdown
    intro hover
    cases hstep with
    | kept calls idle closing => exact ⟨_, calls, closing hover⟩
    | configured requested calls debugged before =>
      exact (hover.elim (fun hphase => by simp [before] at hphase) (hrequest requested)).elim
    | failed requested before =>
      exact (hover.elim (fun hphase => by simp [before] at hphase) (hrequest requested)).elim
    | launched requested command before =>
      exact (hover.elim (fun hphase => by simp [before] at hphase) (hrequest requested)).elim

end Session

end DebugServer
