import DebugServer.Proofs.Session.Effects

/-!
# The course of a session

What a request can lead to, all cases in one place: the session stays where it is, its
configuration ends, or it is launched, with or without success.
-/

namespace DebugServer

namespace Command

theorem ofName?_name (c : Command) : ofName? c.name = some c := by
  cases c <;> rfl

theorem ofName?_eq_some_iff {name : String} {c : Command} :
    ofName? name = some c ↔ c.name = name := by
  constructor
  · intro h
    simpa using List.find?_some h
  · rintro rfl
    exact ofName?_name c

theorem name_inj {c d : Command} : c.name = d.name ↔ c = d := by
  refine ⟨fun h => ?_, congrArg name⟩
  have hc := ofName?_name c
  rw [h, ofName?_name d] at hc
  exact (Option.some.inj hc).symm

theorem refusal?_terminated {c : Command} (h : c.refusal? .terminated = none) :
    c = .terminate ∨ c = .disconnect := by
  cases c <;> simp_all [refusal?]

theorem refusal?_uninitialized {c : Command} (h : c.refusal? .uninitialized = none) :
    c = .launch ∨ c = .attach ∨ c = .terminate ∨ c = .disconnect := by
  cases c <;> simp_all [refusal?]

theorem refusal?_launched {phase : Phase} {c : Command} {refusal : Refusal}
    (hp : phase = .configuring ∨ phase = .running) (h : c.refusal? phase = some refusal) :
    c = .launch ∨ c = .attach := by
  rcases hp with rfl | rfl <;> cases c <;> simp_all [refusal?]

theorem refusal?_of_launched {phase : Phase} {c : Command}
    (hp : phase = .configuring ∨ phase = .running) (hl : c ≠ .launch) (ha : c ≠ .attach) :
    c.refusal? phase = none := by
  apply Option.eq_none_iff_forall_ne_some.mpr
  intro refusal hrefusal
  rcases refusal?_launched hp hrefusal with h | h
  · exact hl h
  · exact ha h

theorem refusal?_launch {phase : Phase} {c : Command} (h : c.refusal? phase = none)
    (hc : c = .launch ∨ c = .attach) : phase = .uninitialized := by
  rcases hc with rfl | rfl <;> cases phase <;> simp_all [refusal?]

end Command

namespace Session

variable {σ : Type} {engine : Engine σ} {s : Session σ} {request : Request}

/-- The program that a request gets launched: the session is not launched yet, and the request or
the settings name one. -/
def launches? (s : Session σ) (request : Request) : Option ProgramSource :=
  if (request.command = "launch" ∨ request.command = "attach") ∧ s.phase = .uninitialized then
    match request.decodeArguments LaunchArguments.format with
    | .ok a => s.launchSource? a
    | .error _ => none
  else none

/-- The session after these events. -/
def handleAll (s : Session σ) (events : List EngineEvent) : Session σ :=
  { s with live := events.foldl LiveState.handle s.live }

/-- The session after events of which the client is told. -/
def hears (s : Session σ) (events : List EngineEvent) : Session σ :=
  { s with live := { s.live with
      tables := events.foldl Tables.after s.live.tables
      outbox := s.live.outbox.acceptAll (events.map (·.letter))
      ended := s.live.ended || events.any (·.isLast) } }

theorem handleAll_of_isOpen (h : s.live.outbox.IsOpen) (events : List EngineEvent) :
    ∃ journal, s.handleAll events = { s with live := { s.live with journal } }.hears events := by
  obtain ⟨journal, hlive⟩ := LiveState.foldl_handle_of_isOpen h events
  refine ⟨journal, ?_⟩
  unfold handleAll
  rw [hlive]
  rfl

/-- What became of a request. -/
inductive Answers (engine : Engine σ) (s : Session σ) (request : Request) :
    Except TransportError Reply × Session σ → Prop where
  | stayed {reply : Reply} {calls : List EngineCall} {s' : Session σ}
      (continues : Continues engine s calls s')
      (idle : s.program = none → calls = [])
      (terminated : s.phase = .terminated → calls = [] ∨ calls = [.terminate] ∧
        (request.command = "terminate" ∨ request.command = "disconnect"))
      (launches : s.launches? request = none)
      (configures : request.command = "configurationDone" → reply.succeeded = false)
      (flow : reply.flow = .stop ↔ request.command = "disconnect") :
      Answers engine s request (.ok reply, s')
  | configured {call : EngineCall} {journal : Array Log.Record}
      (command : request.command = "configurationDone") (phase : s.phase = .configuring)
      (program : s.program ≠ none) :
      Answers engine s request (.ok .done,
        { s with
          live := { s.live with journal }
          engine := engine.effect s.engine call, reached := .running })
  | failed {source : ProgramSource} {refusal : Refusal} {state : σ} {connected stopAtEntry : Bool}
      {journal : Array Log.Record} {text : String} (launches : s.launches? request = some source)
      (outcome : engine.launch source s.engine = (.error refusal, state)) :
      Answers engine s request (.ok ⟨.error refusal, .stop⟩,
        ({ s with
          stopAtEntry, connected, live := { s.live with journal }
          engine := state, reached := .terminated : Session σ }.hears
            (engine.launchEvents source s.engine)).post
              [(SessionEvent.output .stderr text).letter])
  | launched {source : ProgramSource} {program : Program} {state : σ} {stopAtEntry : Bool}
      {journal : Array Log.Record} (launches : s.launches? request = some source)
      (outcome : engine.launch source s.engine = (.ok program, state)) :
      Answers engine s request (.ok .done,
        ({ s with
          stopAtEntry, connected := true, live := { s.live with journal }
          engine := state, program := some program, reached := .configuring
          delivery := if (engine.launchEvents source s.engine).any (·.isLast) then .stopped
            else .running : Session σ }.hears (engine.launchEvents source s.engine)).post
              [SessionEvent.initialized.letter])

theorem launches?_eq_none
    (h : request.command = "launch" ∨ request.command = "attach" → s.phase ≠ .uninitialized) :
    s.launches? request = none := by
  unfold launches?
  exact if_neg fun hl => h hl.1 hl.2

theorem Answers.after_log {record : Log.Record} {outcome : Except TransportError Reply × Session σ}
    (h : Answers engine (s.log record) request outcome) : Answers engine s request outcome := by
  cases h with
  | stayed continues idle terminated launches configures flow =>
    exact .stayed continues.after_log idle terminated launches configures flow
  | configured command phase program => exact .configured command phase program
  | failed launches outcome => exact .failed launches outcome
  | launched launches outcome => exact .launched launches outcome

theorem perform_controls (engine : Engine σ) (s : Session σ) (request : Request) {c : Command}
    (hl : c ≠ .launch) (ha : c ≠ .attach) (hconf : c ≠ .configurationDone) (ht : c ≠ .terminate)
    (hd : c ≠ .disconnect) :
    ∃ outcome, s.perform engine request c = answered outcome ∧ Controls engine s outcome := by
  cases c with
  | setBreakpoints => exact ⟨_, rfl, withArguments_controls setBreakpoints_controls⟩
  | setFunctionBreakpoints => exact ⟨_, rfl, withArguments_controls setFunctionBreakpoints_controls⟩
  | resume => exact ⟨_, rfl, withArguments_controls resume_controls⟩
  | stepIn => exact ⟨_, rfl, withArguments_controls (step_controls _)⟩
  | next => exact ⟨_, rfl, withArguments_controls (step_controls _)⟩
  | stepOut => exact ⟨_, rfl, withArguments_controls (step_controls _)⟩
  | pause => exact ⟨_, rfl, withArguments_controls pause_controls⟩
  | threads => exact ⟨_, rfl, threads_controls⟩
  | stackTrace => exact ⟨_, rfl, withArguments_controls stackTrace_controls⟩
  | scopes => exact ⟨_, rfl, withArguments_controls scopes_controls⟩
  | listVariables => exact ⟨_, rfl, withArguments_controls listVariables_controls⟩
  | launch | attach | configurationDone | terminate | disconnect => contradiction

/-- A refusal changes nothing but the journal. -/
theorem refused_answers (refusal : Refusal) {s' : Session σ} (hs : Continues engine s [] s')
    (hl : s.launches? request = none) (hd : request.command ≠ "disconnect") :
    Answers engine s request (.ok (.refuse refusal), s') :=
  .stayed hs (fun _ => rfl) (fun _ => .inl rfl) hl (fun _ => rfl) (by simp [Reply.refuse, hd])

/-- The end of a configuration is refused, or the engine is asked to let the main thread go. -/
theorem finishConfiguration_cases (engine : Engine σ) (s : Session σ) :
    (∃ refusal, s.finishConfiguration engine = (.refuse refusal, s)) ∨
      s.phase = .configuring ∧ s.program ≠ none ∧ ∃ call,
        s.finishConfiguration engine =
          (.done, { s with engine := engine.effect s.engine call, reached := .running }) ∨
        ∃ refusal, s.finishConfiguration engine =
          (.refuse refusal, { s with engine := engine.effect s.engine call }) := by
  unfold finishConfiguration
  split
  · exact .inl ⟨_, rfl⟩
  rename_i hphase
  split
  · exact .inl ⟨_, rfl⟩
  rename_i hprogram
  let call : EngineCall := if s.stopAtEntry then .step mainThread .entry else .resume mainThread
  have hcall : (if s.stopAtEntry then engine.step mainThread .entry s.engine
      else engine.resume mainThread s.engine).2 = engine.effect s.engine call := by
    by_cases h : s.stopAtEntry <;> simp [call, h, Engine.effect]
  refine .inr ⟨by simpa using hphase, by simpa using hprogram, call, ?_⟩
  dsimp only
  rw [hcall]
  split
  · exact .inl rfl
  · exact .inr ⟨_, rfl⟩

theorem finishConfiguration_answers (hr : request.command = "configurationDone") :
    Answers engine s request (answered (s.finishConfiguration engine)) := by
  have hl : s.launches? request = none := launches?_eq_none (by simp [hr])
  have hd : request.command ≠ "disconnect" := by simp [hr]
  rcases s.finishConfiguration_cases engine with
    ⟨refusal, hrefused⟩ | ⟨hphase, hprogram, call, hdone | ⟨refusal, hrefused⟩⟩
  · rw [hrefused]
    exact refused_answers _ (.refl engine s) hl hd
  · rw [hdone]
    exact .configured hr hphase hprogram
  · rw [hrefused]
    have hcont : Continues engine s [call] { s with engine := engine.effect s.engine call } :=
      ⟨_, _, rfl⟩
    refine .stayed hcont (fun hn => (hprogram hn).elim) ?_ hl (fun _ => rfl)
      (by simp [Reply.refuse, hd])
    intro hover
    rw [hphase] at hover
    cases hover

/-- A launch that failed is told on the console. -/
theorem failLaunch_of_isOpen (h : s.live.outbox.IsOpen) (refusal : Refusal) :
    ∃ journal, s.failLaunch refusal = (.ok ⟨.error refusal, .stop⟩,
      { s with live := { s.live with journal }, reached := .terminated : Session σ }.post
        [(SessionEvent.output .stderr (refusal.consoleText ++ "\n")).letter]) := by
  unfold failLaunch
  dsimp only
  rw [send_of_isOpen (by exact h)]
  exact ⟨_, rfl⟩

/-- However a launch fails, the events that were heard of by then have been handled. -/
theorem compile_of_error {source : ProgramSource} {refusal : Refusal} {state : σ}
    (h : engine.launch source s.engine = (.error refusal, state)) :
    ∃ connected journal, s.compile engine source = failLaunch
      ({ s with connected, live := { s.live with journal }, engine := state }.handleAll
        (engine.launchEvents source s.engine)) refusal := by
  unfold compile
  unfold Engine.launch at h
  unfold Engine.launchEvents
  cases hcreate : engine.create s.engine with
  | mk created afterCreate =>
  rw [hcreate] at h
  cases created with
  | error e =>
    cases h
    exact ⟨s.connected, s.live.journal, rfl⟩
  | ok _ =>
  cases hcompile : engine.compile source afterCreate with
  | mk compiled afterCompile =>
  simp only [hcompile] at h ⊢
  cases compiled with
  | error e =>
    cases h
    exact ⟨true, s.live.journal, rfl⟩
  | ok program =>
  cases hstart : engine.start program afterCompile with
  | mk started afterStart =>
  simp only [hstart, start, log, LiveState.run_eq_foldl] at h ⊢
  cases started with
  | error e =>
    cases h
    exact ⟨true, _, rfl⟩
  | ok _ => cases h

theorem compile_of_ok {source : ProgramSource} {program : Program} {state : σ}
    (h : engine.launch source s.engine = (.ok program, state)) :
    ∃ journal, s.compile engine source =
      let events := engine.launchEvents source s.engine
      let s' : Session σ := { s with
        connected := true, live := { s.live with journal }, engine := state
        program := some program, reached := .configuring
        delivery := if events.any (·.isLast) then .stopped else .running }.handleAll events
      let (sent, s') := s'.send SessionEvent.initialized.letter
      (sent.map fun () => .done, s') := by
  unfold compile
  unfold Engine.launch at h
  unfold Engine.launchEvents
  cases hcreate : engine.create s.engine with
  | mk created afterCreate =>
  rw [hcreate] at h
  cases created with
  | error e => cases h
  | ok _ =>
  cases hcompile : engine.compile source afterCreate with
  | mk compiled afterCompile =>
  simp only [hcompile] at h ⊢
  cases compiled with
  | error e => cases h
  | ok program =>
  cases hstart : engine.start program afterCompile with
  | mk started afterStart =>
  simp only [hstart, start, log, LiveState.run_eq_foldl] at h ⊢
  cases started with
  | error e => cases h
  | ok _ =>
    cases h
    rw [EngineEvent.any_isLast_untilEnd]
    exact ⟨_, rfl⟩

theorem compile_answers {source : ProgramSource} (h : s.live.outbox.IsOpen) (stopAtEntry : Bool)
    (hl : s.launches? request = some source) :
    Answers engine s request ({ s with stopAtEntry }.compile engine source) := by
  cases hlaunch : engine.launch source s.engine with
  | mk outcome state =>
  cases outcome with
  | error refusal =>
    obtain ⟨connected, journal, hcompile⟩ :=
      compile_of_error (s := { s with stopAtEntry }) hlaunch
    obtain ⟨journal', hhears⟩ := handleAll_of_isOpen (s := { s with
      stopAtEntry, connected, live := { s.live with journal }, engine := state }) h
      (engine.launchEvents source s.engine)
    obtain ⟨journal'', hfail⟩ := failLaunch_of_isOpen (s := hears { s with
      stopAtEntry, connected, live := { s.live with journal := journal' }, engine := state }
      (engine.launchEvents source s.engine)) (h.acceptAll _) refusal
    have houtcome : { s with stopAtEntry }.compile engine source = _ :=
      hcompile.trans ((congrArg (failLaunch · refusal) hhears).trans hfail)
    rw [houtcome]
    exact @Answers.failed _ _ _ _ _ _ _ connected stopAtEntry journal'' _ hl hlaunch
  | ok program =>
    obtain ⟨journal, hcompile⟩ := compile_of_ok (s := { s with stopAtEntry }) hlaunch
    rw [hcompile]
    dsimp only
    obtain ⟨journal', hhears⟩ := handleAll_of_isOpen (s := { s with
      stopAtEntry, connected := true, live := { s.live with journal }, engine := state
      program := some program, reached := .configuring
      delivery := if (engine.launchEvents source s.engine).any (·.isLast) then .stopped
        else .running }) h (engine.launchEvents source s.engine)
    rw [hhears, send_of_isOpen (h.acceptAll _)]
    exact @Answers.launched _ _ _ _ _ _ _ stopAtEntry journal' hl hlaunch

theorem performLaunch_answers (h : s.live.outbox.IsOpen)
    (hc : request.command = "launch" ∨ request.command = "attach")
    (hphase : s.phase = .uninitialized) :
    Answers engine s request (s.performLaunch engine request) := by
  have hd : request.command ≠ "disconnect" := by
    rcases hc with hc | hc <;> simp [hc]
  unfold performLaunch
  split
  · rename_i e he
    exact refused_answers _ (.refl engine s) (by simp [launches?, hc, hphase, he]) hd
  rename_i a ha
  unfold launch
  split
  · rename_i hsource
    exact refused_answers _ (.refl engine s) (by simp [launches?, hc, hphase, ha, hsource]) hd
  · rename_i source hsource
    exact compile_answers h _ (by simp [launches?, hc, hphase, ha, hsource])

theorem refusal_answers {c : Command} {refusal : Refusal} (hc : c.name = request.command)
    (hr : c.refusal? s.phase = some refusal) :
    Answers engine s request (.ok (.refuse refusal), s) := by
  have hd : request.command ≠ "disconnect" := by
    intro hd
    obtain rfl : c = .disconnect := Command.name_inj.mp (hc.trans hd)
    cases hr
  refine refused_answers _ (.refl engine s) (launches?_eq_none ?_) hd
  intro hl hphase
  rw [hphase] at hr
  rcases hl with hl | hl
  · obtain rfl : c = .launch := Command.name_inj.mp (hc.trans hl)
    cases hr
  · obtain rfl : c = .attach := Command.name_inj.mp (hc.trans hl)
    cases hr

theorem terminate_answers (reply : Reply)
    (hc : request.command = "terminate" ∧ reply.flow = .proceed ∨
      request.command = "disconnect" ∧ reply.flow = .stop) :
    Answers engine s request (.ok reply, s.terminate engine) := by
  refine .stayed (terminate_continues engine s) (fun hp => by simp [hp]) (fun _ => ?_)
    (launches?_eq_none ?_) ?_ ?_
  · split
    · exact .inl rfl
    · exact .inr ⟨rfl, hc.imp And.left And.left⟩
  all_goals rcases hc with ⟨hc, hf⟩ | ⟨hc, hf⟩ <;> simp [hc, hf]

theorem perform_answers {c : Command} (h : s.live.outbox.IsOpen) (hc : c.name = request.command)
    (hr : c.refusal? s.phase = none) : Answers engine s request (s.perform engine request c) := by
  by_cases hlaunch : c = .launch ∨ c = .attach
  · have hphase := Command.refusal?_launch hr hlaunch
    rcases hlaunch with rfl | rfl
    · exact performLaunch_answers h (.inl hc.symm) hphase
    · exact performLaunch_answers h (.inr hc.symm) hphase
  obtain ⟨hl, ha⟩ := not_or.mp hlaunch
  by_cases hconf : c = .configurationDone
  · subst hconf
    exact finishConfiguration_answers hc.symm
  by_cases ht : c = .terminate
  · subst ht
    exact terminate_answers _ (.inl ⟨hc.symm, rfl⟩)
  by_cases hd : c = .disconnect
  · subst hd
    exact terminate_answers _ (.inr ⟨hc.symm, rfl⟩)
  have hname : ∀ d : Command, c ≠ d → request.command ≠ d.name := by
    intro d hcd hn
    exact hcd (Command.name_inj.mp (hc.trans hn))
  obtain ⟨outcome, hperform, hflow, calls, hcont, hidle⟩ :=
    perform_controls engine s request hl ha hconf ht hd
  rw [hperform]
  refine .stayed hcont hidle (fun hover => ?_) (launches?_eq_none ?_) (fun hn => ?_) ?_
  · rw [hover] at hr
    exact absurd (Command.refusal?_terminated hr) (by simp [ht, hd])
  · intro hn
    exact absurd hn (not_or.mpr ⟨hname .launch hl, hname .attach ha⟩)
  · exact absurd hn (hname .configurationDone hconf)
  · simp only [hflow, reduceCtorEq, false_iff]
    exact hname .disconnect hd

theorem dispatch_answers (h : s.live.outbox.IsOpen) :
    Answers engine s request (s.dispatch engine request) := by
  unfold dispatch
  split
  · rename_i hname
    have hne : ∀ c : Command, request.command ≠ c.name := by
      intro c hc
      rw [hc, Command.ofName?_name] at hname
      cases hname
    refine refused_answers _ (log_continues engine s _) (launches?_eq_none ?_) (hne .disconnect)
    intro hn
    exact absurd hn (not_or.mpr ⟨hne .launch, hne .attach⟩)
  · rename_i c hname
    have hc := Command.ofName?_eq_some_iff.mp hname
    split
    · rename_i refusal hr
      exact refusal_answers hc hr
    · rename_i hr
      exact perform_answers h hc hr

/-- Every request comes to one of the four ends. -/
theorem replyTo_answers (engine : Engine σ) (request : Request) (h : s.live.outbox.IsOpen) :
    Answers engine s request (s.replyTo engine request) :=
  (dispatch_answers (s := s.log _) h).after_log

end Session

end DebugServer
