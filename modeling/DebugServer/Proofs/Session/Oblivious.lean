import DebugServer.Proofs.Session.History

/-!
# What a session does not look at

Nothing that a session does depends on its journal, or on what it has sent so far. Two sessions that
differ in these alone answer every input alike and send the same letters.
-/

namespace DebugServer.Session

variable {σ : Type} {engine : Engine σ} {s : Session σ} {request : Request}

/-- The session with another journal and another outbox. -/
def under (s : Session σ) (journal : Array Log.Record) (outbox : Outbox) : Session σ :=
  { s with live := { s.live with journal, outbox } }

section

variable (s) (journal : Array Log.Record) (outbox : Outbox)

@[simp]
theorem under_tables : (s.under journal outbox).live.tables = s.live.tables := rfl

@[simp]
theorem under_phase : (s.under journal outbox).phase = s.phase := rfl

@[simp]
theorem under_program : (s.under journal outbox).program = s.program := rfl

@[simp]
theorem under_delivery : (s.under journal outbox).delivery = s.delivery := rfl

@[simp]
theorem under_engine : (s.under journal outbox).engine = s.engine := rfl

end

/-- The action sends nothing, and does the same under every journal and outbox. -/
def Silent {α : Type} (s : Session σ) (action : Session σ → α × Session σ) : Prop :=
  ∀ journal outbox, ∃ journal',
    action (s.under journal outbox) = ((action s).1, (action s).2.under journal' outbox)

/-- The action sends these letters, and otherwise does the same, under every journal and every open
outbox. -/
def Posts {α : Type} (s : Session σ) (action : Session σ → α × Session σ) (letters : List Letter) :
    Prop :=
  ∀ journal outbox, outbox.IsOpen → ∃ journal',
    action (s.under journal outbox) =
      ((action s).1, (action s).2.under journal' (outbox.acceptAll letters))

def Oblivious {α : Type} (s : Session σ) (action : Session σ → α × Session σ) : Prop :=
  ∃ letters, Posts s action letters

section

variable {α β : Type} {action : Session σ → α × Session σ}

theorem Silent.oblivious (h : Silent s action) : Oblivious s action :=
  ⟨[], fun journal outbox _ => h journal outbox⟩

theorem Posts.outbox_eq {letters : List Letter} (h : Posts s action letters)
    (hopen : s.live.outbox.IsOpen) :
    (action s).2.live.outbox = s.live.outbox.acceptAll letters := by
  obtain ⟨journal, hsame⟩ := h s.live.journal s.live.outbox hopen
  exact congrArg (·.2.live.outbox) hsame

theorem Oblivious.isOpen (h : Oblivious s action) (hopen : s.live.outbox.IsOpen) :
    (action s).2.live.outbox.IsOpen := by
  obtain ⟨letters, hletters⟩ := h
  rw [hletters.outbox_eq hopen]
  exact hopen.acceptAll letters

/-- One action after the other; the second one is chosen by the result of the first. -/
theorem Oblivious.andThen (h : Oblivious s action) {f : α → Session σ → β × Session σ}
    (hnext : Oblivious (action s).2 (f (action s).1)) :
    Oblivious s fun s => f (action s).1 (action s).2 := by
  obtain ⟨letters, hletters⟩ := h
  obtain ⟨more, hmore⟩ := hnext
  refine ⟨letters ++ more, fun journal outbox hopen => ?_⟩
  obtain ⟨journal', hfirst⟩ := hletters journal outbox hopen
  obtain ⟨journal'', hsecond⟩ := hmore journal' _ (hopen.acceptAll letters)
  refine ⟨journal'', ?_⟩
  dsimp only
  rw [hfirst, Outbox.acceptAll_append]
  exact hsecond

theorem Oblivious.map (h : Oblivious s action) (f : α → β) :
    Oblivious s fun s => (f (action s).1, (action s).2) := by
  obtain ⟨letters, hletters⟩ := h
  refine ⟨letters, fun journal outbox hopen => ?_⟩
  obtain ⟨journal', hsame⟩ := hletters journal outbox hopen
  refine ⟨journal', ?_⟩
  dsimp only
  rw [hsame]

/-- An action that comes to another one on a session that is changed alike. -/
theorem Oblivious.of_eq {t : Session σ} {later : Session σ → α × Session σ} (h : Oblivious t later)
    (hsame : action s = later t)
    (hunder : ∀ journal outbox, ∃ journal',
      action (s.under journal outbox) = later (t.under journal' outbox)) :
    Oblivious s action := by
  obtain ⟨letters, hletters⟩ := h
  refine ⟨letters, fun journal outbox hopen => ?_⟩
  obtain ⟨journal', heq⟩ := hunder journal outbox
  rw [hsame, heq]
  exact hletters journal' outbox hopen

theorem send_oblivious (hopen : s.live.outbox.IsOpen) (letter : Letter) :
    Oblivious s (·.send letter) := by
  refine ⟨[letter], fun journal outbox hother => ⟨journal, ?_⟩⟩
  dsimp only
  rw [send_of_isOpen hopen, send_of_isOpen (by exact hother)]
  rfl

end

/-! ### Commands -/

theorem withArguments_silent {α : Type} {format : RecordFormat α}
    {action : α → Session σ → Reply × Session σ} (h : ∀ a, Silent s (action a)) :
    Silent s fun s => s.withArguments request format fun a => action a s := by
  unfold withArguments
  split
  · exact fun journal _ => ⟨journal, rfl⟩
  · exact h _

/-- An action behind a check that reads neither journal nor outbox. -/
theorem checked_silent {refused : Session σ → Prop} [DecidablePred refused]
    {action : Session σ → Reply × Session σ} (refusal : Refusal)
    (hrefused : ∀ journal outbox, refused (s.under journal outbox) ↔ refused s)
    (h : Silent s action) :
    Silent s fun s => if refused s then (.refuse refusal, s) else action s := by
  intro journal outbox
  dsimp only
  by_cases hs : refused s
  · rw [if_pos hs, if_pos ((hrefused journal outbox).mpr hs)]
    exact ⟨journal, rfl⟩
  · rw [if_neg hs, if_neg (mt (hrefused journal outbox).mp hs)]
    exact h journal outbox

theorem launched_silent {action : Session σ → Reply × Session σ} (h : Silent s action) :
    Silent s fun s => if s.program.isNone then (.refuse .notLaunched, s) else action s :=
  checked_silent .notLaunched (fun _ _ => Iff.rfl) h

theorem resume_silent (a : ThreadArguments) : Silent s (·.resume engine a) :=
  launched_silent fun journal _ => ⟨journal, rfl⟩

theorem step_silent (reason : StopReason) (a : ThreadArguments) :
    Silent s (·.step engine reason a) :=
  launched_silent fun journal _ => ⟨journal, rfl⟩

theorem pause_silent (a : ThreadArguments) : Silent s (·.pause engine a) :=
  launched_silent fun journal _ => ⟨journal, rfl⟩

theorem threads_silent : Silent s (·.threads engine) :=
  launched_silent fun journal _ => ⟨journal, rfl⟩

theorem terminate_silent (reply : Reply) : Silent s fun s => (reply, s.terminate engine) := by
  intro journal outbox
  cases hprogram : s.program with
  | none =>
    refine ⟨journal, ?_⟩
    simp only [terminate, under_program, hprogram, Option.isNone_none, if_true]
  | some program =>
    simp only [terminate, under_program, hprogram, Option.isNone_some, Bool.false_eq_true, if_false]
    exact ⟨_, rfl⟩

theorem stackTrace_silent (a : StackTraceArguments) : Silent s (·.stackTrace a) := by
  intro journal outbox
  refine ⟨journal, ?_⟩
  unfold stackTrace
  simp only [under_program]
  split <;> rfl

theorem scopes_silent (a : ScopesArguments) : Silent s (·.scopes a) := by
  intro journal outbox
  refine ⟨journal, ?_⟩
  unfold scopes
  simp only [under_tables]
  split <;> rfl

theorem listVariables_silent (a : VariablesArguments) : Silent s (·.listVariables engine a) := by
  intro journal outbox
  refine ⟨journal, ?_⟩
  unfold listVariables
  simp only [under_tables, under_engine]
  split <;> rfl

theorem resolve_silent (target : BreakpointTarget) (requests : List BreakpointRequest) :
    Silent s (·.resolve engine target requests) := by
  intro journal outbox
  unfold resolve
  dsimp only
  by_cases hcount : (engine.setBreakpoints target requests s.engine).1.length = requests.length
  · refine ⟨journal, ?_⟩
    rw [if_pos hcount, if_pos (by exact hcount)]
    rfl
  · rw [if_neg hcount, if_neg (by exact hcount)]
    exact ⟨_, rfl⟩

theorem setBreakpoints_silent (a : SetBreakpointsArguments) :
    Silent s (·.setBreakpoints engine a) := by
  intro journal outbox
  unfold setBreakpoints
  simp only [under_program]
  split
  · exact ⟨journal, rfl⟩
  · exact ⟨journal, rfl⟩
  · exact resolve_silent _ _ journal outbox

theorem setFunctionBreakpoints_silent (a : SetFunctionBreakpointsArguments) :
    Silent s (·.setFunctionBreakpoints engine a) :=
  launched_silent (resolve_silent _ _)

theorem finishConfiguration_silent : Silent s (·.finishConfiguration engine) := by
  apply checked_silent .configurationDone fun _ _ => Iff.rfl
  apply launched_silent
  intro journal outbox
  refine ⟨journal, ?_⟩
  dsimp only
  by_cases hentry : s.stopAtEntry
  · rw [if_pos hentry, if_pos (by exact hentry), under_engine]
    cases (engine.step mainThread .entry s.engine).1 <;> rfl
  · rw [if_neg hentry, if_neg (by exact hentry), under_engine]
    cases (engine.resume mainThread s.engine).1 <;> rfl

/-! ### Launching -/

theorem failLaunch_oblivious (hopen : s.live.outbox.IsOpen) (refusal : Refusal) :
    Oblivious s (·.failLaunch refusal) := by
  obtain ⟨_, hfail⟩ := failLaunch_of_isOpen hopen refusal
  refine ⟨[(SessionEvent.output .stderr (refusal.consoleText ++ "\n")).letter], ?_⟩
  intro journal outbox hother
  obtain ⟨journal', hother⟩ := failLaunch_of_isOpen (s := s.under journal outbox) hother refusal
  refine ⟨journal', ?_⟩
  dsimp only
  rw [hfail, hother]
  rfl

theorem run_posts (hopen : s.live.outbox.IsOpen) (events : List EngineEvent) :
    Posts s (fun s => ((), { s with live := (s.live.run events).1 }))
      ((EngineEvent.untilEnd events).map (·.letter)) := by
  intro journal outbox hother
  obtain ⟨_, hlive⟩ := LiveState.foldl_handle_of_isOpen hopen (EngineEvent.untilEnd events)
  obtain ⟨journal', hunder⟩ := LiveState.foldl_handle_of_isOpen
    (s := (s.under journal outbox).live) hother (EngineEvent.untilEnd events)
  refine ⟨journal', ?_⟩
  simp only [LiveState.run_eq_foldl, hlive, hunder]
  rfl

theorem start_oblivious (hopen : s.live.outbox.IsOpen) (program : Program) :
    Oblivious s (·.start engine program) := by
  let compiled := Log.session .info "compiled program" [("program", .text program.name)]
  let events := engine.startEvents program s.engine
  have hheard : Oblivious { s.log compiled with engine := (engine.start program s.engine).2 }
      fun s => ((), { s with live := (s.live.run events).1 }) :=
    ⟨_, run_posts (s := { s.log compiled with engine := _ }) hopen events⟩
  have hstill := hheard.isOpen hopen
  cases hstart : engine.start program s.engine with
  | mk started state =>
  rw [hstart] at hheard hstill
  cases started with
  | error e =>
    have hfails (t : Session σ) (ht : t.engine = s.engine) : t.start engine program =
        failLaunch { t.log compiled with
          live := ((t.log compiled).live.run events).1, engine := state } (.startFailed e) := by
      simp only [start, log, ht, hstart, compiled, events]
    have hlater := hheard.andThen (f := fun _ s => s.failLaunch (.startFailed e))
      (failLaunch_oblivious hstill _)
    exact hlater.of_eq (hfails s rfl) fun journal outbox =>
      ⟨journal.push compiled, hfails (s.under journal outbox) rfl⟩
  | ok _ =>
    let begin (t : Session σ) : Session σ := { t with
      program := some program, reached := .configuring
      delivery := if events.any (·.isLast) then .stopped else .running }
    let announce (t : Session σ) : Except TransportError Reply × Session σ :=
      (((begin t).send SessionEvent.initialized.letter).1.map fun () => .done,
        ((begin t).send SessionEvent.initialized.letter).2)
    have hstarts (t : Session σ) (ht : t.engine = s.engine) : t.start engine program =
        announce { t.log compiled with
          live := ((t.log compiled).live.run events).1, engine := state } := by
      simp only [start, log, ht, hstart, compiled, events, begin, announce]
    have hannounced (t : Session σ) (ht : t.live.outbox.IsOpen) : Oblivious t announce :=
      ((send_oblivious (s := begin t) ht _).map (Except.map fun () => Reply.done)).of_eq rfl
        fun journal outbox => ⟨journal, rfl⟩
    have hlater := hheard.andThen (f := fun _ => announce) (hannounced _ hstill)
    exact hlater.of_eq (hstarts s rfl) fun journal outbox =>
      ⟨journal.push compiled, hstarts (s.under journal outbox) rfl⟩

theorem compile_oblivious (hopen : s.live.outbox.IsOpen) (source : ProgramSource) :
    Oblivious s (·.compile engine source) := by
  cases hcreate : engine.create s.engine with
  | mk created afterCreate =>
  cases created with
  | error e =>
    have hfails (t : Session σ) (ht : t.engine = s.engine) : t.compile engine source =
        failLaunch { t with engine := afterCreate } (.createFailed e) := by
      simp only [compile, ht, hcreate]
    exact (failLaunch_oblivious (s := { s with engine := afterCreate }) hopen _).of_eq
      (hfails s rfl) fun journal outbox => ⟨journal, hfails (s.under journal outbox) rfl⟩
  | ok _ =>
  cases hcompile : engine.compile source afterCreate with
  | mk compiled afterCompile =>
  cases compiled with
  | error e =>
    have hfails (t : Session σ) (ht : t.engine = s.engine) : t.compile engine source =
        failLaunch { t with connected := true, engine := afterCompile } (.compileFailed e) := by
      simp only [compile, ht, hcreate, hcompile]
    exact (failLaunch_oblivious (s := { s with connected := true, engine := afterCompile }) hopen
      _).of_eq (hfails s rfl) fun journal outbox => ⟨journal, hfails (s.under journal outbox) rfl⟩
  | ok program =>
    have hstarts (t : Session σ) (ht : t.engine = s.engine) : t.compile engine source =
        start engine { t with connected := true, engine := afterCompile } program := by
      simp only [compile, ht, hcreate, hcompile]
    exact (start_oblivious (s := { s with connected := true, engine := afterCompile }) hopen
      program).of_eq (hstarts s rfl) fun journal outbox =>
        ⟨journal, hstarts (s.under journal outbox) rfl⟩

theorem launch_oblivious (hopen : s.live.outbox.IsOpen) (a : LaunchArguments) :
    Oblivious s (·.launch engine a) := by
  cases hsource : s.launchSource? a with
  | none =>
    have hrefuses (t : Session σ) (ht : t.launchSource? a = s.launchSource? a) :
        t.launch engine a = (.ok (.refuse .noProgram), t) := by
      simp only [launch, ht, hsource]
    apply Silent.oblivious
    intro journal outbox
    refine ⟨journal, ?_⟩
    dsimp only
    rw [hrefuses s rfl, hrefuses (s.under journal outbox) rfl]
  | some source =>
    have hcompiles (t : Session σ) (ht : t.launchSource? a = s.launchSource? a) :
        t.launch engine a =
          { t with stopAtEntry := a.stopOnEntry.getD t.stopAtEntry }.compile engine source := by
      simp only [launch, ht, hsource]
    exact (compile_oblivious (s := { s with stopAtEntry := a.stopOnEntry.getD s.stopAtEntry }) hopen
      source).of_eq (hcompiles s rfl) fun journal outbox =>
        ⟨journal, hcompiles (s.under journal outbox) rfl⟩

theorem performLaunch_oblivious (hopen : s.live.outbox.IsOpen) :
    Oblivious s (·.performLaunch engine request) := by
  unfold performLaunch
  cases request.decodeArguments LaunchArguments.format with
  | error e => exact Silent.oblivious fun journal _ => ⟨journal, rfl⟩
  | ok a => exact launch_oblivious hopen a

/-! ### Inputs -/

theorem Silent.answered {action : Session σ → Reply × Session σ} (h : Silent s action) :
    Oblivious s fun s => answered (action s) :=
  h.oblivious.map Except.ok

theorem perform_oblivious (engine : Engine σ) (request : Request) (hopen : s.live.outbox.IsOpen)
    (c : Command) : Oblivious s (·.perform engine request c) := by
  cases c with
  | launch | attach => exact performLaunch_oblivious hopen
  | setBreakpoints => exact (withArguments_silent setBreakpoints_silent).answered
  | setFunctionBreakpoints => exact (withArguments_silent setFunctionBreakpoints_silent).answered
  | configurationDone => exact finishConfiguration_silent.answered
  | resume => exact (withArguments_silent resume_silent).answered
  | stepIn | next | stepOut => exact (withArguments_silent (step_silent _)).answered
  | pause => exact (withArguments_silent pause_silent).answered
  | threads => exact threads_silent.answered
  | stackTrace => exact (withArguments_silent stackTrace_silent).answered
  | scopes => exact (withArguments_silent scopes_silent).answered
  | listVariables => exact (withArguments_silent listVariables_silent).answered
  | terminate | disconnect => exact (terminate_silent _).answered

theorem dispatch_oblivious (engine : Engine σ) (request : Request) (hopen : s.live.outbox.IsOpen) :
    Oblivious s (·.dispatch engine request) := by
  unfold dispatch
  split
  · exact Silent.oblivious fun journal _ => ⟨_, rfl⟩
  · rename_i command _
    cases hrefusal : command.refusal? s.phase with
    | some refusal =>
      apply Silent.oblivious
      intro journal outbox
      refine ⟨journal, ?_⟩
      simp only [under_phase, hrefusal]
    | none =>
      apply (perform_oblivious engine request hopen command).of_eq
      · simp only [hrefusal]
      · intro journal outbox
        refine ⟨journal, ?_⟩
        simp only [under_phase, hrefusal]

theorem replyTo_oblivious (engine : Engine σ) (request : Request) (hopen : s.live.outbox.IsOpen) :
    Oblivious s (·.replyTo engine request) := by
  let record := Log.session .debug "request"
    [("command", .text request.command), ("seq", .number request.seq.toInt)]
  have hdispatch := dispatch_oblivious (s := s.log record) engine request hopen
  exact hdispatch.of_eq rfl fun journal outbox => ⟨journal.push record, rfl⟩

/-- Sends the reply to a request, if there is one. -/
def sendReply (request : Request) :
    Except TransportError Reply → Session σ → Except TransportError Flow × Session σ
  | .error e, s => (.error e, s)
  | .ok reply, s =>
    ((s.send (reply.letter request)).1.map fun () => reply.flow,
      (s.send (reply.letter request)).2)

theorem process_eq (engine : Engine σ) (s : Session σ) (request : Request) :
    s.process engine request =
      sendReply request (s.replyTo engine request).1 (s.replyTo engine request).2 := by
  unfold process
  cases s.replyTo engine request with
  | mk result s' => cases result <;> rfl

theorem process_oblivious (engine : Engine σ) (request : Request) (hopen : s.live.outbox.IsOpen) :
    Oblivious s (·.process engine request) := by
  have hreply := replyTo_oblivious engine request hopen
  have hsend : Oblivious (s.replyTo engine request).2
      (sendReply request (s.replyTo engine request).1) := by
    cases (s.replyTo engine request).1 with
    | error e => exact Silent.oblivious fun journal _ => ⟨journal, rfl⟩
    | ok reply =>
      exact (send_oblivious (hreply.isOpen hopen) _).map (Except.map fun () => reply.flow)
  exact (hreply.andThen hsend).of_eq (process_eq engine s request) fun journal outbox =>
    ⟨journal, process_eq engine (s.under journal outbox) request⟩

theorem answerInitialize_oblivious (hopen : s.live.outbox.IsOpen) :
    Oblivious s (Server.answerInitialize · request) := by
  unfold Server.answerInitialize
  cases request.decodeArguments InitializeArguments.format with
  | error e => exact send_oblivious hopen _
  | ok a =>
    exact (send_oblivious (s := (s.configure a).2) hopen _).of_eq rfl fun journal outbox =>
      ⟨_, rfl⟩

theorem deliver_oblivious (hopen : s.live.outbox.IsOpen) (event : EngineEvent) :
    Oblivious s (·.deliver event) := by
  cases hdelivery : s.delivery with
  | notStarted =>
    apply Silent.oblivious
    intro journal outbox
    refine ⟨journal, ?_⟩
    simp only [deliver, under_delivery, hdelivery]
  | running =>
    refine ⟨[event.letter], fun journal outbox hother => ?_⟩
    obtain ⟨_, hhandle⟩ := LiveState.handle_of_isOpen hopen event
    obtain ⟨journal', hunder⟩ :=
      LiveState.handle_of_isOpen (s := (s.under journal outbox).live) hother event
    refine ⟨journal', ?_⟩
    simp only [deliver, under_delivery, hdelivery,
      hhandle, hunder]
    rfl
  | stopped =>
    apply Silent.oblivious
    intro journal outbox
    simp only [deliver, under_delivery, hdelivery]
    exact ⟨_, rfl⟩

theorem print_oblivious (hopen : s.live.outbox.IsOpen) (stream : OutputStream) (text : String) :
    Oblivious s (·.print stream text) := by
  by_cases hshown : (s.connected && text ≠ "") = true
  · let output := SessionEvent.output stream (String.ofList (Text.decodeLossy (Text.toBytes text)))
    have hprints (t : Session σ) (ht : t.connected = s.connected) :
        t.print stream text = t.send output.letter := by
      simp only [print, ht, hshown, if_true]
      rfl
    exact (send_oblivious hopen output.letter).of_eq (hprints s rfl) fun journal outbox =>
      ⟨journal, hprints (s.under journal outbox) rfl⟩
  · have hlost (t : Session σ) (ht : t.connected = s.connected) :
        t.print stream text = (.ok (), t) := by
      simp only [print, ht, if_neg hshown]
    apply Silent.oblivious
    intro journal outbox
    refine ⟨journal, ?_⟩
    dsimp only
    rw [hlost s rfl, hlost (s.under journal outbox) rfl]

theorem shutdown_silent : Silent s fun s => ((), s.shutdown engine) := by
  intro journal outbox
  by_cases hprogram : s.program = none
  · refine ⟨journal, ?_⟩
    dsimp only
    rw [shutdown_of_none hprogram, shutdown_of_none (s := s.under journal outbox) hprogram]
    rfl
  · obtain ⟨_, hself⟩ := shutdown_of_some engine hprogram
    obtain ⟨journal', hunder⟩ := shutdown_of_some engine (s := s.under journal outbox) hprogram
    refine ⟨journal', ?_⟩
    dsimp only
    rw [hself, hunder]
    rfl

/-- Every input changes a session alike under every journal and open outbox. -/
theorem advance_oblivious (engine : Engine σ) (hopen : s.live.outbox.IsOpen)
    (input : SessionInput σ) : Oblivious s fun s => ((), s.advance engine input) := by
  cases input with
  | request request => exact (process_oblivious engine request hopen).map fun _ => ()
  | greeting request => exact (answerInitialize_oblivious hopen).map fun _ => ()
  | event event => exact (deliver_oblivious hopen event).map fun _ => ()
  | output stream text => exact (print_oblivious hopen stream text).map fun _ => ()
  | progress change => exact Silent.oblivious fun journal _ => ⟨journal, rfl⟩
  | shutdown => exact shutdown_silent.oblivious

theorem moments_under (hopen : s.live.outbox.IsOpen) {outbox : Outbox} (hother : outbox.IsOpen)
    (journal : Array Log.Record) (input : SessionInput σ) :
    (s.under journal outbox).moments engine input = s.moments engine input := by
  cases input with
  | request request =>
    obtain ⟨letters, hletters⟩ := replyTo_oblivious engine request hopen
    obtain ⟨journal', hreply⟩ := hletters journal outbox hother
    simp only [moments, hreply]
    rfl
  | greeting | event | output | progress | shutdown => rfl

/-- From sessions that differ in journal and outbox only, the same inputs lead to such sessions
again. They have sent the same letters in between, and their clients have seen the same. -/
theorem after_under (engine : Engine σ) (hopen : s.live.outbox.IsOpen)
    (future : List (SessionInput σ)) :
    ∃ letters, (s.after engine future).live.outbox = s.live.outbox.acceptAll letters ∧
      ∀ journal outbox, outbox.IsOpen →
        (s.under journal outbox).history engine future = s.history engine future ∧
        ∃ journal', (s.under journal outbox).after engine future =
          (s.after engine future).under journal' (outbox.acceptAll letters) := by
  induction future with
  | nil => exact ⟨[], rfl, fun journal outbox _ => ⟨rfl, journal, rfl⟩⟩
  | cons input future ih =>
    obtain ⟨letters, hsent, hunder⟩ := ih
    have hopen' : (s.after engine future).live.outbox.IsOpen := by
      rw [hsent]
      exact hopen.acceptAll letters
    obtain ⟨more, hmore⟩ := advance_oblivious engine hopen' input
    refine ⟨letters ++ more, ?_, fun journal outbox hother => ?_⟩
    · rw [Outbox.acceptAll_append, ← hsent]
      exact hmore.outbox_eq hopen'
    · obtain ⟨hhistory, journal', hafter⟩ := hunder journal outbox hother
      have hother' := hother.acceptAll letters
      obtain ⟨journal'', hadvance⟩ := hmore journal' _ hother'
      refine ⟨?_, journal'', ?_⟩
      · simp only [history, hhistory, hafter, moments_under hopen' hother']
      · simp only [after, hafter, Outbox.acceptAll_append]
        exact congrArg Prod.snd hadvance

end DebugServer.Session
