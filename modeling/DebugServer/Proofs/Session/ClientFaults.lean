import DebugServer.Proofs.Session.Access
import DebugServer.Proofs.Session.Oblivious

/-!
# Requests that the client got wrong

A request that is refused because of the client leaves nothing behind but the response that says so,
and a line in the journal. A session that never got it goes the same way from there on.
-/

namespace DebugServer

/-- Whether the client is to blame, and not the engine. -/
def Refusal.blamesClient : Refusal → Bool
  | .unknownCommand _ | .notLaunched | .alreadyLaunched | .sessionTerminated | .arguments _
  | .noProgram | .missingSource | .configurationDone | .invalidThread | .invalidFrame
  | .invalidReference => true
  | .createFailed _ | .compileFailed _ | .startFailed _ | .entryFailed _ | .continueFailed ..
  | .stepFailed .. | .pauseFailed _ => false

namespace Session

variable {σ : Type} {engine : Engine σ} {s : Session σ} {request : Request} {refusal : Refusal}

/-- The refusal is a fault of the client; a thread is a wrong one if it has no retained stop, and
not if other threads overtook every attempt to read its stack. -/
def Blames (s : Session σ) (request : Request) (refusal : Refusal) : Prop :=
  refusal.blamesClient = true ∧
    (refusal = .invalidThread → ∀ a, request.decodeArguments StackTraceArguments.format = .ok a →
      s.live.tables.stops.get? a.thread = none)

/-- Where the outcome is a refusal that blames the client, nothing is changed. -/
def Untouched (s : Session σ) (request : Request) (outcome : Reply × Session σ) : Prop :=
  ∀ refusal, outcome.1.result = .error refusal → s.Blames request refusal →
    outcome = (.refuse refusal, s)

theorem refuse_untouched (refusal : Refusal) : Untouched s request (.refuse refusal, s) := by
  intro refusal' hrefused _
  cases hrefused
  rfl

theorem untouched_of_isOk {reply : Reply} {s' : Session σ} (h : reply.result.isOk = true) :
    Untouched s request (reply, s') := by
  intro refusal hrefused _
  rw [hrefused] at h
  cases h

theorem untouched_of_engine {reply : Reply} {s' : Session σ}
    (h : ∀ refusal, reply.result = .error refusal → refusal.blamesClient = false) :
    Untouched s request (reply, s') := by
  intro refusal hrefused hblames
  have hclient := hblames.1
  rw [h refusal hrefused] at hclient
  cases hclient

theorem withArguments_untouched {α : Type} {format : RecordFormat α}
    {action : α → Reply × Session σ}
    (h : ∀ a, request.decodeArguments format = .ok a → Untouched s request (action a)) :
    Untouched s request (s.withArguments request format action) := by
  unfold withArguments
  split
  · exact refuse_untouched _
  · rename_i a ha
    exact h a ha

/-- Without a program there is a refusal; with one, none that blames the client. -/
theorem launched_untouched {reply : Reply} {s' : Session σ}
    (h : ∀ refusal, reply.result = .error refusal → refusal.blamesClient = false) :
    Untouched s request (if s.program.isNone then (.refuse .notLaunched, s) else (reply, s')) := by
  split
  · exact refuse_untouched _
  · exact untouched_of_engine h

theorem resume_untouched (a : ThreadArguments) : Untouched s request (s.resume engine a) := by
  apply launched_untouched
  intro refusal hrefused
  split at hrefused <;> cases hrefused
  rfl

theorem step_untouched (reason : StopReason) (a : ThreadArguments) :
    Untouched s request (s.step engine reason a) := by
  apply launched_untouched
  intro refusal hrefused
  split at hrefused <;> cases hrefused
  rfl

theorem pause_untouched (a : ThreadArguments) : Untouched s request (s.pause engine a) := by
  apply launched_untouched
  intro refusal hrefused
  split at hrefused <;> cases hrefused
  rfl

theorem threads_untouched : Untouched s request (s.threads engine) :=
  launched_untouched nofun

theorem resolve_untouched (target : BreakpointTarget) (requests : List BreakpointRequest) :
    Untouched s request (s.resolve engine target requests) := by
  unfold resolve
  dsimp only
  split <;> exact untouched_of_isOk rfl

theorem setBreakpoints_untouched (a : SetBreakpointsArguments) :
    Untouched s request (s.setBreakpoints engine a) := by
  unfold setBreakpoints
  split
  · exact refuse_untouched _
  · exact refuse_untouched _
  · exact resolve_untouched _ _

theorem setFunctionBreakpoints_untouched (a : SetFunctionBreakpointsArguments) :
    Untouched s request (s.setFunctionBreakpoints engine a) := by
  unfold setFunctionBreakpoints
  split
  · exact refuse_untouched _
  · exact resolve_untouched _ _

theorem finishConfiguration_untouched : Untouched s request (s.finishConfiguration engine) := by
  unfold finishConfiguration
  split
  · exact refuse_untouched _
  split
  · exact refuse_untouched _
  dsimp only
  split
  · exact untouched_of_isOk rfl
  · apply untouched_of_engine
    intro refusal hrefused
    cases hrefused
    rfl

theorem stackTrace_untouched (a : StackTraceArguments)
    (ha : request.decodeArguments StackTraceArguments.format = .ok a) :
    Untouched s request (s.stackTrace a) := by
  unfold stackTrace
  split
  · exact refuse_untouched _
  rename_i program _
  intro refusal hrefused hblames
  dsimp only at hrefused
  split at hrefused
  · cases hrefused
  cases hrefused
  -- Without a retained stop there is no attempt to read.
  have hread : readStack s.translator program a readAttempts s.live.tables =
      (none, s.live.tables) := by
    simp only [readAttempts, readStack, Tables.retained?, hblames.2 rfl a ha, Option.map_none]
  rw [hread]
  rfl

theorem scopes_untouched (a : ScopesArguments) : Untouched s request (s.scopes a) := by
  unfold scopes
  dsimp only
  split
  · exact refuse_untouched _
  · rw [issueScopes_epoch]
    exact untouched_of_isOk rfl

theorem listVariables_untouched (a : VariablesArguments) :
    Untouched s request (s.listVariables engine a) := by
  unfold listVariables
  dsimp only
  split
  · exact refuse_untouched _
  · exact untouched_of_isOk rfl

/-! ### From commands to inputs -/

/-- Where a reply is a refusal that blames the client, only a line in the journal is new. -/
def Unmoved (s : Session σ) (request : Request)
    (outcome : Except TransportError Reply × Session σ) : Prop :=
  ∀ reply refusal, outcome.1 = .ok reply → reply.result = .error refusal →
    s.Blames request refusal →
      ∃ journal, outcome = (.ok (.refuse refusal), s.under journal s.live.outbox)

theorem refuse_unmoved (refusal : Refusal) : Unmoved s request (.ok (.refuse refusal), s) := by
  intro reply refusal' hreply hrefused _
  cases hreply
  cases hrefused
  exact ⟨s.live.journal, rfl⟩

theorem Untouched.unmoved {outcome : Reply × Session σ} (h : Untouched s request outcome) :
    Unmoved s request (answered outcome) := by
  intro reply refusal hreply hrefused hblames
  cases hreply
  refine ⟨s.live.journal, ?_⟩
  rw [h refusal hrefused hblames]
  rfl

theorem failLaunch_result (hopen : s.live.outbox.IsOpen) {reply : Reply}
    (h : (s.failLaunch refusal).1 = .ok reply) : reply.result = .error refusal := by
  obtain ⟨_, hfail⟩ := failLaunch_of_isOpen hopen refusal
  rw [hfail] at h
  cases h
  rfl

/-- Once there is a program to launch, only the engine is to blame. -/
theorem compile_result {source : ProgramSource} {reply : Reply} (hopen : s.live.outbox.IsOpen)
    (h : (s.compile engine source).1 = .ok reply) (hrefused : reply.result = .error refusal) :
    refusal.blamesClient = false := by
  unfold compile start at h
  dsimp only at h
  split at h
  · rw [failLaunch_result (by exact hopen) h] at hrefused
    cases hrefused
    rfl
  split at h
  · rw [failLaunch_result (by exact hopen) h] at hrefused
    cases hrefused
    rfl
  split at h
  · rw [failLaunch_result (LiveState.isOpen_run (s := s.live.log _) hopen _) h] at hrefused
    cases hrefused
    rfl
  · rw [send_of_isOpen (LiveState.isOpen_run (s := s.live.log _) hopen _)] at h
    cases h
    cases hrefused

theorem performLaunch_unmoved (hopen : s.live.outbox.IsOpen) :
    Unmoved s request (s.performLaunch engine request) := by
  unfold performLaunch
  split
  · exact refuse_unmoved _
  unfold launch
  split
  · exact refuse_unmoved _
  · intro reply refusal hreply hrefused hblames
    have hclient := hblames.1
    rw [compile_result (by exact hopen) hreply hrefused] at hclient
    cases hclient

theorem perform_unmoved (hopen : s.live.outbox.IsOpen) (c : Command) :
    Unmoved s request (s.perform engine request c) := by
  cases c with
  | launch | attach => exact performLaunch_unmoved hopen
  | setBreakpoints => exact (withArguments_untouched fun a _ => setBreakpoints_untouched a).unmoved
  | setFunctionBreakpoints =>
    exact (withArguments_untouched fun a _ => setFunctionBreakpoints_untouched a).unmoved
  | configurationDone => exact finishConfiguration_untouched.unmoved
  | resume => exact (withArguments_untouched fun a _ => resume_untouched a).unmoved
  | stepIn | next | stepOut =>
    exact (withArguments_untouched fun a _ => step_untouched _ a).unmoved
  | pause => exact (withArguments_untouched fun a _ => pause_untouched a).unmoved
  | threads => exact threads_untouched.unmoved
  | stackTrace => exact (withArguments_untouched stackTrace_untouched).unmoved
  | scopes => exact (withArguments_untouched fun a _ => scopes_untouched a).unmoved
  | listVariables => exact (withArguments_untouched fun a _ => listVariables_untouched a).unmoved
  | terminate | disconnect => exact (untouched_of_isOk rfl).unmoved

theorem dispatch_unmoved (hopen : s.live.outbox.IsOpen) :
    Unmoved s request (s.dispatch engine request) := by
  unfold dispatch
  split
  · intro reply refusal hreply hrefused _
    cases hreply
    cases hrefused
    exact ⟨_, rfl⟩
  split
  · exact refuse_unmoved _
  · exact perform_unmoved hopen _

theorem replyTo_unmoved (engine : Engine σ) (request : Request) (hopen : s.live.outbox.IsOpen) :
    Unmoved s request (s.replyTo engine request) := by
  intro reply refusal hreply hrefused hblames
  obtain ⟨journal, hsame⟩ :=
    dispatch_unmoved (s := s.log _) hopen reply refusal hreply hrefused hblames
  exact ⟨journal, hsame⟩

/-- The requests that a session refuses: by the reply to them, or `initialize` by its arguments. -/
inductive Rejects (engine : Engine σ) (s : Session σ) :
    SessionInput σ → Request → Refusal → Prop where
  | request {request : Request} {reply : Reply} {refusal : Refusal}
      (replied : (s.replyTo engine request).1 = .ok reply)
      (refused : reply.result = .error refusal) :
      Rejects engine s (.request request) request refusal
  | greeting {request : Request} {e : DecodeError}
      (undecodable : { request with command := "initialize" }.decodeArguments
        InitializeArguments.format = .error e) :
      Rejects engine s (.greeting request) { request with command := "initialize" } (.arguments e)

/-- A request that blames the client is answered, and that is all. -/
theorem advance_of_rejects {input : SessionInput σ} (hopen : s.live.outbox.IsOpen)
    (hrejects : Rejects engine s input request refusal) (hblames : s.Blames request refusal) :
    ∃ journal, s.advance engine input =
      s.under journal (s.live.outbox.accept ((Reply.refuse refusal).letter request)) := by
  cases hrejects with
  | request replied refused =>
    obtain ⟨journal, hsame⟩ :=
      replyTo_unmoved engine request hopen _ refusal replied refused hblames
    refine ⟨journal, ?_⟩
    simp only [advance, process_of_replyTo hsame (by exact hopen)]
    rfl
  | greeting undecodable =>
    refine ⟨s.live.journal, ?_⟩
    simp only [advance, Server.answerInitialize, undecodable, send_of_isOpen hopen]
    rfl

theorem after_append (engine : Engine σ) (s : Session σ) (future past : List (SessionInput σ)) :
    s.after engine (future ++ past) = (s.after engine past).after engine future := by
  induction future with
  | nil => rfl
  | cons input future ih => simp only [List.cons_append, after, ih]

/-- After a past, the input is answered and leaves nothing else behind. All that comes later goes
the way that it goes without the input. -/
structure LeavesNoTrace (engine : Engine σ) (s : Session σ) (past : List (SessionInput σ))
    (input : SessionInput σ) (response : Letter) : Prop where
  /-- Nothing but journal and outbox is changed, and in the outbox the response is new. -/
  unchanged : ∃ journal, s.after engine (input :: past) =
    (s.after engine past).under journal ((s.after engine past).live.outbox.accept response)
  /-- Later the same letters are sent, but under other numbers, and the session is the same but for
  journal and outbox. -/
  later : ∀ future, ∃ letters journal,
    (s.after engine (future ++ past)).live.outbox =
      (s.after engine past).live.outbox.acceptAll letters ∧
    s.after engine (future ++ input :: past) = (s.after engine (future ++ past)).under journal
      (((s.after engine past).live.outbox.accept response).acceptAll letters)
  /-- Later requests have the same replies, and the same events are handled. -/
  history : ∀ future, (s.after engine (input :: past)).history engine future =
    (s.after engine past).history engine future

/-- A request that is refused because of the client leaves nothing behind but a failed response,
whatever the session and its engine have been through. -/
theorem clientFault_leavesNoTrace {settings : Settings} {state : σ}
    {past : List (SessionInput σ)} {input : SessionInput σ}
    (hrejects : Rejects engine ((new settings state).after engine past) input request refusal)
    (hblames : ((new settings state).after engine past).Blames request refusal) :
    LeavesNoTrace engine (new settings state) past input
      ((Reply.refuse refusal).letter request) := by
  set start := new settings state
  let response := (Reply.refuse refusal).letter request
  have hopen : (start.after engine past).live.outbox.IsOpen :=
    (after_consistent engine settings state past).isOpen
  have hanswered : ((start.after engine past).live.outbox.accept response).IsOpen :=
    hopen.acceptAll [response]
  obtain ⟨journal, hadvance⟩ := advance_of_rejects hopen hrejects hblames
  have hnext : start.after engine (input :: past) = (start.after engine past).under journal
      ((start.after engine past).live.outbox.accept response) := hadvance
  constructor
  · exact ⟨journal, hnext⟩
  · intro future
    obtain ⟨letters, hsent, hunder⟩ := after_under engine hopen future
    obtain ⟨-, journal', hafter⟩ := hunder journal _ hanswered
    refine ⟨letters, journal', ?_, ?_⟩
    · rw [after_append, hsent]
    · rw [after_append, hnext, hafter, after_append]
  · intro future
    obtain ⟨letters, -, hunder⟩ := after_under engine hopen future
    rw [hnext, (hunder journal _ hanswered).1]

theorem clientFault_leavesNoTrace_scopes :
    let settings : Settings := ⟨none, false, none, ⟨10, 10⟩, 10, 10, none⟩
    let state := ScriptedState.new .default .empty
    let launch : Request := ⟨1, "request", "launch", .obj [("program", .str "main.go")]⟩
    let scopes : Request := ⟨2, "request", "scopes", .obj [("frameId", .num (.int 7))]⟩
    let past := [.request launch]
    (Rejects scriptedEngine ((new settings state).after scriptedEngine past) (.request scopes)
        scopes .invalidFrame ∧
      ((new settings state).after scriptedEngine past).Blames scopes .invalidFrame) ∧
    LeavesNoTrace scriptedEngine (new settings state) past (.request scopes)
      ((Reply.refuse .invalidFrame).letter scopes) := by
  intro settings state launch scopes past
  have hrejects : Rejects scriptedEngine ((new settings state).after scriptedEngine past)
      (.request scopes) scopes .invalidFrame := .request rfl rfl
  have hblames : ((new settings state).after scriptedEngine past).Blames scopes .invalidFrame :=
    ⟨rfl, nofun⟩
  exact ⟨⟨hrejects, hblames⟩, clientFault_leavesNoTrace hrejects hblames⟩

end Session

end DebugServer
