import DebugServer.Proofs.Protocol.Body
import DebugServer.Proofs.Session.Course
import DebugServer.Server

/-!
# What a client reads of a response

A response names its command, and the command says which record the body of a successful response
is. So a client that knows no more than the protocol finds in a response just the reply that the
session gave.
-/

namespace DebugServer

open Decoder

namespace ReplyBody

inductive Kind where
  | capabilities
  | breakpoints
  | continued
  | threads
  | stackTrace
  | scopes
  | variableList
  | error

def kind : ReplyBody → Kind
  | .capabilities _ => .capabilities
  | .breakpoints _ => .breakpoints
  | .continued _ => .continued
  | .threads _ => .threads
  | .stackTrace _ => .stackTrace
  | .scopes _ => .scopes
  | .variableList _ => .variableList
  | .error _ => .error

/-- Each kind of body is read in its own format. -/
def Kind.decode : Kind → Decoder ReplyBody
  | .capabilities => Capabilities.format.decode.into .capabilities
  | .breakpoints => BreakpointsBody.format.decode.into .breakpoints
  | .continued => ContinueBody.format.decode.into .continued
  | .threads => ThreadsBody.format.decode.into .threads
  | .stackTrace => StackTraceBody.format.decode.into .stackTrace
  | .scopes => ScopesBody.format.decode.into .scopes
  | .variableList => VariablesBody.format.decode.into .variableList
  | .error => ErrorBody.format.decode.into .error

/-- The handles in a body, and how many frames there are in all. -/
def integers : ReplyBody → List Int
  | .stackTrace b => b.frames.map (·.id) ++ b.total.toList
  | .scopes b => b.scopes.map (·.reference)
  | .variableList b => b.reports.map (·.reference)
  | .capabilities _ | .breakpoints _ | .continued _ | .threads _ | .error _ => []

theorem decode_toJson {b : ReplyBody} (h : ∀ n ∈ b.integers, IsInt64 n) :
    b.kind.decode b.toJson = .ok b := by
  cases b with
  | capabilities b => exact into_eq_ok (Capabilities.reads_format b) _
  | breakpoints b => exact into_eq_ok (BreakpointsBody.reads_format b) _
  | continued b => exact into_eq_ok (ContinueBody.reads_format b) _
  | threads b => exact into_eq_ok (ThreadsBody.reads_format b) _
  | error b => exact into_eq_ok (ErrorBody.reads_format b) _
  | stackTrace b =>
    refine into_eq_ok (StackTraceBody.decode_toJson (fun f hf => h _ ?_) fun n hn => h _ ?_) _
    · exact List.mem_append_left _ (List.mem_map_of_mem hf)
    · exact List.mem_append_right _ (Option.mem_toList.mpr hn)
  | scopes b =>
    exact into_eq_ok (ScopesBody.decode_toJson fun s hs => h _ (List.mem_map_of_mem hs)) _
  | variableList b =>
    exact into_eq_ok (VariablesBody.decode_toJson fun v hv => h _ (List.mem_map_of_mem hv)) _

/-- Which body a successful response to a command has, if it has one. -/
def Kind.ofCommand? (command : String) : Option Kind :=
  match command with
  | "initialize" => some .capabilities
  | "setBreakpoints" | "setFunctionBreakpoints" => some .breakpoints
  | "continue" => some .continued
  | "threads" => some .threads
  | "stackTrace" => some .stackTrace
  | "scopes" => some .scopes
  | "variables" => some .variableList
  | _ => none

/-- How the body of a response is read. -/
def decoder? (command : String) (success : Bool) : Option (Decoder ReplyBody) :=
  if success then (Kind.ofCommand? command).map Kind.decode else some Kind.error.decode

end ReplyBody

namespace Reply

/-- Whether a reply suits a command: on success it has no other body than the command asks for. -/
def Suits (reply : Reply) (command : String) : Prop :=
  ∀ b, reply.result = .ok (some b) → ReplyBody.Kind.ofCommand? command = some b.kind

theorem suits_refuse (refusal : Refusal) (flow : Flow) (command : String) :
    (⟨.error refusal, flow⟩ : Reply).Suits command :=
  nofun

theorem suits_none (flow : Flow) (command : String) : (⟨.ok none, flow⟩ : Reply).Suits command :=
  nofun

theorem suits_body {b : ReplyBody} {command : String}
    (h : ReplyBody.Kind.ofCommand? command = some b.kind) : (body b).Suits command := by
  intro b' hb'
  obtain rfl := Option.some.inj (Except.ok.inj hb')
  exact h

/-- The only refusal with a body is that of a program which does not compile. -/
theorem Suits.read {reply : Reply} {command : String} (h : reply.Suits command)
    (hint64 : ∀ b ∈ reply.body?, ∀ n ∈ b.integers, IsInt64 n) :
    readBody (ReplyBody.decoder? command reply.succeeded) (reply.body?.map (·.toJson)) =
      .ok reply.body? := by
  obtain ⟨result, flow⟩ := reply
  cases result with
  | error refusal =>
    cases refusal with
    | compileFailed e => exact readBody_eq_ok (ReplyBody.decode_toJson (hint64 _ rfl))
    | _ => rfl
  | ok body =>
    cases body with
    | none =>
      change readBody (ReplyBody.decoder? command true) none = .ok none
      cases ReplyBody.decoder? command true <;> rfl
    | some b =>
      have hdecoder : ReplyBody.decoder? command true = some b.kind.decode := by
        rw [ReplyBody.decoder?, if_pos rfl, h b rfl]
        rfl
      exact (congrArg (readBody · _) hdecoder).trans
        (readBody_eq_ok (ReplyBody.decode_toJson (hint64 b rfl)))

/-- Whether a client finds the whole reply in the response to a request. -/
def IsReadFor (reply : Reply) (request : Request) : Prop :=
  ∀ seq : Nat, ∃ body,
    Message.ofJson? (Message.toJson ⟨seq, reply.letter request⟩) = some ⟨seq,
      .response request.seq request.command reply.succeeded (some reply.message) body⟩ ∧
    readBody (ReplyBody.decoder? request.command reply.succeeded) body = .ok reply.body?

theorem Suits.isReadFor {reply : Reply} {request : Request} (h : reply.Suits request.command)
    (hint64 : ∀ b ∈ reply.body?, ∀ n ∈ b.integers, IsInt64 n) :
    reply.IsReadFor request :=
  fun _ => ⟨_, Message.ofJson?_toJson _, h.read hint64⟩

end Reply

namespace Session

open Reply

variable {σ : Type} {engine : Engine σ} {s s' : Session σ} {request : Request} {reply : Reply}

theorem withArguments_suits {α : Type} {format : RecordFormat α} {action : α → Reply × Session σ}
    {command : String} (h : ∀ a, (action a).1.Suits command) :
    (s.withArguments request format action).1.Suits command := by
  unfold withArguments
  split
  · exact suits_refuse _ _ _
  · exact h _

theorem resolve_suits {target : BreakpointTarget} {requests : List BreakpointRequest}
    {command : String} (h : ReplyBody.Kind.ofCommand? command = some .breakpoints) :
    (s.resolve engine target requests).1.Suits command := by
  unfold resolve
  dsimp only
  split <;> exact suits_body h

theorem setBreakpoints_suits (a : SetBreakpointsArguments) :
    (s.setBreakpoints engine a).1.Suits "setBreakpoints" := by
  unfold setBreakpoints
  split
  · exact suits_refuse _ _ _
  · exact suits_refuse _ _ _
  · exact resolve_suits rfl

theorem setFunctionBreakpoints_suits (a : SetFunctionBreakpointsArguments) :
    (s.setFunctionBreakpoints engine a).1.Suits "setFunctionBreakpoints" := by
  unfold setFunctionBreakpoints
  split
  · exact suits_refuse _ _ _
  · exact resolve_suits rfl

theorem resume_suits (a : ThreadArguments) : (s.resume engine a).1.Suits "continue" := by
  unfold resume
  split
  · exact suits_refuse _ _ _
  dsimp only
  split
  · exact suits_body rfl
  · exact suits_refuse _ _ _

theorem step_suits (reason : StopReason) (a : ThreadArguments) (command : String) :
    (s.step engine reason a).1.Suits command := by
  unfold step
  split
  · exact suits_refuse _ _ _
  dsimp only
  split
  · exact suits_none _ _
  · exact suits_refuse _ _ _

theorem pause_suits (a : ThreadArguments) (command : String) :
    (s.pause engine a).1.Suits command := by
  unfold pause
  split
  · exact suits_refuse _ _ _
  dsimp only
  split
  · exact suits_none _ _
  · exact suits_refuse _ _ _

theorem threads_suits : (s.threads engine).1.Suits "threads" := by
  unfold threads
  split
  · exact suits_refuse _ _ _
  · exact suits_body rfl

theorem stackTrace_suits (a : StackTraceArguments) : (s.stackTrace a).1.Suits "stackTrace" := by
  unfold stackTrace
  split
  · exact suits_refuse _ _ _
  dsimp only
  split
  · exact suits_body rfl
  · exact suits_refuse _ _ _

theorem scopes_suits (a : ScopesArguments) : (s.scopes a).1.Suits "scopes" := by
  unfold scopes
  dsimp only
  split
  · exact suits_refuse _ _ _
  dsimp only
  split
  · exact suits_body rfl
  · exact suits_refuse _ _ _

theorem listVariables_suits (a : VariablesArguments) :
    (s.listVariables engine a).1.Suits "variables" := by
  unfold listVariables
  dsimp only
  split
  · exact suits_refuse _ _ _
  · exact suits_body rfl

theorem finishConfiguration_suits (command : String) :
    (s.finishConfiguration engine).1.Suits command := by
  rcases s.finishConfiguration_cases engine with
    ⟨refusal, hrefused⟩ | ⟨-, -, call, hdone | ⟨refusal, hrefused⟩⟩
  · rw [hrefused]
    exact suits_refuse _ _ _
  · rw [hdone]
    exact suits_none _ _
  · rw [hrefused]
    exact suits_refuse _ _ _

theorem suits_of_sent {sent : Except TransportError Unit} {r : Reply} {command : String}
    (hr : r.Suits command) (h : sent.map (fun () => r) = .ok reply) : reply.Suits command := by
  cases sent with
  | error e => cases h
  | ok _ =>
    obtain rfl := Except.ok.inj h
    exact hr

/-- However a launch ends, it is without a result that the client could be told. -/
theorem performLaunch_suits (h : s.performLaunch engine request = (.ok reply, s'))
    (command : String) : reply.Suits command := by
  unfold performLaunch at h
  split at h
  · obtain rfl := Except.ok.inj (congrArg Prod.fst h)
    exact suits_refuse _ _ _
  unfold launch at h
  split at h
  · obtain rfl := Except.ok.inj (congrArg Prod.fst h)
    exact suits_refuse _ _ _
  rename_i source _
  generalize hready : ({ s with stopAtEntry := _ } : Session σ) = ready at h
  cases hlaunch : engine.launch source ready.engine with
  | mk outcome state =>
  cases outcome with
  | error refusal =>
    obtain ⟨connected, journal, hcompile⟩ := compile_of_error hlaunch
    exact suits_of_sent (suits_refuse _ _ _) (congrArg Prod.fst (hcompile.symm.trans h))
  | ok program =>
    obtain ⟨journal, hcompile⟩ := compile_of_ok hlaunch
    exact suits_of_sent (suits_none _ _) (congrArg Prod.fst (hcompile.symm.trans h))

theorem perform_suits {c : Command} (h : s.perform engine request c = (.ok reply, s')) :
    reply.Suits c.name := by
  have answered_suits : ∀ {outcome : Reply × Session σ}, outcome.1.Suits c.name →
      answered outcome = (.ok reply, s') → reply.Suits c.name := by
    intro outcome hsuits houtcome
    obtain rfl := Except.ok.inj (congrArg Prod.fst houtcome)
    exact hsuits
  cases c with
  | launch | attach => exact performLaunch_suits h _
  | setBreakpoints => exact answered_suits (withArguments_suits setBreakpoints_suits) h
  | setFunctionBreakpoints =>
    exact answered_suits (withArguments_suits setFunctionBreakpoints_suits) h
  | configurationDone => exact answered_suits (finishConfiguration_suits _) h
  | resume => exact answered_suits (withArguments_suits resume_suits) h
  | stepIn | next | stepOut =>
    exact answered_suits (withArguments_suits fun a => step_suits _ a _) h
  | pause => exact answered_suits (withArguments_suits fun a => pause_suits a _) h
  | threads => exact answered_suits threads_suits h
  | stackTrace => exact answered_suits (withArguments_suits stackTrace_suits) h
  | scopes => exact answered_suits (withArguments_suits scopes_suits) h
  | listVariables => exact answered_suits (withArguments_suits listVariables_suits) h
  | terminate | disconnect => exact answered_suits (suits_none _ _) h

theorem replyTo_suits (h : s.replyTo engine request = (.ok reply, s')) :
    reply.Suits request.command := by
  unfold replyTo dispatch at h
  split at h
  · obtain rfl := Except.ok.inj (congrArg Prod.fst h)
    exact suits_refuse _ _ _
  rename_i c hname
  split at h
  · obtain rfl := Except.ok.inj (congrArg Prod.fst h)
    exact suits_refuse _ _ _
  · rw [← Command.ofName?_eq_some_iff.mp hname]
    exact perform_suits h

/-- A client finds in the response, as it is written, all that the session has replied, provided
that it can read the integers. -/
theorem response_read (h : s.replyTo engine request = (.ok reply, s'))
    (hint64 : ∀ b ∈ reply.body?, ∀ n ∈ b.integers, IsInt64 n) :
    reply.IsReadFor request :=
  (replyTo_suits h).isReadFor hint64

end Session

/-- So it does in the response to `initialize`. -/
theorem Server.greeting_read {σ : Type} (s : Session σ) {request : Request}
    (h : request.command = "initialize") :
    ∃ (reply : Reply) (s' : Session σ),
      answerInitialize s request = s'.send (reply.letter request) ∧
      reply.IsReadFor request := by
  unfold answerInitialize
  split
  · rename_i e _
    exact ⟨.refuse (.arguments e), s, rfl, (Reply.suits_refuse _ _ _).isReadFor nofun⟩
  · rename_i a _
    refine ⟨.body (.capabilities (s.configure a).1), (s.configure a).2, rfl, ?_⟩
    refine Reply.Suits.isReadFor (Reply.suits_body (by rw [h]; rfl)) ?_
    rintro b hb n hn
    obtain rfl := Option.some.inj hb
    cases hn

end DebugServer
