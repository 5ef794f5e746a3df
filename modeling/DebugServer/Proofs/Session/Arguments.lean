import DebugServer.Engine.Scripted
import DebugServer.Proofs.Json.Alike
import DebugServer.Proofs.Session.Responses

/-!
# Arguments that cannot be decoded

A request whose arguments cannot be decoded is refused with a message about the fault. Where a text
stands in place of something else, the message is the same for all texts without double quotes, and
another one for each text that has some.
-/

namespace DebugServer

section

open Decoder Shape RecordFormat

theorem InitializeArguments.respects_decode : Decoder.Respects InitializeArguments.format.decode :=
  RecordFormat.respects_decode
    (((((respects_optional _ respects_text).map _).seq (respects_optional _ respects_text)).seq
      (respects_optional _ respects_bool)).seq (respects_optional _ respects_bool) |>.seq
      (respects_optional _ respects_text))
    (by decide)

theorem LaunchArguments.respects_decode : Decoder.Respects LaunchArguments.format.decode :=
  RecordFormat.respects_decode
    (((respects_optional _ respects_text).map _).seq (respects_optional _ respects_bool))
    (by decide)

theorem Source.respects_decode : Decoder.Respects Source.format.decode :=
  RecordFormat.respects_decode
    (((respects_optional _ respects_text).map _).seq (respects_optional _ respects_text))
    (by decide)

theorem SourceBreakpoint.respects_decode : Decoder.Respects SourceBreakpoint.format.decode :=
  RecordFormat.respects_decode
    ((((respects_required _ respects_int64).map _).seq (respects_optional _ respects_int64)).seq
      (respects_optional _ respects_text))
    (by decide)

theorem SetBreakpointsArguments.respects_decode :
    Decoder.Respects SetBreakpointsArguments.format.decode :=
  RecordFormat.respects_decode
    ((((respects_defaulting _ _ Source.respects_decode).map _).seq
      (respects_optional _ SourceBreakpoint.respects_decode.list)).seq
      (respects_optional _ respects_int64.list))
    (by decide)

theorem FunctionBreakpoint.respects_decode : Decoder.Respects FunctionBreakpoint.format.decode :=
  RecordFormat.respects_decode
    (((respects_required _ respects_text).map _).seq (respects_optional _ respects_text))
    (by decide)

theorem SetFunctionBreakpointsArguments.respects_decode :
    Decoder.Respects SetFunctionBreakpointsArguments.format.decode :=
  RecordFormat.respects_decode
    ((respects_defaulting _ _ FunctionBreakpoint.respects_decode.list).map _) (by decide)

theorem ThreadArguments.respects_decode : Decoder.Respects ThreadArguments.format.decode :=
  RecordFormat.respects_decode ((respects_required _ respects_int64).map _) (by decide)

theorem StackTraceArguments.respects_decode : Decoder.Respects StackTraceArguments.format.decode :=
  RecordFormat.respects_decode
    ((((respects_required _ respects_int64).map _).seq (respects_optional _ respects_int64)).seq
      (respects_optional _ respects_int64))
    (by decide)

theorem ScopesArguments.respects_decode : Decoder.Respects ScopesArguments.format.decode :=
  RecordFormat.respects_decode ((respects_required _ respects_int64).map _) (by decide)

theorem VariablesArguments.respects_decode : Decoder.Respects VariablesArguments.format.decode :=
  RecordFormat.respects_decode ((respects_required _ respects_int64).map _) (by decide)

end

namespace Request

variable {α : Type} {a b : String} {e : DecodeError}

/-- The request with arguments that have a text at some place. -/
def withText (r : Request) (place : Json.Place) (s : String) : Request :=
  { r with arguments := place.fill s }

/-- Whether the arguments can be decoded as a record. -/
def checkAs (r : Request) (format : RecordFormat α) : Except DecodeError Unit :=
  (r.decodeArguments format).map fun _ => ()

/-- Whether the arguments can be decoded as the command of the request takes them. -/
def check (r : Request) : Except DecodeError Unit :=
  if r.command = "initialize" then r.checkAs InitializeArguments.format
  else
    match Command.ofName? r.command with
    | some .launch | some .attach => r.checkAs LaunchArguments.format
    | some .setBreakpoints => r.checkAs SetBreakpointsArguments.format
    | some .setFunctionBreakpoints => r.checkAs SetFunctionBreakpointsArguments.format
    | some .resume | some .stepIn | some .next | some .stepOut | some .pause =>
      r.checkAs ThreadArguments.format
    | some .stackTrace => r.checkAs StackTraceArguments.format
    | some .scopes => r.checkAs ScopesArguments.format
    | some .listVariables => r.checkAs VariablesArguments.format
    | _ => .ok ()

theorem decodeArguments_of_checkAs {r : Request} {format : RecordFormat α}
    (h : r.checkAs format = .error e) : r.decodeArguments format = .error e := by
  unfold checkAs at h
  cases hdecode : r.decodeArguments format with
  | ok x => simp [hdecode, Except.map] at h
  | error e' =>
    rw [hdecode] at h
    exact congrArg Except.error (Except.error.inj h)

theorem checkAs_alike {format : RecordFormat α} (h : Decoder.Respects format.decode)
    (r : Request) (place : Json.Place) (a b : String) :
    DecodedAlike a b ((r.withText place a).checkAs format)
      ((r.withText place b).checkAs format) := by
  have hdecode : ∀ s, (r.withText place s).decodeArguments format =
      format.decode (place.fill s) := by
    intro s
    cases place <;> rfl
  simp only [checkAs, hdecode]
  exact (h (Json.alike_fill a b place)).map _ _

theorem check_alike (r : Request) (place : Json.Place) (a b : String) :
    DecodedAlike a b (r.withText place a).check (r.withText place b).check := by
  have hcommand : ∀ s, (r.withText place s).command = r.command := fun _ => rfl
  simp only [check, hcommand]
  split
  · exact checkAs_alike InitializeArguments.respects_decode r place a b
  cases Command.ofName? r.command with
  | none => exact .decoded () ()
  | some command =>
    cases command with
    | launch | attach => exact checkAs_alike LaunchArguments.respects_decode r place a b
    | setBreakpoints => exact checkAs_alike SetBreakpointsArguments.respects_decode r place a b
    | setFunctionBreakpoints =>
      exact checkAs_alike SetFunctionBreakpointsArguments.respects_decode r place a b
    | resume | stepIn | next | stepOut | pause =>
      exact checkAs_alike ThreadArguments.respects_decode r place a b
    | stackTrace => exact checkAs_alike StackTraceArguments.respects_decode r place a b
    | scopes => exact checkAs_alike ScopesArguments.respects_decode r place a b
    | listVariables => exact checkAs_alike VariablesArguments.respects_decode r place a b
    | configurationDone | threads | terminate | disconnect => exact .decoded () ()

end Request

/-- Of two refusals for texts in one place, the first without double quotes, the messages agree
exactly if the second has none either. -/
theorem Refusal.message_text_eq_iff {a b expected : String} (hexpected : Text.Plain expected)
    (ha : '"' ∉ a.toList) :
    (arguments (.invalidType (.text b) expected)).message =
        (arguments (.invalidType (.text a) expected)).message ↔ '"' ∉ b.toList := by
  have hrefusal : ∀ s, (arguments (.invalidType (.text s) expected)).message =
      "Invalid arguments: " ++ Text.redactMessage
        ("invalid type: " ++ ("string " ++ Text.quoted s) ++ ", expected " ++ expected) :=
    fun _ => rfl
  have hshape : ∀ s, "invalid type: " ++ ("string " ++ Text.quoted s) ++ ", expected " ++ expected =
      "invalid type: " ++ "string " ++ Text.quoted s ++ (", expected " ++ expected) := by
    intro s
    simp only [String.append_assoc]
  rw [hrefusal, hrefusal, hshape, hshape, String.append_right_inj]
  exact Text.redactMessage_quoted_eq_iff (by decide) (Text.Plain.append (by decide) hexpected) ha

namespace Session

variable {σ : Type} {engine : Engine σ} {s : Session σ} {request : Request} {e : DecodeError}

/-- Whether the arguments of a request are looked at. -/
def Allows (s : Session σ) (request : Request) : Prop :=
  request.command = "initialize" ∨ ∃ command,
    Command.ofName? request.command = some command ∧ command.refusal? s.phase = none

/-- All that is sent is a failed response with this message. -/
def Refuses (engine : Engine σ) (s : Session σ) (request : Request) (message : String) : Prop :=
  (Server.answer engine s request).2.live.outbox =
    s.live.outbox.accept (.response request.seq request.command false (some message) none)

theorem perform_of_check (hcommand : request.command ≠ "initialize")
    (hcheck : request.check = .error e) {command : Command}
    (hname : Command.ofName? request.command = some command) :
    s.perform engine request command = (.ok (.refuse (.arguments e)), s) := by
  simp only [Request.check, if_neg hcommand, hname] at hcheck
  cases command with
  | launch | attach =>
    simp only [perform, performLaunch, Request.decodeArguments_of_checkAs hcheck]
  | setBreakpoints | setFunctionBreakpoints | resume | stepIn | next | stepOut | pause
  | stackTrace | scopes | listVariables =>
    simp only [perform, withArguments, answered, Request.decodeArguments_of_checkAs hcheck]
  | configurationDone | threads | terminate | disconnect => cases hcheck

theorem refuses_of_check (hopen : s.live.outbox.IsOpen) (hallows : s.Allows request)
    (hcheck : request.check = .error e) :
    s.Refuses engine request (Refusal.arguments e).message := by
  unfold Refuses Server.answer
  by_cases hcommand : request.command = "initialize"
  · simp only [Request.check, hcommand, if_true] at hcheck
    rw [if_pos hcommand]
    simp only [Server.answerInitialize, Request.decodeArguments_of_checkAs hcheck,
      send_of_isOpen hopen]
    rfl
  · obtain ⟨command, hname, hphase⟩ := hallows.resolve_left hcommand
    have hreply : s.replyTo engine request = (.ok (.refuse (.arguments e)),
        s.log (Log.session .debug "request"
          [("command", .text request.command), ("seq", .number request.seq.toInt)])) := by
      unfold replyTo dispatch
      rw [hname]
      simp only
      rw [show command.refusal? (log s _).phase = none from hphase]
      exact perform_of_check hcommand hcheck hname
    rw [if_neg hcommand, process_of_replyTo hreply hopen]
    rfl

/-- Put in the place of a text without double quotes, a text without double quotes is refused with
the same message. Any other text is not, where it is itself the fault. -/
theorem refuses_texts (hopen : s.live.outbox.IsOpen) (hallows : s.Allows request)
    (place : Json.Place) {a : String} (ha : '"' ∉ a.toList)
    (hcheck : (request.withText place a).check = .error e) (b : String) :
    ∃ e', (request.withText place b).check = .error e' ∧
      s.Refuses engine (request.withText place a) (Refusal.arguments e).message ∧
      s.Refuses engine (request.withText place b) (Refusal.arguments e').message ∧
      ('"' ∉ b.toList → (Refusal.arguments e').message = (Refusal.arguments e).message) ∧
      ('"' ∈ b.toList → e' ≠ e →
        (Refusal.arguments e').message ≠ (Refusal.arguments e).message) := by
  have halike := request.check_alike place a b
  rw [hcheck] at halike
  generalize hcheck' : (request.withText place b).check = r' at halike
  have hrefuses : ∀ {e'}, r' = .error e' →
      s.Refuses engine (request.withText place b) (Refusal.arguments e').message :=
    fun he' => refuses_of_check hopen hallows (hcheck'.trans he')
  cases halike with
  | same =>
    refine ⟨e, rfl, refuses_of_check hopen hallows hcheck, hrefuses rfl, fun _ => rfl, ?_⟩
    intro _ hne
    exact absurd rfl hne
  | text hexpected =>
    have hiff := fun b => Refusal.message_text_eq_iff (b := b) hexpected ha
    refine ⟨_, rfl, refuses_of_check hopen hallows hcheck, hrefuses rfl, (hiff b).mpr, ?_⟩
    intro hb _ heq
    exact (hiff b).mp heq hb

theorem refuses_texts_launch :
    let s : Session ScriptedState :=
      .new ⟨none, false, none, ⟨10, 10⟩, 10, 10, none⟩ (.new .default .empty)
    let request : Request := ⟨1, "request", "launch", .null⟩
    let place : Json.Place := .member [] "stopOnEntry" .here []
    let e : DecodeError := .invalidType (.text "hunter2") "a boolean"
    (s.live.outbox.IsOpen ∧ s.Allows request ∧ '"' ∉ "hunter2".toList ∧
      (request.withText place "hunter2").check = .error e) ∧
    ∃ e', (request.withText place "swordfish").check = .error e' ∧
      s.Refuses scriptedEngine (request.withText place "hunter2") (Refusal.arguments e).message ∧
      s.Refuses scriptedEngine (request.withText place "swordfish")
        (Refusal.arguments e').message ∧
      ('"' ∉ "swordfish".toList →
        (Refusal.arguments e').message = (Refusal.arguments e).message) ∧
      ('"' ∈ "swordfish".toList → e' ≠ e →
        (Refusal.arguments e').message ≠ (Refusal.arguments e).message) := by
  intro s request place e
  have hopen : s.live.outbox.IsOpen := ⟨rfl, rfl⟩
  have hallows : s.Allows request := .inr ⟨.launch, by decide, rfl⟩
  have hquotes : '"' ∉ "hunter2".toList := by decide
  have hcheck : (request.withText place "hunter2").check = .error e := by decide
  exact ⟨⟨hopen, hallows, hquotes, hcheck⟩,
    refuses_texts hopen hallows place hquotes hcheck "swordfish"⟩

/-- A double quote in a text lets through what follows it. -/
theorem refuses_quoted_text :
    let s : Session ScriptedState :=
      .new ⟨none, false, none, ⟨10, 10⟩, 10, 10, none⟩ (.new .default .empty)
    let request : Request := ⟨1, "request", "launch", .null⟩
    let place : Json.Place := .member [] "stopOnEntry" .here []
    (∀ text ∈ ["hunter2", "a\"hunter2"],
      (request.withText place text).check = .error (.invalidType (.text text) "a boolean")) ∧
    s.Refuses scriptedEngine (request.withText place "hunter2")
      "Invalid arguments: invalid type: string \"<redacted>\", expected a boolean" ∧
    s.Refuses scriptedEngine (request.withText place "a\"hunter2")
      "Invalid arguments: invalid type: string \"<redacted>\"hunter2\", expected a boolean" := by
  intro s request place
  have hopen : s.live.outbox.IsOpen := ⟨rfl, rfl⟩
  have hallows : s.Allows request := .inr ⟨.launch, by decide, rfl⟩
  have hcheck : ∀ text ∈ ["hunter2", "a\"hunter2"],
      (request.withText place text).check = .error (.invalidType (.text text) "a boolean") := by
    decide
  have hplain : (Refusal.arguments (.invalidType (.text "hunter2") "a boolean")).message =
      "Invalid arguments: invalid type: string \"<redacted>\", expected a boolean" := by
    decide +kernel
  have hquoted : (Refusal.arguments (.invalidType (.text "a\"hunter2") "a boolean")).message =
      "Invalid arguments: invalid type: string \"<redacted>\"hunter2\", expected a boolean" := by
    decide +kernel
  refine ⟨hcheck, ?_, ?_⟩
  · rw [← hplain]
    exact refuses_of_check hopen hallows (hcheck _ (by decide))
  · rw [← hquoted]
    exact refuses_of_check hopen hallows (hcheck _ (by decide))

end Session

end DebugServer
