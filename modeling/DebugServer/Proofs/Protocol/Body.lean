import DebugServer.Proofs.Protocol.Arguments
import DebugServer.Protocol.Body
import DebugServer.Protocol.Message

/-!
# Messages are read as they were written

A client that reads a message finds in it what the session sent: the parts of the message under
their names and, in the body, the record that it was made of. Where a record holds integers of any
size, they have to be such as the client can read.
-/

namespace DebugServer

open Decoder Shape
open Json (keysIn_nil keysIn_optional str_ne_null bool_ne_null int64_ne_null)

theorem Json.int_ne_null (n : Int) : Json.int n ≠ .null := nofun

/-- Whether an integer has 64 bits. Clients read no others. -/
def IsInt64 (n : Int) : Prop :=
  Int64.minValue.toInt ≤ n ∧ n ≤ Int64.maxValue.toInt

theorem Capabilities.reads_format : format.decode.Reads toJson := by
  intro c
  apply RecordFormat.decode_of_gives keysIn_nil.field.field.field.field (by decide) rfl
  exact ((((gives_required (reads_bool c.configurationDoneRequest) rfl).map mk).seq
    (gives_required (reads_bool c.functionBreakpoints) rfl)).seq
    (gives_required (reads_bool c.terminateRequest) rfl)).seq
    (gives_required (reads_bool c.conditionalBreakpoints) rfl)

theorem BreakpointReport.reads_format : format.decode.Reads toJson := by
  intro b
  apply RecordFormat.decode_of_gives
    ((keysIn_optional.append keysIn_optional).append keysIn_nil.field) (by decide) rfl
  refine (((gives_required (reads_bool b.verified) ?_).map mk).seq
    (gives_omitted reads_int64 int64_ne_null ?_)).seq
    (gives_omitted reads_int64 int64_ne_null ?_)
  all_goals simp [List.lookup_append, Json.lookup_optional, Json.lookup_field]

theorem BreakpointsBody.reads_format : format.decode.Reads toJson := by
  intro b
  apply RecordFormat.decode_of_gives keysIn_nil.field (by decide) rfl
  exact (gives_required (BreakpointReport.reads_format.list b.breakpoints) rfl).map mk

theorem ContinueBody.reads_format : format.decode.Reads toJson := by
  intro b
  apply RecordFormat.decode_of_gives keysIn_nil.field (by decide) rfl
  exact (gives_required (reads_bool b.allThreads) rfl).map mk

theorem ThreadReport.reads_format : format.decode.Reads toJson := by
  intro t
  apply RecordFormat.decode_of_gives keysIn_nil.field.field (by decide) rfl
  exact ((gives_required (reads_int64 t.id) rfl).map mk).seq
    (gives_required (reads_text t.name) rfl)

theorem ThreadsBody.reads_format : format.decode.Reads toJson := by
  intro b
  apply RecordFormat.decode_of_gives keysIn_nil.field (by decide) rfl
  exact (gives_required (ThreadReport.reads_format.list b.threads) rfl).map mk

theorem StackFrame.decode_toJson {f : StackFrame} (h : IsInt64 f.id) :
    format.decode f.toJson = .ok f := by
  apply RecordFormat.decode_of_gives
    (keysIn_nil.field.field.field.field.append keysIn_optional) (by decide) rfl
  refine (((((gives_required (integer_int h) ?_).map mk).seq
    (gives_required (reads_text f.name) ?_)).seq
    (gives_omitted Source.reads_format nofun ?_)).seq
    (gives_required (reads_int64 f.line) ?_)).seq
    (gives_required (reads_int64 f.column) ?_)
  all_goals simp [Json.lookup_optional, Json.lookup_field]

theorem StackTraceBody.decode_toJson {b : StackTraceBody}
    (hframes : ∀ f ∈ b.frames, IsInt64 f.id) (htotal : ∀ n ∈ b.total, IsInt64 n) :
    format.decode b.toJson = .ok b := by
  apply RecordFormat.decode_of_gives keysIn_optional.field (by decide) rfl
  refine ((gives_required (list_map fun f hf => StackFrame.decode_toJson (hframes f hf)) ?_).map
    mk).seq (gives_omitted_of (fun n hn => ⟨integer_int (htotal n hn), Json.int_ne_null n⟩) ?_)
  all_goals simp [Json.lookup_optional, Json.lookup_field]

theorem ScopeReport.decode_toJson {s : ScopeReport} (h : IsInt64 s.reference) :
    format.decode s.toJson = .ok s := by
  apply RecordFormat.decode_of_gives
    ((keysIn_nil.field.field.append keysIn_optional).append keysIn_nil.field) (by decide) rfl
  refine ((((gives_required (reads_text s.name) ?_).map mk).seq
    (gives_omitted reads_text str_ne_null ?_)).seq
    (gives_required (integer_int h) ?_)).seq
    (gives_required (reads_bool s.expensive) ?_)
  all_goals simp [List.lookup_append, Json.lookup_optional, Json.lookup_field]

theorem ScopesBody.decode_toJson {b : ScopesBody} (h : ∀ s ∈ b.scopes, IsInt64 s.reference) :
    format.decode b.toJson = .ok b := by
  apply RecordFormat.decode_of_gives keysIn_nil.field (by decide) rfl
  exact (gives_required (list_map fun s hs => ScopeReport.decode_toJson (h s hs)) rfl).map mk

theorem VariableReport.decode_toJson {v : VariableReport} (h : IsInt64 v.reference) :
    format.decode v.toJson = .ok v := by
  apply RecordFormat.decode_of_gives
    (Json.KeysIn.append keysIn_optional.field keysIn_nil.field.field) (by decide) rfl
  refine ((((gives_required (reads_text v.name) ?_).map mk).seq
    (gives_required (reads_text v.value) ?_)).seq
    (gives_omitted reads_text str_ne_null ?_)).seq
    (gives_required (integer_int h) ?_)
  all_goals simp [List.lookup_append, Json.lookup_optional, Json.lookup_field]

theorem VariablesBody.decode_toJson {b : VariablesBody}
    (h : ∀ v ∈ b.reports, IsInt64 v.reference) : format.decode b.toJson = .ok b := by
  apply RecordFormat.decode_of_gives keysIn_nil.field (by decide) rfl
  exact (gives_required (list_map fun v hv => VariableReport.decode_toJson (h v hv)) rfl).map mk

theorem FailureMessage.reads_format : recordFormat.decode.Reads toJson := by
  intro m
  apply RecordFormat.decode_of_gives keysIn_nil.field.field (by decide) rfl
  exact ((gives_required (reads_int64 m.id) rfl).map mk).seq
    (gives_required (reads_text m.format) rfl)

theorem ErrorBody.reads_format : format.decode.Reads toJson := by
  intro b
  apply RecordFormat.decode_of_gives keysIn_nil.field (by decide) rfl
  exact (gives_required (FailureMessage.reads_format b.error) rfl).map mk

/-- Data that is `null` cannot be told from no data. -/
theorem OutputBody.decode_toJson {b : OutputBody} (h : b.data ≠ some .null) :
    format.decode b.toJson = .ok b := by
  have hdata : ∀ j ∈ b.data, json (id j) = .ok j ∧ id j ≠ .null := fun j hj =>
    ⟨rfl, fun hnull => h (by rw [← hnull]; exact hj)⟩
  apply RecordFormat.decode_of_gives (Json.KeysIn.append keysIn_optional.field keysIn_nil.field)
    (by decide) rfl
  refine (((gives_required (reads_text b.category) ?_).map mk).seq
    (gives_required (reads_text b.output) ?_)).seq (gives_omitted_of hdata ?_)
  all_goals simp [List.lookup_append, Json.lookup_optional, Json.lookup_field]

theorem StoppedBody.reads_format : format.decode.Reads toJson := by
  intro b
  apply RecordFormat.decode_of_gives keysIn_nil.field.field (by decide) rfl
  exact ((gives_required (reads_text b.reason) rfl).map mk).seq
    (gives_required (reads_int64 b.thread) rfl)

theorem ThreadBody.reads_format : format.decode.Reads toJson := by
  intro b
  apply RecordFormat.decode_of_gives keysIn_nil.field.field (by decide) rfl
  exact ((gives_required (reads_text b.reason) rfl).map mk).seq
    (gives_required (reads_int64 b.thread) rfl)

/-- Reads one of several kinds of records. -/
def Decoder.into {α β : Type} (decoder : Decoder α) (kind : α → β) : Decoder β :=
  fun j => (decoder j).map kind

theorem Decoder.into_eq_ok {α β : Type} {decoder : Decoder α} {j : Json} {x : α}
    (h : decoder j = .ok x) (kind : α → β) : decoder.into kind j = .ok (kind x) := by
  rw [into, h]
  rfl

/-- Reads a body, if there is one and it can be read at all. -/
def readBody {α : Type} (decoder? : Option (Decoder α)) (body : Option Json) :
    Except DecodeError (Option α) :=
  match decoder?, body with
  | some decoder, some j => (decoder j).map some
  | _, _ => .ok none

theorem readBody_eq_ok {α : Type} {decoder : Decoder α} {j : Json} {x : α}
    (h : decoder j = .ok x) : readBody (some decoder) (some j) = .ok (some x) := by
  rw [readBody, h]
  rfl

/-- The record in the body of an event. -/
inductive EventBody where
  | output (body : OutputBody)
  | stopped (body : StoppedBody)
  | thread (body : ThreadBody)

/-- How the bodies of events of this name are read, if they have one. -/
def EventBody.decoder? (name : String) : Option (Decoder EventBody) :=
  match name with
  | "output" => some (OutputBody.format.decode.into .output)
  | "stopped" => some (StoppedBody.format.decode.into .stopped)
  | "thread" => some (ThreadBody.format.decode.into .thread)
  | _ => none

namespace SessionEvent

def name : SessionEvent → String
  | .initialized => "initialized"
  | .output _ _ => "output"
  | .stopped _ _ => "stopped"
  | .threadStarted _ | .threadExited _ => "thread"
  | .terminated => "terminated"

/-- What an event says beyond its name. -/
def body? : SessionEvent → Option EventBody
  | .initialized | .terminated => none
  | .output stream text => some (.output ⟨stream.category, text, none⟩)
  | .stopped reason thread => some (.stopped ⟨reason.clientName, thread⟩)
  | .threadStarted thread => some (.thread ⟨"started", thread⟩)
  | .threadExited thread => some (.thread ⟨"exited", thread⟩)

/-- All that an event says is found in its letter. -/
theorem read_letter (event : SessionEvent) :
    ∃ body, event.letter = .event event.name body ∧
      readBody (EventBody.decoder? event.name) body = .ok event.body? := by
  cases event with
  | initialized | terminated => exact ⟨none, rfl, rfl⟩
  | output stream text =>
    have hread : OutputBody.format.decode (OutputBody.toJson ⟨stream.category, text, none⟩) =
        .ok ⟨stream.category, text, none⟩ := OutputBody.decode_toJson nofun
    exact ⟨_, rfl, readBody_eq_ok (into_eq_ok hread _)⟩
  | stopped reason thread =>
    exact ⟨_, rfl, readBody_eq_ok (into_eq_ok (StoppedBody.reads_format ⟨_, thread⟩) _)⟩
  | threadStarted thread | threadExited thread =>
    exact ⟨_, rfl, readBody_eq_ok (into_eq_ok (ThreadBody.reads_format ⟨_, thread⟩) _)⟩

end SessionEvent

namespace Json

def bool? : Json → Option Bool
  | .bool b => some b
  | _ => none

def int? : Json → Option Int
  | .num (.int n) => some n
  | _ => none

end Json

/-- The response or event that a client finds in a message. -/
def Letter.ofJson? (j : Json) : Option Letter := do
  match ← (j.field? "type").bind Json.text? with
  | "response" =>
    let requestSeq ← (j.field? "request_seq").bind Json.int?
    let command ← (j.field? "command").bind Json.text?
    let success ← (j.field? "success").bind Json.bool?
    let message := (j.field? "message").bind Json.text?
    return .response (.ofInt requestSeq) command success message (j.field? "body")
  | "event" =>
    let name ← (j.field? "event").bind Json.text?
    return .event name (j.field? "body")
  | _ => none

/-- The message that a client reads, with its number. -/
def Message.ofJson? (j : Json) : Option Message := do
  let seq ← (j.field? "seq").bind Json.int?
  return ⟨seq.toNat, ← Letter.ofJson? j⟩

theorem Message.ofJson?_toJson (m : Message) : ofJson? m.toJson = some m := by
  obtain ⟨seq, letter⟩ := m
  cases letter with
  | response requestSeq command success message body =>
    have hfields : ∀ name, (toJson ⟨seq, .response requestSeq command success message body⟩).field?
        name = _ := fun name => Json.field?_object name _
    cases message <;> cases body <;>
      simp [ofJson?, Letter.ofJson?, hfields, Json.optional, Json.lookup_field, Json.text?,
        Json.int?, Json.bool?, Json.int]
  | event name body =>
    have hfields : ∀ key, (toJson ⟨seq, .event name body⟩).field? key = _ :=
      fun key => Json.field?_object key _
    cases body <;>
      simp [ofJson?, Letter.ofJson?, hfields, Json.optional, Json.lookup_field, Json.text?,
        Json.int?, Json.int]

end DebugServer
