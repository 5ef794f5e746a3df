import DebugServer.Proofs.Json.RoundTrip
import DebugServer.Protocol.Request

/-!
# Arguments are read as they were written

Writing the arguments of a request and reading them again changes nothing. So arguments that came
in some other form, with members that nothing asks for or by position, have one written form.
-/

namespace DebugServer

open Decoder Shape

theorem Json.str_ne_null (s : String) : Json.str s ≠ .null := nofun

theorem Json.bool_ne_null (b : Bool) : Json.bool b ≠ .null := nofun

theorem Json.int64_ne_null (n : Int64) : Json.int64 n ≠ .null := nofun

theorem Json.arr_ne_null {α : Type} (write : α → Json) (items : List α) :
    Json.arr (items.map write) ≠ .null := nofun

open Json (keysIn_nil keysIn_optional str_ne_null bool_ne_null int64_ne_null arr_ne_null)

theorem InitializeArguments.reads_format : format.decode.Reads toJson := by
  intro a
  apply RecordFormat.decode_of_gives ((((keysIn_optional.append keysIn_optional).append
    keysIn_optional).append keysIn_optional).append keysIn_optional) (by decide) rfl
  refine (((((gives_omitted reads_text str_ne_null ?_).map mk).seq
    (gives_omitted reads_text str_ne_null ?_)).seq
    (gives_omitted reads_bool bool_ne_null ?_)).seq
    (gives_omitted reads_bool bool_ne_null ?_)).seq
    (gives_omitted reads_text str_ne_null ?_)
  all_goals simp [List.lookup_append, Json.lookup_optional]

theorem LaunchArguments.reads_format : format.decode.Reads toJson := by
  intro a
  apply RecordFormat.decode_of_gives keysIn_nil.field.field (by decide) rfl
  exact ((gives_nullable reads_text str_ne_null rfl).map mk).seq
    (gives_nullable reads_bool bool_ne_null rfl)

theorem Source.reads_format : format.decode.Reads toJson := by
  intro s
  apply RecordFormat.decode_of_gives (keysIn_optional.append keysIn_optional) (by decide) rfl
  refine ((gives_omitted reads_text str_ne_null ?_).map mk).seq
    (gives_omitted reads_text str_ne_null ?_)
  all_goals simp [List.lookup_append, Json.lookup_optional]

theorem SourceBreakpoint.reads_format : format.decode.Reads toJson := by
  intro b
  apply RecordFormat.decode_of_gives
    ((keysIn_optional.append keysIn_optional).append keysIn_nil.field) (by decide) rfl
  refine (((gives_required (reads_int64 b.line) ?_).map mk).seq
    (gives_omitted reads_int64 int64_ne_null ?_)).seq
    (gives_omitted reads_text str_ne_null ?_)
  all_goals simp [List.lookup_append, Json.lookup_optional, Json.lookup_field]

theorem SetBreakpointsArguments.reads_format : format.decode.Reads toJson := by
  intro a
  apply RecordFormat.decode_of_gives keysIn_nil.field.field.field (by decide) rfl
  exact (((gives_defaulting (Source.reads_format a.source) rfl).map mk).seq
    (gives_nullable SourceBreakpoint.reads_format.list (arr_ne_null _) rfl)).seq
    (gives_nullable reads_int64.list (arr_ne_null _) rfl)

theorem FunctionBreakpoint.reads_format : format.decode.Reads toJson := by
  intro b
  apply RecordFormat.decode_of_gives (keysIn_optional.append keysIn_nil.field) (by decide) rfl
  refine ((gives_required (reads_text b.name) ?_).map mk).seq
    (gives_omitted reads_text str_ne_null ?_)
  all_goals simp [List.lookup_append, Json.lookup_optional, Json.lookup_field]

theorem SetFunctionBreakpointsArguments.reads_format : format.decode.Reads toJson := by
  intro a
  apply RecordFormat.decode_of_gives keysIn_nil.field (by decide) rfl
  exact (gives_defaulting (FunctionBreakpoint.reads_format.list a.breakpoints) rfl).map mk

theorem ThreadArguments.reads_format : format.decode.Reads toJson := by
  intro a
  apply RecordFormat.decode_of_gives keysIn_nil.field (by decide) rfl
  exact (gives_required (reads_int64 a.thread) rfl).map mk

theorem StackTraceArguments.reads_format : format.decode.Reads toJson := by
  intro a
  apply RecordFormat.decode_of_gives keysIn_nil.field.field.field (by decide) rfl
  exact (((gives_required (reads_int64 a.thread) rfl).map mk).seq
    (gives_nullable reads_int64 int64_ne_null rfl)).seq
    (gives_nullable reads_int64 int64_ne_null rfl)

theorem ScopesArguments.reads_format : format.decode.Reads toJson := by
  intro a
  apply RecordFormat.decode_of_gives keysIn_nil.field (by decide) rfl
  exact (gives_required (reads_int64 a.frame) rfl).map mk

theorem VariablesArguments.reads_format : format.decode.Reads toJson := by
  intro a
  apply RecordFormat.decode_of_gives keysIn_nil.field (by decide) rfl
  exact (gives_required (reads_int64 a.reference) rfl).map mk

/-- The request with its arguments in their written form. -/
def Request.rewritten {α : Type} (r : Request) (format : RecordFormat α) (write : α → Json) :
    Except DecodeError Request :=
  (r.decodeArguments format).map fun x => { r with arguments := write x }

/-- Nothing is lost on the way there and back. Whatever form a record came in, it has one written
form, which is read as the same record and written in the same way again. -/
structure RecordFormat.Lossless {α : Type} (format : RecordFormat α) (write : α → Json) : Prop where
  written : ∀ x, format.decode (write x) = .ok x
  settled : ∀ j x, format.decode j = .ok x →
    format.decode (write x) = .ok x ∧ (format.decode (write x)).map write = .ok (write x)
  requested : ∀ r r' : Request, r.rewritten format write = .ok r' →
    r'.decodeArguments format = r.decodeArguments format ∧ r'.rewritten format write = .ok r'

/-- Arguments left out are those of an empty object, so they are never written as `null`. -/
theorem Request.decodeArguments_of_ne_null {α : Type} {r : Request} (h : r.arguments ≠ .null)
    (format : RecordFormat α) : r.decodeArguments format = format.decode r.arguments := by
  unfold decodeArguments
  split
  · rename_i hnull
    exact absurd hnull h
  · rfl

theorem RecordFormat.Lossless.of_reads {α : Type} {format : RecordFormat α} {write : α → Json}
    (h : format.decode.Reads write) (hnull : ∀ x, write x ≠ .null) : format.Lossless write := by
  refine ⟨h, ?_, ?_⟩
  · intro j x _
    exact ⟨h x, by rw [h x]; rfl⟩
  · intro r r' hr
    cases hread : r.decodeArguments format with
    | error e =>
      rw [Request.rewritten, hread] at hr
      cases hr
    | ok x =>
      rw [Request.rewritten, hread] at hr
      obtain rfl := Except.ok.inj hr
      have hagain : ({ r with arguments := write x } : Request).decodeArguments format = .ok x :=
        (Request.decodeArguments_of_ne_null (hnull x) format).trans (h x)
      exact ⟨hagain, by rw [Request.rewritten, hagain]; rfl⟩

/-- No arguments that a client can give lose anything by being written and read again. -/
theorem arguments_lossless :
    InitializeArguments.format.Lossless (·.toJson) ∧
    LaunchArguments.format.Lossless (·.toJson) ∧
    Source.format.Lossless (·.toJson) ∧
    SourceBreakpoint.format.Lossless (·.toJson) ∧
    SetBreakpointsArguments.format.Lossless (·.toJson) ∧
    FunctionBreakpoint.format.Lossless (·.toJson) ∧
    SetFunctionBreakpointsArguments.format.Lossless (·.toJson) ∧
    ThreadArguments.format.Lossless (·.toJson) ∧
    StackTraceArguments.format.Lossless (·.toJson) ∧
    ScopesArguments.format.Lossless (·.toJson) ∧
    VariablesArguments.format.Lossless (·.toJson) :=
  ⟨.of_reads InitializeArguments.reads_format nofun,
    .of_reads LaunchArguments.reads_format nofun,
    .of_reads Source.reads_format nofun,
    .of_reads SourceBreakpoint.reads_format nofun,
    .of_reads SetBreakpointsArguments.reads_format nofun,
    .of_reads FunctionBreakpoint.reads_format nofun,
    .of_reads SetFunctionBreakpointsArguments.reads_format nofun,
    .of_reads ThreadArguments.reads_format nofun,
    .of_reads StackTraceArguments.reads_format nofun,
    .of_reads ScopesArguments.reads_format nofun,
    .of_reads VariablesArguments.reads_format nofun⟩

/-- Breakpoints by position, with `null` in place of what is left out and a member that nothing
asks for. -/
theorem arguments_lossless_by_position :
    let j : Json := .arr [.obj [("extra", .bool true), ("path", .str "a.go")],
      .arr [.arr [Json.int 3, .null, .str "x > 0"]]]
    let a : SetBreakpointsArguments := ⟨⟨none, some "a.go"⟩, some [⟨3, none, some "x > 0"⟩], none⟩
    SetBreakpointsArguments.format.decode j = .ok a ∧ a.toJson.write ≠ j.write ∧
      SetBreakpointsArguments.format.decode a.toJson = .ok a := by
  intro j a
  have hread : SetBreakpointsArguments.format.decode j = .ok a := by decide
  exact ⟨hread, by decide +kernel, (arguments_lossless.2.2.2.2.1.settled j a hread).1⟩

end DebugServer
