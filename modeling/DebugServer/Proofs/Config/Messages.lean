import DebugServer.Json.Decode
import DebugServer.Proofs.Decimal.Layout
import DebugServer.Proofs.Text.RedactedConfig

/-!
# Messages about faults after redaction

What redaction makes of the message of a fault. A value of a wrong type leaves its kind behind.
-/

namespace DebugServer

/-- A value with its contents replaced. -/
def Found.redacted : Found → String
  | .bool _ => "boolean \x60<redacted>\x60"
  | .integer _ => "integer \x60<redacted>\x60"
  | .double _ => "floating point \x60<redacted>\x60"
  | .text _ => "string \"<redacted>\""
  | found => found.message

/-- The message of a fault, with the value or key that it is about replaced. -/
def DecodeError.redacted : DecodeError → String
  | .invalidType found expected => "invalid type: " ++ found.redacted ++ ", expected " ++ expected
  | .invalidValue found expected =>
    "invalid value: " ++ found.redacted ++ ", expected " ++ expected
  | .unknownField _ known => "unknown field \x60<redacted>\x60, " ++ alternatives known
  | e => e.message

namespace DecodeError

variable (found : Found) (expected : String)

theorem redacted_invalidType : (invalidType found expected).redacted =
    "invalid type: " ++ found.redacted ++ ", expected " ++ expected :=
  rfl

theorem redacted_invalidValue : (invalidValue found expected).redacted =
    "invalid value: " ++ found.redacted ++ ", expected " ++ expected :=
  rfl

theorem redacted_unknownField (key : String) (known : List String) :
    (unknownField key known).redacted =
      "unknown field \x60<redacted>" ++ "\x60, " ++ alternatives known := by
  have hword :
      "unknown field \x60<redacted>\x60, " = "unknown field \x60<redacted>" ++ "\x60, " := by decide
  exact congrArg (· ++ alternatives known) hword

end DecodeError

namespace Text

variable {lead shown expected : String}

theorem quiet_toDigits (n : Nat) : Quiet (Nat.toDigits 10 n) := by
  intro c hc
  obtain ⟨d, hd, rfl⟩ := Decimal.exists_digit_of_mem_toDigits (by decide) hc
  have hdigit : ∀ d < 10, Nat.digitChar d ∉ signals := by decide
  exact hdigit d hd

theorem quiet_integer (n : Int) : Quiet (toString n).toList := by
  cases n with
  | ofNat n =>
    change Quiet (Nat.repr n).toList
    rw [Nat.repr_eq_ofList_toDigits, String.toList_ofList]
    exact quiet_toDigits n
  | negSucc n =>
    change Quiet ("-" ++ Nat.repr (n + 1)).toList
    rw [Nat.repr_eq_ofList_toDigits, String.toList_append]
    refine .append (by decide) ?_
    rw [String.toList_ofList]
    exact quiet_toDigits (n + 1)

theorem quiet_double (bits : UInt64) : Quiet (Json.doubleLayout.write bits).toList := by
  have halphabet : Quiet Json.doubleLayout.alphabet := by decide
  exact fun c hc => halphabet c (Json.doubleLayout.write_subset bits hc)

theorem redactConfigMessage_quoted (hlead : Quiet lead.toList) (hexpected : Quiet expected.toList)
    (s : String) :
    redactConfigMessage (lead ++ quoted s ++ ", expected " ++ expected) =
      lead ++ "\"<redacted>\", expected " ++ expected := by
  have htext : (lead ++ quoted s ++ ", expected " ++ expected).toList =
      lead.toList ++ '"' :: (s.toList.flatMap quotedChar ++
        '"' :: (", expected".toList ++ ' ' :: expected.toList)) := by
    simp [quoted]
  have hmark : "\"<redacted>\", expected ".toList =
      '"' :: mark ++ '"' :: (", expected".toList ++ [' ']) := by decide
  apply String.toList_inj.mp
  rw [redactConfigMessage, String.toList_ofList, htext,
    redactName_quoted hlead hexpected.after_space, String.toList_append, String.toList_append,
    hmark]
  simp only [List.append_assoc, List.cons_append, List.nil_append]

/-- Words that complain about the value that follows. -/
def Complains (lead : String) : Prop :=
  Quiet lead.toList ∧ (containsWord "invalid type:".toList lead.toList ||
    containsWord "invalid value:".toList lead.toList) = true

instance (lead : String) : Decidable (Complains lead) :=
  inferInstanceAs (Decidable (_ ∧ _))

theorem redactConfigMessage_ticked (hlead : Complains lead) (hshown : Quiet shown.toList)
    (hexpected : Quiet expected.toList) :
    redactConfigMessage (lead ++ "\x60" ++ shown ++ "\x60, expected " ++ expected) =
      lead ++ "\x60<redacted>\x60, expected " ++ expected := by
  have htext : (lead ++ "\x60" ++ shown ++ "\x60, expected " ++ expected).toList =
      lead.toList ++ '\x60' :: (shown.toList ++
        ("\x60, expected".toList ++ ' ' :: expected.toList)) := by
    simp
  have hquotes : ∀ q ∈ ['"', '\''], q ∉ lead.toList ++ '\x60' :: (shown.toList ++
      ("\x60, expected".toList ++ ' ' :: expected.toList)) := by
    intro q hq
    have hword : ∀ q ∈ ['"', '\''],
        q ∈ signals ∧ q ∉ ['\x60'] ∧ q ∉ "\x60, expected".toList :=
      List.all_iff_forall_prop.mp (by decide)
    obtain ⟨hsignal, htick, hclose⟩ := hword q hq
    rw [← List.singleton_append, List.mem_append, List.mem_append, List.mem_append,
      List.mem_append, not_or, not_or, not_or, not_or]
    exact ⟨hlead.1.notMem hsignal, htick, hshown.notMem hsignal, hclose,
      hexpected.after_space.notMem hsignal⟩
  have hmark : "\x60<redacted>\x60, expected ".toList =
      '\x60' :: mark ++ ("\x60, expected".toList ++ [' ']) := by decide
  apply String.toList_inj.mp
  rw [redactConfigMessage, String.toList_ofList, htext,
    redactQuoted_of_notMem (hquotes '"' (by decide)),
    redactQuoted_of_notMem (hquotes '\'' (by decide)),
    redactName_scalar hlead.1 hshown hexpected.after_space hlead.2, String.toList_append,
    String.toList_append, hmark]
  simp only [List.append_assoc, List.cons_append, List.nil_append]

theorem redactConfigMessage_of_notMem {s : String}
    (h : ∀ c ∈ ['"', '\'', '\x60', 'k'], c ∉ s.toList) : redactConfigMessage s = s := by
  rw [redactConfigMessage, redactQuoted_of_notMem (h '"' (by decide)),
    redactQuoted_of_notMem (h '\'' (by decide)), redactName,
    unknownName_of_notMem (h 'k' (by decide)), invalidScalar_of_notMem (h '\x60' (by decide))]
  exact String.ofList_toList

section

variable (hlead : lead ∈ ["invalid type: ", "invalid value: "]) (hexpected : Quiet expected.toList)
include hlead hexpected

/-- Redaction of a message about something that holds nothing of its own. -/
theorem redactConfigMessage_word {word : String} (hword : word ∈ ["null", "sequence", "map"]) :
    redactConfigMessage (lead ++ word ++ ", expected " ++ expected) =
      lead ++ word ++ ", expected " ++ expected := by
  have hquiet : ∀ lead ∈ ["invalid type: ", "invalid value: "],
      ∀ word ∈ ["null", "sequence", "map"], Quiet (lead ++ word).toList := by decide
  have hfixed : ∀ c ∈ ['"', '\'', '\x60', 'k'], c ∈ signals ∧ c ∉ ", expected ".toList :=
    List.all_iff_forall_prop.mp (by decide)
  apply redactConfigMessage_of_notMem
  intro c hc
  obtain ⟨hsignal, hcomma⟩ := hfixed c hc
  rw [String.toList_append, String.toList_append, List.mem_append, List.mem_append, not_or, not_or]
  exact ⟨⟨(hquiet lead hlead word hword).notMem hsignal, hcomma⟩, hexpected.notMem hsignal⟩

theorem redactConfigMessage_scalar (kind shown : String) {message redacted : String}
    (hkind : kind ∈ ["boolean ", "integer ", "floating point "]) (hshown : Quiet shown.toList)
    (hmessage : message = kind ++ "\x60" ++ shown ++ "\x60")
    (hredacted : redacted = kind ++ "\x60<redacted>\x60") :
    redactConfigMessage (lead ++ message ++ ", expected " ++ expected) =
      lead ++ redacted ++ ", expected " ++ expected := by
  have hcomplains : ∀ lead ∈ ["invalid type: ", "invalid value: "],
      ∀ kind ∈ ["boolean ", "integer ", "floating point "], Complains (lead ++ kind) := by decide
  have hclose : "\x60, expected " = "\x60" ++ ", expected " := by decide
  have hmark : "\x60<redacted>\x60, expected " = "\x60<redacted>\x60" ++ ", expected " := by decide
  have hticked := redactConfigMessage_ticked (hcomplains lead hlead kind hkind) hshown hexpected
  rw [hmessage, hredacted]
  simpa only [hclose, hmark, String.append_assoc] using hticked

theorem redactConfigMessage_text (s : String) :
    redactConfigMessage (lead ++ ("string " ++ quoted s) ++ ", expected " ++ expected) =
      lead ++ "string \"<redacted>\"" ++ ", expected " ++ expected := by
  have hquiet : ∀ lead ∈ ["invalid type: ", "invalid value: "],
      Quiet (lead ++ "string ").toList := by decide
  have hmark : "\"<redacted>\", expected " = "\"<redacted>\"" ++ ", expected " := by decide
  have hstring : "string \"<redacted>\"" = "string " ++ "\"<redacted>\"" := by decide
  have hquoted := redactConfigMessage_quoted (hquiet lead hlead) hexpected s
  simpa only [hmark, hstring, String.append_assoc] using hquoted

/-- A message that says what was found shows nothing of its contents. -/
theorem redactConfigMessage_found (found : Found) :
    redactConfigMessage (lead ++ found.message ++ ", expected " ++ expected) =
      lead ++ found.redacted ++ ", expected " ++ expected := by
  cases found with
  | null => exact redactConfigMessage_word hlead hexpected (by decide)
  | bool b =>
    cases b with
    | true =>
      exact redactConfigMessage_scalar hlead hexpected "boolean " "true" (by decide) (by decide)
        (by decide) (by decide)
    | false =>
      exact redactConfigMessage_scalar hlead hexpected "boolean " "false" (by decide) (by decide)
        (by decide) (by decide)
  | integer n =>
    have hkind : "integer \x60" = "integer " ++ "\x60" := by decide
    have hmark : "integer \x60<redacted>\x60" = "integer " ++ "\x60<redacted>\x60" := by decide
    exact redactConfigMessage_scalar hlead hexpected "integer " _ (by decide)
      (quiet_integer n) (congrArg (· ++ toString n ++ "\x60") hkind) hmark
  | double bits =>
    have hkind : "floating point \x60" = "floating point " ++ "\x60" := by decide
    have hmark : "floating point \x60<redacted>\x60" = "floating point " ++ "\x60<redacted>\x60" :=
      by decide
    exact redactConfigMessage_scalar hlead hexpected "floating point " _ (by decide)
      (quiet_double bits) (congrArg (· ++ Json.doubleLayout.write bits ++ "\x60") hkind) hmark
  | text s => exact redactConfigMessage_text hlead hexpected s
  | sequence => exact redactConfigMessage_word hlead hexpected (by decide)
  | map => exact redactConfigMessage_word hlead hexpected (by decide)

end

/-! ### Keys that are not known -/

/-- What redaction leaves of a key that is not known: nothing, unless the key looks like the rest of
the message from somewhere on. -/
def uncovered (key : String) : String :=
  match splitWord "\x60, expected".toList (redactQuoted '\'' (redactQuoted '"' key.toList)) with
  | some (_, rest) => String.ofList ("\x60, expected".toList ++ rest)
  | none => ""

theorem uncovered_eq_empty {key : String} (h : ¬"\x60, expected".toList <:+: key.toList) :
    uncovered key = "" := by
  have hnone : splitWord "\x60, expected".toList
      (redactQuoted '\'' (redactQuoted '"' key.toList)) = none := by
    rw [splitWord_eq_none_iff (by decide)]
    intro hinfix
    have hsingle := infix_of_infix_redactQuoted (by decide) (by decide) hinfix
    exact h (infix_of_infix_redactQuoted (by decide) (by decide) hsingle)
  simp only [uncovered, hnone]

theorem uncovered_of_notMem {key : String} (hdouble : '"' ∉ key.toList)
    (hsingle : '\'' ∉ key.toList) {before after : List Char}
    (h : splitWord "\x60, expected".toList key.toList = some (before, after)) :
    uncovered key = String.ofList ("\x60, expected".toList ++ after) := by
  simp only [uncovered, redactQuoted_of_notMem hdouble, redactQuoted_of_notMem hsingle, h]

/-- The fields that are known are listed as expected, and without quotes. -/
def Announces (known : List String) : Prop :=
  "expected".toList <+: (alternatives known).toList ∧ '"' ∉ (alternatives known).toList ∧
    '\'' ∉ (alternatives known).toList

instance (known : List String) : Decidable (Announces known) :=
  inferInstanceAs (Decidable (_ ∧ _ ∧ _))

theorem redactConfigMessage_unknown {known : List String} (hknown : Announces known)
    (key : String) :
    redactConfigMessage (DecodeError.unknownField key known).message =
      "unknown field \x60<redacted>" ++ uncovered key ++ "\x60, " ++ alternatives known := by
  obtain ⟨⟨more, hmore⟩, hdouble, hsingle⟩ := hknown
  set tail := "\x60, ".toList ++ (alternatives known).toList with htail
  have hmessage : (DecodeError.unknownField key known).message.toList =
      "unknown field \x60".toList ++ (key.toList ++ tail) := by
    change ("unknown field \x60" ++ key ++ "\x60, " ++ alternatives known).toList = _
    simp only [String.toList_append, htail, List.append_assoc]
  have hcut : tail = "\x60, expected".toList ++ more := by
    have hword : "\x60, expected".toList = "\x60, ".toList ++ "expected".toList := by decide
    rw [htail, ← hmore, hword, List.append_assoc]
  have hmark : "unknown field \x60<redacted>".toList = "unknown field \x60".toList ++ mark := by
    decide
  have htailDouble : '"' ∉ tail := List.not_mem_append (by decide) hdouble
  have htailSingle : '\'' ∉ tail := List.not_mem_append (by decide) hsingle
  apply String.toList_inj.mp
  rw [redactConfigMessage, String.toList_ofList, hmessage, redactQuoted_after (by decide),
    redactQuoted_before (by decide) htailDouble, redactQuoted_after (by decide),
    redactQuoted_before (by decide) htailSingle, hcut, redactName_unknown, ← hcut]
  simp only [String.toList_append, hmark, uncovered, List.append_assoc]
  cases splitWord "\x60, expected".toList (redactQuoted '\'' (redactQuoted '"' key.toList)) with
  | none => simp only [String.toList_empty, List.nil_append, htail]
  | some parts => simp only [String.toList_ofList, List.append_assoc, htail]

end Text

end DebugServer
