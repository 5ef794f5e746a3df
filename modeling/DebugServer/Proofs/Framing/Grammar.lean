import DebugServer.Proofs.Decimal.Natural
import DebugServer.Proofs.Framing.InputStream
import DebugServer.Proofs.Text.Blank
import DebugServer.Proofs.Text.Redacted
import DebugServer.Proofs.Text.Utf8

/-!
# What is read as a message

A message is read behind a header, and a header is a sequence of lines. Here they are described by
what they are made of; just what fits the description is read.
-/

namespace DebugServer

/-! ### The grammar -/

/-- A line has one line feed, at its end, unless the stream ends with it. -/
def IsLine (line rest : List UInt8) : Prop :=
  (∃ start, 0x0A ∉ start ∧ line = start ++ [0x0A]) ∨ (line ≠ [] ∧ 0x0A ∉ line ∧ rest = [])

def IsBlankLine (text : List Char) : Prop :=
  ∀ c ∈ text, HeaderLine.isLineEnd c = true

/-- What stands before the first colon of a line says that it gives the length of the message;
`value` follows the colon. -/
def IsLengthLine (text value : List Char) : Prop :=
  ∃ name, text = name ++ ':' :: value ∧ ':' ∉ name ∧
    name.map Char.toLower = HeaderLine.lengthName

/-- Decimal digits of a number of 64 bits, after an optional plus sign, and between blanks. -/
def IsNumeral (value : List Char) (n : Nat) : Prop :=
  ∃ before plus digits after, value = before ++ (plus ++ digits) ++ after ∧
    (∀ c ∈ before ++ after, Text.isBlank c = true) ∧ (plus = [] ∨ plus = ['+']) ∧ digits ≠ [] ∧
    (∀ c ∈ digits, c.isDigit = true) ∧ Nat.ofDigitChars 10 digits 0 = n ∧
    n ≤ Decimal.naturalLimit

/-- `IsHeader texts header rest`: in front of `rest`, the bytes `header` are lines with these texts
and, after them, a first blank line. -/
inductive IsHeader : List (List Char) → List UInt8 → List UInt8 → Prop where
  | blank {text : List Char} {rest : List UInt8} (hline : IsLine (Text.encode text) rest)
    (hsize : (Text.encode text).length ≤ headerLimit) (hblank : IsBlankLine text) :
    IsHeader [] (Text.encode text) rest
  | line {text : List Char} {texts : List (List Char)} {header rest : List UInt8}
    (hline : IsLine (Text.encode text) (header ++ rest))
    (hsize : (Text.encode text).length ≤ headerLimit) (hblank : ¬ IsBlankLine text)
    (hlater : IsHeader texts header rest) :
    IsHeader (text :: texts) (Text.encode text ++ header) rest

/-- The lengths that lines with these texts give, one for each line that gives any. -/
inductive GiveLengths : List (List Char) → List Nat → Prop where
  | none : GiveLengths [] []
  | length {text value : List Char} {texts : List (List Char)} {n : Nat} {lengths : List Nat}
    (hline : IsLengthLine text value) (hvalue : IsNumeral value n)
    (hlater : GiveLengths texts lengths) : GiveLengths (text :: texts) (n :: lengths)
  | other {text : List Char} {texts : List (List Char)} {lengths : List Nat}
    (hline : ∀ value, ¬ IsLengthLine text value) (hlater : GiveLengths texts lengths) :
    GiveLengths (text :: texts) lengths

/-! ### A line by itself -/

namespace HeaderLine

theorem readNatural_trim_iff {value : List Char} {n : Nat} :
    Decimal.readNatural (Text.trim value) = .ok n ↔ IsNumeral value n := by
  rw [Decimal.readNatural_eq_ok_iff]
  constructor
  · rintro ⟨plus, digits, htrim, hnumeral⟩
    obtain ⟨before, after, hvalue, hblank⟩ := Text.exists_append_trim value
    exact ⟨before, plus, digits, after, htrim ▸ hvalue, hblank, hnumeral⟩
  · rintro ⟨before, plus, digits, after, rfl, hblank, hplus, hnumeral⟩
    have hcore : ∀ c ∈ plus ++ digits, Text.isBlank c = false := by
      intro c hc
      rcases List.mem_append.mp hc with hc | hc
      · rcases hplus with rfl | rfl
        · cases hc
        · rw [List.mem_singleton.mp hc]
          decide
      · exact Text.isBlank_of_isDigit (hnumeral.2.1 c hc)
    rw [List.forall_mem_append] at hblank
    exact ⟨plus, digits, Text.trim_between hblank.1 hcore hblank.2, hplus, hnumeral⟩

theorem isBlank_of_isLineEnd {c : Char} (h : isLineEnd c = true) : Text.isBlank c = true := by
  simp only [isLineEnd, Bool.or_eq_true, decide_eq_true_eq] at h
  rcases h with rfl | rfl <;> decide

variable {text value : List Char}

theorem not_isBlankLine (h : IsLengthLine text value) : ¬ IsBlankLine text := by
  obtain ⟨name, rfl, -⟩ := h
  intro hblank
  exact absurd (hblank ':' (by simp)) (by decide)

theorem ofText_of_isLengthLine (h : IsLengthLine text value) :
    ofText (Text.trimEnd isLineEnd text) =
      match Decimal.readNatural (Text.trim value) with
      | .ok n => .ok (.length n)
      | .error fault => .error (.invalidLength (String.ofList (Text.trim value)) fault) := by
  obtain ⟨name, rfl, hname, hlower⟩ := h
  obtain ⟨ends, hvalue, hends⟩ := Text.exists_append_trimEnd isLineEnd value
  have htrim : Text.trim (Text.trimEnd isLineEnd value) = Text.trim value := by
    conv_rhs => rw [hvalue]
    rw [Text.trim_append_of_forall _ fun c hc => isBlank_of_isLineEnd (hends c hc)]
  rw [Text.trimEnd_append_cons (by decide), ofText, if_neg (by simp),
    Text.splitFirst_append hname]
  cases hread : Decimal.readNatural (Text.trim value) <;> simp [hlower, htrim, hread]

theorem ofText_of_not_isLengthLine (h : ∀ value, ¬ IsLengthLine text value) :
    ofText (Text.trimEnd isLineEnd text) =
      .ok (if (Text.trimEnd isLineEnd text).isEmpty then .blank else .other) := by
  obtain ⟨ends, htext, -⟩ := Text.exists_append_trimEnd isLineEnd text
  unfold ofText
  split
  · rfl
  split
  · rfl
  · rename_i name value hsplit
    have hline : text = name ++ ':' :: (value ++ ends) := by
      rw [htext, Text.eq_append_of_splitFirst hsplit]
      simp
    have hname : name.map Char.toLower ≠ lengthName := fun hlower =>
      h _ ⟨name, hline, Text.notMem_of_splitFirst hsplit, hlower⟩
    rw [if_neg hname]

theorem isLengthLine_unique {value' : List Char} (h : IsLengthLine text value)
    (h' : IsLengthLine text value') : value = value' := by
  obtain ⟨name, htext, hname, -⟩ := h
  obtain ⟨name', htext', hname', -⟩ := h'
  have hsplit : Text.splitFirst ':' text = some (name, value) :=
    htext ▸ Text.splitFirst_append hname
  rw [htext', Text.splitFirst_append hname'] at hsplit
  cases hsplit
  rfl

/-- What a line with this text is read as. -/
def Describes (text : List Char) : HeaderLine → Prop
  | .blank => IsBlankLine text
  | .length n => ∃ value, IsLengthLine text value ∧ IsNumeral value n
  | .other => ¬ IsBlankLine text ∧ ∀ value, ¬ IsLengthLine text value

theorem ofText_eq_ok_iff {line : HeaderLine} :
    ofText (Text.trimEnd isLineEnd text) = .ok line ↔ Describes text line := by
  by_cases hlength : ∃ value, IsLengthLine text value
  · obtain ⟨value, hvalue⟩ := hlength
    rw [ofText_of_isLengthLine hvalue]
    constructor
    · intro h
      split at h
      · rename_i n hread
        cases h
        exact ⟨value, hvalue, readNatural_trim_iff.mp hread⟩
      · cases h
    · cases line with
      | blank => exact fun hblank => absurd hblank (not_isBlankLine hvalue)
      | length n =>
        rintro ⟨value', hvalue', hn⟩
        obtain rfl := isLengthLine_unique hvalue hvalue'
        rw [readNatural_trim_iff.mpr hn]
      | other => exact fun hother => absurd hvalue (hother.2 value)
  · have hnone := not_exists.mp hlength
    have hblank : (Text.trimEnd isLineEnd text).isEmpty = true ↔ IsBlankLine text := by
      rw [List.isEmpty_iff, Text.trimEnd_eq_nil_iff, IsBlankLine]
    rw [ofText_of_not_isLengthLine hnone, Except.ok.injEq]
    cases line with
    | blank => simp [Describes, hblank]
    | length n =>
      have hother : (if (Text.trimEnd isLineEnd text).isEmpty then blank else other) ≠
          length n := by
        split <;> nofun
      simp only [Describes, hnone, false_and, exists_const, hother]
    | other => simp [Describes, hblank, hnone]

/-- Of the bytes of a line, just those of a text that describes it are read as it. -/
theorem ofBytes_eq_ok_iff {bytes : List UInt8} {line : HeaderLine} :
    ofBytes bytes = .ok line ↔ ∃ text, bytes = Text.encode text ∧ Describes text line := by
  unfold ofBytes
  constructor
  · intro h
    split at h
    · cases h
    · rename_i text hdecode
      exact ⟨text, Text.decode?_eq_some_iff.mp hdecode, ofText_eq_ok_iff.mp h⟩
  · rintro ⟨text, rfl, h⟩
    rw [Text.decode?_encode]
    exact ofText_eq_ok_iff.mpr h

end HeaderLine

/-! ### The lines of a stream -/

theorem exists_line {bytes : List UInt8} (h : bytes ≠ []) :
    ∃ line rest, bytes = line ++ rest ∧ IsLine line rest := by
  cases hsplit : InputStream.splitLine bytes with
  | none =>
    exact ⟨bytes, [], (List.append_nil _).symm,
      .inr ⟨h, InputStream.lineFeed_notMem_of_splitLine hsplit, rfl⟩⟩
  | some parts =>
    obtain ⟨before, after⟩ := parts
    refine ⟨before ++ [0x0A], after, ?_, .inl ⟨before, ?_, rfl⟩⟩
    · simpa using InputStream.eq_append_of_splitLine hsplit
    · exact InputStream.lineFeed_notMem_before hsplit

theorem IsLine.ne_nil {line rest : List UInt8} (h : IsLine line rest) : line ≠ [] := by
  rcases h with ⟨start, -, rfl⟩ | ⟨hline, -⟩
  · simp
  · exact hline

namespace FrameReader

variable {length : Option Nat} {begun : Bool} {line rest message later : List UInt8}

/-- A line counts as a whole, however it ends, unless it is too long. -/
theorem next_of_isLine (h : IsLine line rest) :
    (header [] 0 length begun).next (line ++ rest) =
      if headerLimit < line.length then .failed .lineTooLong
      else (endLine line.reverse length).proceed rest := by
  rcases h with ⟨start, hstart, rfl⟩ | ⟨hline, hfeed, rfl⟩
  · rw [List.append_assoc, List.singleton_append, List.length_append, List.length_singleton]
    by_cases hlong : headerLimit < start.length
    · rw [if_pos (by omega), next_long_line hstart (Nat.zero_le _) (by omega)]
    · have hfull : headerLimit ≤ 0 + start.length ↔ headerLimit < start.length + 1 := by omega
      rw [next_line hstart (by omega), next_lineFeed]
      simp only [hfull, List.append_nil, List.reverse_append, List.reverse_singleton,
        List.singleton_append]
  · split
    · rename_i hlong
      exact next_long_line hfeed (Nat.zero_le _) (by omega)
    · rename_i hfits
      rw [next_line hfeed (by omega), next_end (by simpa using hline), List.append_nil]

/-- What follows a line that was read. -/
def afterLine (length : Option Nat) : HeaderLine → FrameStep
  | .blank => endHeader length
  | .length n => .more (header [] 0 (some n) true)
  | .other => .more (header [] 0 length true)

theorem endLine_of_ok {read : HeaderLine} (h : HeaderLine.ofBytes line = .ok read) :
    endLine line.reverse length = afterLine length read := by
  cases read <;> simp [endLine, h, afterLine]

theorem endHeader_proceed {n : Nat} (rest : List UInt8) :
    (endHeader (some n)).proceed rest =
      if messageLimit < n then .failed (.messageTooLarge n)
      else if n ≤ rest.length then .message (rest.take n) (rest.drop n)
      else .failed .messageCut := by
  rw [endHeader]
  split
  · rfl
  cases n with
  | zero => simp [FrameStep.proceed]
  | succ n => simp [FrameStep.proceed, next_message]

theorem endHeader_proceed_iff :
    (endHeader length).proceed rest = .message message later ↔
      length = some message.length ∧ message.length ≤ messageLimit ∧ rest = message ++ later := by
  cases length with
  | none => simp [endHeader, FrameStep.proceed]
  | some n =>
    rw [endHeader_proceed]
    constructor
    · intro h
      split at h
      · cases h
      split at h
      · rename_i hsmall henough
        cases h
        rw [List.length_take_of_le henough]
        exact ⟨rfl, Nat.not_lt.mp hsmall, (List.take_append_drop n rest).symm⟩
      · cases h
    · rintro ⟨hn, hsmall, rfl⟩
      cases hn
      rw [if_neg (Nat.not_lt.mpr hsmall), if_pos (by simp), List.take_left, List.drop_left]

theorem endHeader_proceed_ne_ended : (endHeader length).proceed rest ≠ .ended := by
  cases length with
  | none => nofun
  | some n =>
    rw [endHeader_proceed]
    split
    · nofun
    split <;> nofun

/-- A header is read as the last length that its lines give. -/
theorem next_of_isHeader {texts : List (List Char)} {head : List UInt8} {lengths : List Nat}
    (h : IsHeader texts head rest) (hlengths : GiveLengths texts lengths) :
    (header [] 0 length begun).next (head ++ rest) =
      (endHeader (lengths.getLast?.or length)).proceed rest := by
  induction h generalizing lengths length begun with
  | @blank text rest hline hsize hblank =>
    cases hlengths
    have htext : HeaderLine.Describes text .blank := hblank
    have hread := HeaderLine.ofBytes_eq_ok_iff.mpr ⟨text, rfl, htext⟩
    rw [next_of_isLine hline, if_neg (Nat.not_lt.mpr hsize), endLine_of_ok hread]
    rfl
  | @line text texts head rest hline hsize hblank _ ih =>
    rw [List.append_assoc, next_of_isLine hline, if_neg (Nat.not_lt.mpr hsize)]
    cases hlengths with
    | @length _ value _ n lengths hlength hvalue hlater =>
      have htext : HeaderLine.Describes text (.length n) := ⟨value, hlength, hvalue⟩
      have hread := HeaderLine.ofBytes_eq_ok_iff.mpr ⟨text, rfl, htext⟩
      have hlast : (n :: lengths).getLast?.or length = lengths.getLast?.or (some n) := by
        rw [List.getLast?_cons]
        cases lengths.getLast? <;> rfl
      rw [endLine_of_ok hread, hlast]
      exact ih hlater
    | other hother hlater =>
      have htext : HeaderLine.Describes text .other := ⟨hblank, hother⟩
      have hread := HeaderLine.ofBytes_eq_ok_iff.mpr ⟨text, rfl, htext⟩
      rw [endLine_of_ok hread]
      exact ih hlater

/-- Where reading does not fail, there is a header. -/
theorem failed_or_isHeader (bytes : List UInt8) (h : bytes ≠ [] ∨ begun = true) :
    (∃ e, (header [] 0 length begun).next bytes = .failed e) ∨
      ∃ texts head rest lengths, bytes = head ++ rest ∧ IsHeader texts head rest ∧
        GiveLengths texts lengths := by
  -- A line takes at least one byte, so what follows it is shorter.
  induction hn : bytes.length using Nat.strongRecOn generalizing bytes length begun with
  | ind n ih =>
    by_cases hnil : bytes = []
    · subst hnil
      have hbegun : begun = true := h.resolve_left (not_not_intro rfl)
      subst hbegun
      exact .inl ⟨.headerCut, rfl⟩
    obtain ⟨line, rest, rfl, hline⟩ := exists_line hnil
    have hshorter : rest.length < n := by
      have := List.length_pos_iff.mpr hline.ne_nil
      rw [← hn, List.length_append]
      omega
    rw [next_of_isLine hline]
    by_cases hsize : headerLimit < line.length
    · rw [if_pos hsize]
      exact .inl ⟨_, rfl⟩
    rw [if_neg hsize]
    cases hread : HeaderLine.ofBytes line with
    | error e =>
      left
      exact ⟨e, by rw [endLine, List.reverse_reverse, hread]; rfl⟩
    | ok read =>
      rw [endLine_of_ok hread]
      have hfits := Nat.not_lt.mp hsize
      obtain ⟨text, rfl, htext⟩ := HeaderLine.ofBytes_eq_ok_iff.mp hread
      cases read with
      | blank => exact .inr ⟨[], _, rest, [], rfl, .blank hline hfits htext, .none⟩
      | length k =>
        obtain ⟨value, hlength, hvalue⟩ := htext
        have hblank := HeaderLine.not_isBlankLine hlength
        refine (ih _ hshorter rest (.inr rfl) rfl).imp_right ?_
        rintro ⟨texts, head, body, lengths, rfl, hheader, hlengths⟩
        exact ⟨_, _, body, _, (List.append_assoc ..).symm, .line hline hfits hblank hheader,
          .length hlength hvalue hlengths⟩
      | other =>
        refine (ih _ hshorter rest (.inr rfl) rfl).imp_right ?_
        rintro ⟨texts, head, body, lengths, rfl, hheader, hlengths⟩
        exact ⟨_, _, body, _, (List.append_assoc ..).symm, .line hline hfits htext.1 hheader,
          .other htext.2 hlengths⟩

end FrameReader

/-! ### What is read from a stream -/

/-- At the start of `bytes` there is a header that gives the length of `message`, and the message
follows. -/
def IsFramed (bytes message rest : List UInt8) : Prop :=
  ∃ header texts lengths, bytes = header ++ message ++ rest ∧
    IsHeader texts header (message ++ rest) ∧ GiveLengths texts lengths ∧
    lengths.getLast? = some message.length ∧ message.length ≤ messageLimit

theorem readFrame_of_isHeader {texts : List (List Char)} {header rest : List UInt8}
    {lengths : List Nat} (h : IsHeader texts header rest) (hlengths : GiveLengths texts lengths) :
    readFrame (header ++ rest) = (FrameReader.endHeader lengths.getLast?).proceed rest := by
  rw [readFrame, FrameReader.start, FrameReader.next_of_isHeader h hlengths, Option.or_none]

theorem readFrame_eq_message_iff {bytes message rest : List UInt8} :
    readFrame bytes = .message message rest ↔ IsFramed bytes message rest := by
  constructor
  · intro h
    have hbytes : bytes ≠ [] := by
      rintro rfl
      cases h
    rcases FrameReader.failed_or_isHeader bytes (.inl hbytes) with
      ⟨e, hfailed⟩ | ⟨texts, header, body, lengths, rfl, hheader, hlengths⟩
    · exact absurd (h.symm.trans hfailed) nofun
    · rw [readFrame_of_isHeader hheader hlengths] at h
      obtain ⟨hlast, hsmall, rfl⟩ := FrameReader.endHeader_proceed_iff.mp h
      exact ⟨header, texts, lengths, (List.append_assoc ..).symm, hheader, hlengths, hlast, hsmall⟩
  · rintro ⟨header, texts, lengths, rfl, hheader, hlengths, hlast, hsmall⟩
    rw [List.append_assoc, readFrame_of_isHeader hheader hlengths]
    exact FrameReader.endHeader_proceed_iff.mpr ⟨hlast, hsmall, rfl⟩

theorem readFrame_eq_ended_iff {bytes : List UInt8} : readFrame bytes = .ended ↔ bytes = [] := by
  constructor
  · intro h
    by_contra hbytes
    rcases FrameReader.failed_or_isHeader bytes (.inl hbytes) with
      ⟨e, hfailed⟩ | ⟨texts, header, body, lengths, rfl, hheader, hlengths⟩
    · exact absurd (h.symm.trans hfailed) nofun
    · rw [readFrame_of_isHeader hheader hlengths] at h
      exact FrameReader.endHeader_proceed_ne_ended h
  · rintro rfl
    rfl

def FrameOutcome.result : FrameOutcome → Except FramingError (Option (List UInt8 × List UInt8))
  | .ended => .ok none
  | .message bytes rest => .ok (some (bytes, rest))
  | .failed e => .error e

namespace InputStream

/-- Reads one message and tells which bytes are left. -/
def readBytes (s : InputStream) : Except FramingError (Option (List UInt8 × List UInt8)) :=
  s.readMessage.map (·.map fun (message, rest) => (message, rest.bytes))

theorem readBytes_eq (s : InputStream) : s.readBytes = (readFrame s.bytes).result := by
  rw [readFrame_bytes, readBytes]
  cases s.readMessage with
  | error e => rfl
  | ok found => cases found <;> rfl

/-- Nothing is read only where the stream has ended; a message is read, and the rest is left, just
where the grammar has it so; and otherwise there is an error. In which pieces the bytes come makes
no difference. -/
theorem reads_grammar (s : InputStream) :
    (s.readBytes = .ok none ↔ s.bytes = []) ∧
      (∀ message rest, s.readBytes = .ok (some (message, rest)) ↔
        IsFramed s.bytes message rest) ∧
      ((∃ e, s.readBytes = .error e) ↔
        s.bytes ≠ [] ∧ ∀ message rest, ¬ IsFramed s.bytes message rest) ∧
      ∀ s' : InputStream, s'.bytes = s.bytes → s'.readBytes = s.readBytes := by
  refine ⟨?_, ?_, ?_, ?_⟩
  · rw [readBytes_eq, ← readFrame_eq_ended_iff]
    cases readFrame s.bytes <;> simp [FrameOutcome.result]
  · intro message rest
    rw [readBytes_eq, ← readFrame_eq_message_iff]
    cases readFrame s.bytes <;> simp [FrameOutcome.result]
  · simp only [readBytes_eq, ← readFrame_eq_message_iff, ne_eq, ← readFrame_eq_ended_iff]
    cases readFrame s.bytes <;> simp [FrameOutcome.result]
  · intro s' hbytes
    rw [readBytes_eq, readBytes_eq, hbytes]

/-- Lines of other kinds, two lengths of which the last one counts, and a stream in three pieces. -/
theorem reads_grammar_pieces :
    let s : InputStream := ⟨["no colon\nCONTENT-length:9\r", "\ncontent-Length:\t+2 \n\r",
      "\n\x7b\x7drest"].map Text.toBytes⟩
    s.readBytes = .ok (some (Text.toBytes "\x7b\x7d", Text.toBytes "rest")) ∧
      IsFramed s.bytes (Text.toBytes "\x7b\x7d") (Text.toBytes "rest") := by
  intro s
  have hread : s.readBytes = .ok (some (Text.toBytes "\x7b\x7d", Text.toBytes "rest")) := by
    rw [readBytes_eq]
    decide +kernel
  exact ⟨hread, ((reads_grammar s).2.1 _ _).mp hread⟩

/-- The end of the stream ends the blank line too. -/
example : (⟨[Text.toBytes "Content-Length: 0\n\r"]⟩ : InputStream).readBytes =
    .ok (some ([], [])) := by
  rw [readBytes_eq]
  decide +kernel

end InputStream

end DebugServer
