import DebugServer.Framing.Writer
import DebugServer.Proofs.Framing.Grammar

/-!
# Framed messages are read back

A frame is read as its message, whatever that contains, and what follows is left alone. A stream of
frames therefore yields its messages in order and then ends, however it is cut into pieces.
-/

namespace DebugServer

namespace HeaderLine

/-- The text of the line that gives the length, without its end. -/
def lengthText (n : Nat) : List Char :=
  "Content-Length: ".toList ++ Nat.toDigits 10 n

theorem isDigit_of_mem_digits {n : Nat} : ∀ c ∈ Nat.toDigits 10 n, c.isDigit = true := fun _ hc =>
  Nat.isDigit_of_mem_toDigits (by decide) (by decide) hc

theorem lineFeed_notMem_lengthText (n : Nat) : '\n' ∉ lengthText n := by
  intro h
  rcases List.mem_append.mp h with hname | hdigit
  · exact absurd hname (by decide)
  · exact absurd (isDigit_of_mem_digits _ hdigit) (by decide)

theorem length_lengthText_le {n : Nat} (h : n ≤ messageLimit) : (lengthText n).length ≤ 24 := by
  have hlt : n < 10 ^ 8 := Nat.lt_of_le_of_lt h (by decide)
  have hdigits : (Nat.toDigits 10 n).length ≤ 8 :=
    (Nat.length_toDigits_le_iff (by decide) (by decide)).mpr hlt
  have hlength : (lengthText n).length = 16 + (Nat.toDigits 10 n).length := List.length_append
  omega

theorem isLengthLine_lengthText (n : Nat) :
    IsLengthLine (lengthText n ++ ['\r'] ++ ['\n'])
      ([' '] ++ ([] ++ Nat.toDigits 10 n) ++ ['\r', '\n']) := by
  have hname : "Content-Length: ".toList = "Content-Length".toList ++ [':', ' '] := rfl
  refine ⟨"Content-Length".toList, ?_, by decide, by decide⟩
  unfold lengthText
  generalize "Content-Length: ".toList = start at hname ⊢
  generalize "Content-Length".toList = name at hname ⊢
  simp [hname]

theorem isNumeral_toDigits {n : Nat} (h : n ≤ Decimal.naturalLimit) :
    IsNumeral ([' '] ++ ([] ++ Nat.toDigits 10 n) ++ ['\r', '\n']) n := by
  have hblank : ([' '] ++ ['\r', '\n']).all Text.isBlank = true := by decide
  exact ⟨[' '], [], Nat.toDigits 10 n, ['\r', '\n'], rfl, List.all_eq_true.mp hblank, .inl rfl,
    Nat.toDigits_ne_nil, isDigit_of_mem_digits, Nat.ofDigitChars_ten_toDigits, h⟩

end HeaderLine

theorem isLine_encode {s : List Char} (h : '\n' ∉ s) (rest : List UInt8) :
    IsLine (Text.encode (s ++ ['\n'])) rest :=
  .inl ⟨Text.encode s, Text.lineFeed_notMem_encode h, List.flatMap_append⟩

theorem toBytes_frameHeader (n : Nat) :
    Text.toBytes (frameHeader n) =
      Text.encode (HeaderLine.lengthText n ++ ['\r'] ++ ['\n']) ++
        Text.encode (['\r'] ++ ['\n']) := by
  have hheader : frameHeader n = "Content-Length: " ++ toString n ++ "\r\n\r\n" := rfl
  have htext : HeaderLine.lengthText n = "Content-Length: ".toList ++ (toString n).toList := by
    rw [Nat.toString_eq_repr, Nat.toList_repr]
    rfl
  have hlist : (frameHeader n).toList =
      (HeaderLine.lengthText n ++ ['\r'] ++ ['\n']) ++ (['\r'] ++ ['\n']) := by
    rw [hheader, htext, String.toList_append, String.toList_append]
    simp only [List.append_assoc]
    rfl
  rw [Text.toBytes, hlist]
  exact List.flatMap_append

theorem isHeader_frameHeader {n : Nat} (h : n ≤ messageLimit) (rest : List UInt8) :
    IsHeader [HeaderLine.lengthText n ++ ['\r'] ++ ['\n']] (Text.toBytes (frameHeader n)) rest := by
  have hlengthText : '\n' ∉ HeaderLine.lengthText n ++ ['\r'] := by
    rw [List.mem_append, not_or]
    exact ⟨HeaderLine.lineFeed_notMem_lengthText n, by decide⟩
  have hsize : (Text.encode (HeaderLine.lengthText n ++ ['\r'] ++ ['\n'])).length ≤
      headerLimit := by
    have hshort := HeaderLine.length_lengthText_le h
    refine Nat.le_trans (Text.length_encode_le _) (Nat.le_trans ?_ (by decide : 104 ≤ headerLimit))
    simp only [List.length_append, List.length_singleton]
    omega
  have hends : ∀ c ∈ ['\r'] ++ ['\n'], HeaderLine.isLineEnd c = true := by
    simp [HeaderLine.isLineEnd]
  rw [toBytes_frameHeader]
  exact .line (isLine_encode hlengthText _) hsize
    (HeaderLine.not_isBlankLine (HeaderLine.isLengthLine_lengthText n))
    (.blank (isLine_encode (by decide) rest) (by decide) hends)

/-- A frame is read as its message, and nothing behind it is touched. -/
theorem readFrame_frame {message : List UInt8} (h : message.length ≤ messageLimit)
    (rest : List UInt8) : readFrame (frame message ++ rest) = .message message rest := by
  have hlimit : message.length ≤ Decimal.naturalLimit := Nat.le_trans h (by decide)
  have hlengths := GiveLengths.length (HeaderLine.isLengthLine_lengthText message.length)
    (HeaderLine.isNumeral_toDigits hlimit) .none
  exact readFrame_eq_message_iff.mpr
    ⟨_, _, _, rfl, isHeader_frameHeader h (message ++ rest), hlengths, rfl, h⟩

/-- Reading a stream of frames gives back their messages in order, and then the stream has ended;
it makes no difference in which pieces it comes. What a message means is found out apart from all
others, so one that is no JSON spoils no other. -/
theorem frames_read_back (messages : List (List UInt8))
    (hsize : ∀ message ∈ messages, message.length ≤ messageLimit) (s : InputStream)
    (hbytes : s.bytes = messages.flatMap frame) :
    s.Yields InputStream.readMessage messages ∧
      s.Yields InputStream.readValue (messages.map (Json.parse Json.nestingLimit)) ∧
      FrameReader.start.readPieces s.pieces = (messages, none) := by
  have hread : s.Yields InputStream.readMessage messages := by
    induction messages generalizing s with
    | nil => exact .ended (InputStream.readMessage_of_ended (by rw [hbytes]; rfl))
    | cons message rest ih =>
      have hframe := readFrame_frame (hsize message List.mem_cons_self) (rest.flatMap frame)
      rw [← List.flatMap_cons, ← hbytes] at hframe
      obtain ⟨s', hfound, hrest⟩ := InputStream.readMessage_of_message hframe
      exact .item hfound (ih (fun m hm => hsize m (List.mem_cons_of_mem message hm)) s' hrest)
  exact ⟨hread, hread.values, hread.readPieces⟩

/-- Two messages that are no JSON, one of which looks like a header, arrive byte by byte before one
that is. -/
theorem frames_read_back_bytewise :
    let messages := [Text.toBytes "\r\nContent-Length: 2\r\n\r\n", [], Text.toBytes "\x7b\x7d"]
    let s : InputStream := ⟨(messages.flatMap frame).map ([·])⟩
    (∀ message ∈ messages, message.length ≤ messageLimit) ∧ s.bytes = messages.flatMap frame ∧
      s.Yields InputStream.readMessage messages ∧
      (messages.map (Json.parse Json.nestingLimit)).map Except.isOk = [false, false, true] := by
  intro messages s
  have hsize : ∀ message ∈ messages, message.length ≤ messageLimit := by decide
  have hbytes : s.bytes = messages.flatMap frame := by
    simp only [s, InputStream.bytes, ← List.flatMap_def, List.flatMap_singleton']
  exact ⟨hsize, hbytes, (frames_read_back messages hsize s hbytes).1, by decide +kernel⟩

end DebugServer
