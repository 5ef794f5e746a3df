import DebugServer.Framing.Reader

/-!
# Reading from a stream

A stream delivers its bytes in pieces of any size, and whoever reads from it waits for the next
piece only while more is needed. Each reading takes one message; what is left of the last piece
stays for the next reading. A message that is no JSON is taken like any other.
-/

namespace DebugServer

/-- The pieces that are still to come; of the first one, a part may have been read. -/
structure InputStream where
  pieces : List (List UInt8)
deriving DecidableEq, Repr, Inhabited

namespace InputStream

def bytes (s : InputStream) : List UInt8 :=
  s.pieces.flatten

/-- The bytes before and after the first line feed. -/
def splitLine : List UInt8 → Option (List UInt8 × List UInt8)
  | [] => none
  | b :: rest =>
    if b = 0x0A then some ([], rest)
    else (splitLine rest).map fun (before, after) => (b :: before, after)

/-- Completes a line that has begun with `line`. The end of the stream completes it too; the line
is empty only where the stream has ended before it. -/
def readLine (line : List UInt8) :
    List (List UInt8) → Except FramingError (List UInt8 × List (List UInt8))
  | [] => .ok (line, [])
  | piece :: rest =>
    match splitLine piece with
    | none =>
      if headerLimit < line.length + piece.length then .error .lineTooLong
      else readLine (line ++ piece) rest
    | some (before, after) =>
      if headerLimit < line.length + (before.length + 1) then .error .lineTooLong
      else .ok (line ++ before ++ [0x0A], after :: rest)

theorem eq_append_of_splitLine {bytes before after : List UInt8}
    (h : splitLine bytes = some (before, after)) : bytes = before ++ 0x0A :: after := by
  induction bytes generalizing before with
  | nil => cases h
  | cons b rest ih =>
    by_cases hb : b = 0x0A
    · simp only [splitLine, hb, if_true, Option.some.injEq, Prod.mk.injEq] at h
      obtain ⟨rfl, rfl⟩ := h
      simp [hb]
    · simp only [splitLine, hb, if_false, Option.map_eq_some_iff, Prod.mk.injEq] at h
      obtain ⟨⟨before', after'⟩, hrest, rfl, rfl⟩ := h
      simp [ih hrest]

/-- Reading a line takes its bytes from the stream, and no others. -/
theorem append_of_readLine {line line' : List UInt8} {pieces rest : List (List UInt8)}
    (h : readLine line pieces = .ok (line', rest)) :
    line ++ pieces.flatten = line' ++ rest.flatten := by
  fun_induction readLine line pieces with
  | case1 line => simp_all
  | case2 => cases h
  | case3 line piece rest' _ _ ih => simpa using ih h
  | case4 => cases h
  | case5 line piece rest' before after hsplit _ =>
    have hpiece := eq_append_of_splitLine hsplit
    simp only [Except.ok.injEq, Prod.mk.injEq] at h
    obtain ⟨rfl, rfl⟩ := h
    simp [hpiece]

/-- Reads the lines of a header and tells the length that they give; there is no header where the
stream has ended before its first line. -/
def readHeader (length : Option Nat) (begun : Bool) (pieces : List (List UInt8)) :
    Except FramingError (Option (Option Nat × List (List UInt8))) :=
  match _line : readLine [] pieces with
  | .error e => .error e
  | .ok ([], _) => if begun then .error .headerCut else .ok none
  | .ok (b :: line, rest) =>
    match HeaderLine.ofBytes (b :: line) with
    | .error e => .error e
    | .ok .blank => .ok (some (length, rest))
    | .ok (.length n) => readHeader (some n) true rest
    | .ok .other => readHeader length true rest
termination_by pieces.flatten.length
decreasing_by
  all_goals
    have hbytes := congrArg List.length (append_of_readLine _line)
    simp only [List.nil_append, List.length_append, List.length_cons] at hbytes
    omega

/-- Takes so many bytes, unless the stream ends before. -/
def readExactly : Nat → List (List UInt8) → Option (List UInt8 × List (List UInt8))
  | 0, pieces => some ([], pieces)
  | _ + 1, [] => none
  | n + 1, piece :: rest =>
    if n + 1 ≤ piece.length then some (piece.take (n + 1), piece.drop (n + 1) :: rest)
    else (readExactly (n + 1 - piece.length) rest).map fun (bytes, rest) => (piece ++ bytes, rest)

/-- Reads one message; there is none where the stream has ended before its header. -/
def readMessage (s : InputStream) : Except FramingError (Option (List UInt8 × InputStream)) :=
  match readHeader none false s.pieces with
  | .error e => .error e
  | .ok none => .ok none
  | .ok (some (none, _)) => .error .missingLength
  | .ok (some (some n, rest)) =>
    if messageLimit < n then .error (.messageTooLarge n)
    else match readExactly n rest with
      | none => .error .messageCut
      | some (message, rest) => .ok (some (message, ⟨rest⟩))

/-- Reads one message and says what it means. -/
def readValue (s : InputStream) :
    Except FramingError (Option (Except Json.SyntaxError Json × InputStream)) :=
  s.readMessage.map (·.map fun (message, rest) => (Json.parse Json.nestingLimit message, rest))

end InputStream

end DebugServer
