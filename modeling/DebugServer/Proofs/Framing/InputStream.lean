import Mathlib.Data.List.Basic
import DebugServer.Framing.InputStream
import DebugServer.Proofs.Framing.Pieces

/-!
# Reading from a stream is reading its bytes

The reader that is handed bytes one at a time and the one that waits for pieces find the same
messages and the same errors, and the latter leaves the stream right behind what it took.
-/

namespace DebugServer

/-- Goes on with the bytes behind a step. -/
def FrameStep.proceed (step : FrameStep) (rest : List UInt8) : FrameOutcome :=
  match step with
  | .more r => r.next rest
  | .message bytes => .message bytes rest
  | .failed e => .failed e

namespace FrameReader

theorem next_cons (r : FrameReader) (b : UInt8) (rest : List UInt8) :
    r.next (b :: rest) = (r.push b).proceed rest := by
  rw [next]
  rfl

section

variable {line bytes rest : List UInt8} {size : Nat} {length : Option Nat} {begun : Bool}

/-- The bytes of a line are kept up to the limit. -/
theorem next_line (hbytes : 0x0A ∉ bytes) (hsize : size + bytes.length ≤ headerLimit) :
    (header line size length begun).next (bytes ++ rest) =
      (header (bytes.reverse ++ line) (size + bytes.length) length begun).next rest := by
  induction bytes generalizing line size with
  | nil => simp
  | cons b bytes ih =>
    simp only [List.mem_cons, not_or] at hbytes
    simp only [List.length_cons] at hsize
    have hroom : ¬ headerLimit ≤ size := by omega
    rw [List.cons_append, next_cons]
    simp only [push, if_neg hroom, if_neg (Ne.symm hbytes.1), FrameStep.proceed]
    rw [ih hbytes.2 (by omega)]
    simp [Nat.add_comm, Nat.add_left_comm]

theorem next_long_line (hbytes : 0x0A ∉ bytes) (hsize : size ≤ headerLimit)
    (hlong : headerLimit < size + bytes.length) :
    (header line size length begun).next (bytes ++ rest) = .failed .lineTooLong := by
  induction bytes generalizing line size with
  | nil =>
    simp only [List.length_nil] at hlong
    omega
  | cons b bytes ih =>
    simp only [List.mem_cons, not_or] at hbytes
    simp only [List.length_cons] at hlong
    rw [List.cons_append, next_cons]
    by_cases hfull : headerLimit ≤ size
    · simp [push, hfull, FrameStep.proceed]
    · simp only [push, if_neg hfull, if_neg (Ne.symm hbytes.1), FrameStep.proceed]
      exact ih hbytes.2 (by omega) (by omega)

/-- A line feed ends the line, unless the line is full already. -/
theorem next_lineFeed :
    (header line size length begun).next (0x0A :: rest) =
      if headerLimit ≤ size then .failed .lineTooLong
      else (endLine (0x0A :: line) length).proceed rest := by
  rw [next_cons, push]
  split
  · rfl
  · rfl

/-- A line leaves a reader that misses something. -/
theorem finish_of_endLine {r : FrameReader} (h : endLine line length = .more r) :
    r.finish = r.cut := by
  unfold endLine at h
  split at h
  · cases h
  · unfold endHeader at h
    split at h
    · cases h
    split at h
    · cases h
    split at h
    · cases h
    · cases h
      rfl
  · cases h
    rfl
  · cases h
    rfl

/-- At the end of the stream an unfinished line is taken for a whole one. -/
theorem next_end (hline : line ≠ []) :
    (header line size length begun).next [] = (endLine line length).proceed [] := by
  rw [next]
  unfold finish
  split
  · simp_all
  · rename_i hheader
    cases hheader
    cases hend : endLine line length with
    | more r =>
      simp only [FrameStep.proceed]
      rw [next, finish_of_endLine hend]
    | message => rfl
    | failed => rfl
  · rename_i hmessage
    cases hmessage

end

theorem next_message (n : Nat) (taken bytes : List UInt8) :
    (message (n + 1) taken).next bytes =
      if n + 1 ≤ bytes.length then
        .message (taken.reverse ++ bytes.take (n + 1)) (bytes.drop (n + 1))
      else .failed .messageCut := by
  induction bytes generalizing n taken with
  | nil => rfl
  | cons b rest ih =>
    rw [next_cons, push]
    cases n with
    | zero => simp [FrameStep.proceed]
    | succ n =>
      have hmore : ¬ n + 1 + 1 ≤ 1 := by omega
      simp only [if_neg hmore, Nat.add_sub_cancel, FrameStep.proceed, ih, List.length_cons,
        Nat.add_le_add_iff_right]
      simp

end FrameReader

namespace InputStream

open FrameReader

theorem lineFeed_notMem_of_splitLine {bytes : List UInt8} (h : splitLine bytes = none) :
    0x0A ∉ bytes := by
  induction bytes with
  | nil => exact List.not_mem_nil
  | cons b rest ih =>
    by_cases hb : b = 0x0A
    · simp [splitLine, hb] at h
    · simp only [splitLine, hb, if_false, Option.map_eq_none_iff] at h
      simpa [Ne.symm hb] using ih h

theorem lineFeed_notMem_before {bytes before after : List UInt8}
    (h : splitLine bytes = some (before, after)) : 0x0A ∉ before := by
  induction bytes generalizing before with
  | nil => cases h
  | cons b rest ih =>
    by_cases hb : b = 0x0A
    · simp only [splitLine, hb, if_true, Option.some.injEq, Prod.mk.injEq] at h
      simp [← h.1]
    · simp only [splitLine, hb, if_false, Option.map_eq_some_iff, Prod.mk.injEq] at h
      obtain ⟨⟨before', after'⟩, hrest, rfl, rfl⟩ := h
      simpa [Ne.symm hb] using ih hrest

/-- What comes of a line and of what follows it. -/
def continueLine (length : Option Nat) (begun : Bool) (line : List UInt8)
    (rest : List (List UInt8)) : FrameOutcome :=
  if line = [] then cut (header [] 0 none begun)
  else (endLine line.reverse length).proceed rest.flatten

theorem continueLine_of_ne_nil {line : List UInt8} (hline : line ≠ []) (length : Option Nat)
    (begun : Bool) (rest : List (List UInt8)) :
    continueLine length begun line rest = (endLine line.reverse length).proceed rest.flatten :=
  if_neg hline

theorem next_readLine {line : List UInt8} (hline : line.length ≤ headerLimit)
    (length : Option Nat) (begun : Bool) (pieces : List (List UInt8)) :
    (header line.reverse line.length length begun).next pieces.flatten =
      match readLine line pieces with
      | .error e => .failed e
      | .ok (line, rest) => continueLine length begun line rest := by
  fun_induction readLine line pieces with
  | case1 line =>
    by_cases hnil : line = []
    · subst hnil
      rfl
    · simp only [continueLine_of_ne_nil hnil]
      exact next_end (by simpa using hnil)
  | case2 line piece rest hsplit hlong =>
    rw [List.flatten_cons, next_long_line (lineFeed_notMem_of_splitLine hsplit) hline hlong]
  | case3 line piece rest hsplit hshort ih =>
    have hroom := Nat.not_lt.mp hshort
    have hrest := ih (by simpa using hroom)
    rw [List.flatten_cons, next_line (lineFeed_notMem_of_splitLine hsplit) hroom]
    simpa using hrest
  | case4 line piece rest before after hsplit hlong =>
    have hbefore := lineFeed_notMem_before hsplit
    rw [List.flatten_cons, eq_append_of_splitLine hsplit, List.append_assoc, List.cons_append]
    by_cases hroom : line.length + before.length ≤ headerLimit
    · rw [next_line hbefore hroom, next_lineFeed, if_pos (by omega)]
    · exact next_long_line hbefore hline (by omega)
  | case5 line piece rest before after hsplit hshort =>
    have hbefore := lineFeed_notMem_before hsplit
    rw [List.flatten_cons, eq_append_of_splitLine hsplit, List.append_assoc, List.cons_append,
      next_line hbefore (by omega), next_lineFeed, if_neg (by omega)]
    have hwhole : line ++ before ++ [0x0A] ≠ [] := by simp
    simp only [continueLine_of_ne_nil hwhole]
    simp

/-- What comes of the length that a header gives and of what follows it. -/
def continueHeader : Option (Option Nat × List (List UInt8)) → FrameOutcome
  | none => .ended
  | some (length, rest) => (endHeader length).proceed rest.flatten

theorem next_readHeader (length : Option Nat) (begun : Bool) (pieces : List (List UInt8)) :
    (header [] 0 length begun).next pieces.flatten =
      match readHeader length begun pieces with
      | .error e => .failed e
      | .ok found => continueHeader found := by
  have hline := fun length begun pieces =>
    @next_readLine [] (Nat.zero_le _) length begun pieces
  simp only [List.reverse_nil, List.length_nil] at hline
  fun_induction readHeader length begun pieces with
  | case1 length begun pieces e hread => simp [hline, hread]
  | case2 length pieces rest hread => simp [hline, hread, continueLine, cut]
  | case3 length begun pieces rest hread hbegun =>
    simp [hline, hread, continueLine, cut, hbegun, continueHeader]
  | case4 length begun pieces b line rest hread e hof =>
    simp [hline, hread, continueLine, endLine, hof, FrameStep.proceed]
  | case5 length begun pieces b line rest hread hof =>
    simp [hline, hread, continueLine, endLine, hof, continueHeader]
  | case6 length begun pieces b line rest hread n hof ih =>
    rw [hline, hread, ← ih]
    simp [continueLine, endLine, hof, FrameStep.proceed]
  | case7 length begun pieces b line rest hread hof ih =>
    rw [hline, hread, ← ih]
    simp [continueLine, endLine, hof, FrameStep.proceed]

theorem readExactly_of_le {n : Nat} {pieces : List (List UInt8)}
    (h : n ≤ pieces.flatten.length) :
    ∃ rest, readExactly n pieces = some (pieces.flatten.take n, rest) ∧
      rest.flatten = pieces.flatten.drop n := by
  fun_induction readExactly n pieces with
  | case1 pieces => exact ⟨pieces, by simp, by simp⟩
  | case2 n => simp at h
  | case3 n piece rest hwhole =>
    refine ⟨_, congrArg some (Prod.ext ?_ rfl), ?_⟩
    · rw [List.flatten_cons, List.take_append_of_le_length hwhole]
    · rw [List.flatten_cons, List.flatten_cons, List.drop_append_of_le_length hwhole]
  | case4 n piece rest hmore ih =>
    have hpiece : piece.length ≤ n + 1 := by omega
    simp only [List.flatten_cons, List.length_append] at h
    obtain ⟨left, hread, hleft⟩ := ih (by omega)
    refine ⟨left, ?_, ?_⟩
    · simp [hread, List.take_append, List.take_of_length_le hpiece]
    · simp [hleft, List.drop_append, List.drop_of_length_le hpiece]

theorem readExactly_of_lt {n : Nat} {pieces : List (List UInt8)}
    (h : pieces.flatten.length < n) : readExactly n pieces = none := by
  fun_induction readExactly n pieces with
  | case1 pieces => omega
  | case2 n => rfl
  | case3 n piece rest hwhole =>
    simp only [List.flatten_cons, List.length_append] at h
    omega
  | case4 n piece rest hmore ih =>
    simp only [List.flatten_cons, List.length_append] at h
    simp [ih (by omega)]

/-- Reading a message is reading its bytes: it is the same message or error, and what is left of
the stream is what follows the message. -/
theorem readFrame_bytes (s : InputStream) :
    readFrame s.bytes =
      match s.readMessage with
      | .error e => .failed e
      | .ok none => .ended
      | .ok (some (bytes, rest)) => .message bytes rest.bytes := by
  have hheader := next_readHeader none false s.pieces
  unfold readFrame readMessage bytes start
  rw [hheader]
  cases readHeader none false s.pieces with
  | error e => rfl
  | ok found =>
  cases found with
  | none => rfl
  | some found =>
  obtain ⟨length, pieces⟩ := found
  cases length with
  | none => rfl
  | some n =>
    simp only [continueHeader, endHeader]
    by_cases hlarge : messageLimit < n
    · simp [hlarge, FrameStep.proceed]
    simp only [if_neg hlarge]
    cases n with
    | zero => simp [FrameStep.proceed, readExactly]
    | succ n =>
      simp only [Nat.add_eq_zero_iff, Nat.one_ne_zero, and_false, if_false, FrameStep.proceed,
        next_message]
      by_cases henough : n + 1 ≤ pieces.flatten.length
      · obtain ⟨rest, hread, hrest⟩ := readExactly_of_le henough
        simp only [if_pos henough, hread, hrest, List.reverse_nil, List.nil_append]
      · simp only [if_neg henough, readExactly_of_lt (Nat.not_le.mp henough)]

/-- Reading until the stream ends, without an error, gives just these items. -/
inductive Yields {α : Type} (read : InputStream → Except FramingError (Option (α × InputStream))) :
    InputStream → List α → Prop where
  | ended {s : InputStream} (nothing : read s = .ok none) : Yields read s []
  | item {s s' : InputStream} {a : α} {later : List α} (found : read s = .ok (some (a, s')))
      (rest : Yields read s' later) : Yields read s (a :: later)

theorem Yields.values {s : InputStream} {messages : List (List UInt8)}
    (h : Yields readMessage s messages) :
    Yields readValue s (messages.map (Json.parse Json.nestingLimit)) := by
  induction h with
  | ended nothing =>
    apply Yields.ended
    simp [readValue, nothing, Except.map]
  | item found rest ih =>
    apply Yields.item _ ih
    simp [readValue, found, Except.map]

theorem readMessage_of_ended {s : InputStream} (h : readFrame s.bytes = .ended) :
    s.readMessage = .ok none := by
  rw [readFrame_bytes] at h
  split at h
  · cases h
  · assumption
  · cases h

theorem readMessage_of_message {s : InputStream} {message rest : List UInt8}
    (h : readFrame s.bytes = .message message rest) :
    ∃ s', s.readMessage = .ok (some (message, s')) ∧ s'.bytes = rest := by
  rw [readFrame_bytes] at h
  split at h
  · cases h
  · cases h
  · rename_i message' s' hread
    cases h
    exact ⟨s', hread, rfl⟩

/-- The two readers find the same messages. -/
theorem Yields.readPieces {s : InputStream} {messages : List (List UInt8)}
    (h : Yields readMessage s messages) :
    FrameReader.start.readPieces s.pieces = (messages, none) := by
  rw [readPieces_flatten]
  induction h with
  | @ended s nothing =>
    have hframe := readFrame_bytes s
    rw [nothing] at hframe
    rw [readPieces_singleton]
    simp only [readFrame, bytes] at hframe
    rw [hframe]
  | @item s s' message later found rest ih =>
    have hframe := readFrame_bytes s
    rw [found] at hframe
    rw [readPieces_singleton]
    simp only [readFrame, bytes] at hframe
    simp only [hframe, ih]

end InputStream

end DebugServer
