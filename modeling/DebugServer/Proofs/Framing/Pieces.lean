import DebugServer.Framing.Reader

/-!
# Streams in pieces

A reader takes one byte after the other, so what it reads does not depend on where a stream is cut
into pieces.
-/

namespace DebugServer.FrameReader

theorem feed_taken (r : FrameReader) (bytes : List UInt8) (taken : List (List UInt8)) :
    r.feed bytes taken = (taken.reverse ++ (r.feed bytes []).1, (r.feed bytes []).2) := by
  induction bytes generalizing r taken with
  | nil => simp [feed]
  | cons b rest ih =>
    simp only [feed]
    cases r.push b with
    | more next => exact ih next taken
    | failed e => simp
    | message bytes =>
      simp only
      rw [ih start (bytes :: taken), ih start [bytes]]
      simp

theorem feed_append (r : FrameReader) (piece rest : List UInt8) (taken : List (List UInt8)) :
    r.feed (piece ++ rest) taken =
      match r.feed piece taken with
      | (messages, .ok r) => r.feed rest messages.reverse
      | (messages, .error e) => (messages, .error e) := by
  induction piece generalizing r taken with
  | nil => simp [feed]
  | cons b piece ih =>
    simp only [List.cons_append, feed]
    cases r.push b with
    | more next => exact ih next taken
    | failed e => rfl
    | message bytes => exact ih start (bytes :: taken)

/-- What is read of a stream without errors is read of its parts. -/
theorem readPieces_append {r : FrameReader} {piece rest : List UInt8} {messages : List (List UInt8)}
    (h : r.readPieces [piece ++ rest] = (messages, none)) :
    ∃ first r' later, r.feed piece [] = (first, .ok r') ∧
      r'.readPieces [rest] = (later, none) ∧ messages = first ++ later := by
  simp only [readPieces, feed_append] at h
  cases hpiece : r.feed piece [] with
  | mk first result =>
  cases result with
  | error e => simp [hpiece] at h
  | ok r' =>
  simp only [hpiece, feed_taken r' rest first.reverse, List.reverse_reverse] at h
  cases hrest : r'.feed rest [] with
  | mk later result =>
  rw [hrest] at h
  cases result with
  | error e => simp at h
  | ok r'' =>
    simp only [Prod.mk.injEq] at h
    refine ⟨first, r', later ++ r''.close.1, rfl, ?_, ?_⟩
    · simp [readPieces, hrest, h.2]
    · rw [← h.1, List.append_assoc]

/-- It makes no difference how a stream is cut. -/
theorem readPieces_flatten (r : FrameReader) (pieces : List (List UInt8)) :
    r.readPieces pieces = r.readPieces [pieces.flatten] := by
  induction pieces generalizing r with
  | nil => simp [readPieces, feed]
  | cons piece rest ih =>
    simp only [readPieces, List.flatten_cons, feed_append]
    cases hpiece : r.feed piece [] with
    | mk first result =>
    cases result with
    | error e => rfl
    | ok r' =>
      simp only [ih r', readPieces, feed_taken r' rest.flatten first.reverse, List.reverse_reverse]
      cases r'.feed rest.flatten [] with
      | mk later result =>
      cases result with
      | error e => rfl
      | ok r'' => simp

theorem rest_of_finish {r : FrameReader} {bytes rest : List UInt8}
    (h : r.finish = .message bytes rest) : rest = [] := by
  have hcut : ∀ r : FrameReader, r.cut ≠ .message bytes rest := by
    intro r
    unfold cut
    split <;> nofun
  unfold finish at h
  split at h
  · exact absurd h (hcut _)
  · split at h
    · exact absurd h (hcut _)
    · cases h
      rfl
    · cases h
  · exact absurd h (hcut _)

/-- The messages of a stream are its first one and those of the rest. -/
theorem readPieces_singleton (r : FrameReader) (bytes : List UInt8) :
    r.readPieces [bytes] =
      match r.next bytes with
      | .ended => ([], none)
      | .message first rest =>
        (first :: (start.readPieces [rest]).1, (start.readPieces [rest]).2)
      | .failed e => ([], some e) := by
  induction bytes generalizing r with
  | nil =>
    simp only [next, readPieces, feed, close]
    cases hfinish : r.finish with
    | ended => rfl
    | failed e => rfl
    | message first rest =>
      rw [rest_of_finish hfinish]
      rfl
  | cons b rest ih =>
    simp only [next, readPieces, feed] at ih ⊢
    cases r.push b with
    | more r' => exact ih r'
    | failed e => rfl
    | message first =>
      simp only [feed_taken start rest [first], List.reverse_singleton]
      cases start.feed rest [] with
      | mk later result =>
      cases result with
      | error e => rfl
      | ok r' => rfl

end DebugServer.FrameReader
