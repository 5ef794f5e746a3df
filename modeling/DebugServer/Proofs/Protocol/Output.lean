import DebugServer.Proofs.Session.Delivery
import DebugServer.Proofs.Text.Cuts

/-!
# Output of the debuggee

The debuggee writes bytes to two streams, a client is shown texts. Every write is decoded and sent
by itself, so it depends on the boundaries between writes whether a client sees what was written.
-/

namespace DebugServer

/-- The text that an event shows on a stream. -/
def Letter.outputOn? (stream : OutputStream) : Letter → Option String
  | .event name (some body) =>
    if name = "output" ∧ (body.field? "category").bind Json.text? = some stream.category then
      (body.field? "output").bind Json.text?
    else none
  | _ => none

/-- What a client puts together from the events about a stream. -/
def shownOn (stream : OutputStream) (letters : List Letter) : String :=
  String.join (letters.filterMap (·.outputOn? stream))

/-- The writes to a stream, in order. -/
def writtenOn (stream : OutputStream) (writes : List (OutputStream × List UInt8)) :
    List (List UInt8) :=
  (writes.filter (·.1 = stream)).map (·.2)

theorem OutputStream.category_inj {a b : OutputStream} : a.category = b.category ↔ a = b := by
  cases a <;> cases b <;> decide

theorem SessionEvent.outputOn?_letter (stream other : OutputStream) (text : String) :
    (SessionEvent.output other text).letter.outputOn? stream =
      if other = stream then some text else none := by
  have hobject : Json.object [("category", .str other.category), ("output", .str text)] =
      .obj [("category", .str other.category), ("output", .str text)] := by
    have hdiffers : "output" ≠ "category" := by decide
    have hbehind : ¬"output" < "category" := by decide
    simp only [Json.object, List.foldl_cons, List.foldl_nil, Json.insertField, if_neg hdiffers,
      if_neg hbehind]
  simp only [SessionEvent.letter, Letter.outputOn?, hobject]
  simp [Json.field?, Json.text?, List.lookup_cons, OutputStream.category_inj]

namespace Outbox

/-- Forwards one write after the other, as long as they are accepted. -/
def writeAll (o : Outbox) (writes : List (OutputStream × List UInt8)) :
    Except TransportError Outbox :=
  writes.foldlM (fun o (stream, bytes) => o.write stream bytes) o

/-- The event that a write becomes. -/
def writeLetter (write : OutputStream × List UInt8) : Letter :=
  (SessionEvent.output write.1 (String.ofList (Text.decodeLossy write.2))).letter

variable {o : Outbox} {stream : OutputStream}

theorem writeAll_of_isOpen (h : o.IsOpen) (writes : List (OutputStream × List UInt8)) :
    o.writeAll writes = .ok (o.acceptAll (writes.map writeLetter)) := by
  induction writes generalizing o with
  | nil => rfl
  | cons write rest ih =>
    have hwrite : o.write write.1 write.2 = .ok (o.accept (writeLetter write)) :=
      send_of_isOpen h _
    have hrest := ih (o := o.accept (writeLetter write)) (h.acceptAll [writeLetter write])
    simp only [writeAll] at hrest
    simp only [writeAll, List.foldlM_cons, hwrite, List.map_cons, acceptAll, List.foldl_cons]
    exact hrest

theorem shownOn_writeLetters (stream : OutputStream)
    (writes : List (OutputStream × List UInt8)) :
    (shownOn stream (writes.map writeLetter)).toList =
      (writtenOn stream writes).flatMap Text.decodeLossy := by
  rw [shownOn, String.toList_join, writtenOn, List.flatMap_map]
  induction writes with
  | nil => rfl
  | cons write rest ih =>
    have hwrite : (writeLetter write).outputOn? stream =
        if write.1 = stream then some (String.ofList (Text.decodeLossy write.2)) else none :=
      SessionEvent.outputOn?_letter stream write.1 _
    rw [List.map_cons, List.filterMap_cons, hwrite]
    by_cases hstream : write.1 = stream
    · rw [if_pos hstream, List.filter_cons_of_pos (by exact decide_eq_true hstream)]
      simp only [List.flatMap_cons, String.toList_ofList, ih]
    · rw [if_neg hstream, List.filter_cons_of_neg (by exact fun h => hstream (of_decide_eq_true h))]
      exact ih

/-- Of a text that the debuggee writes to a stream, with writes to the other one anywhere in
between, the client is shown exactly that text if no write to the stream ends within a character,
and something else if one does. -/
theorem shown_iff_whole_characters (h : o.IsOpen) (writes : List (OutputStream × List UInt8))
    {text : String} (htext : (writtenOn stream writes).flatten = Text.toBytes text) :
    ∃ letters, o.writeAll writes = .ok (o.acceptAll letters) ∧ letters.length = writes.length ∧
      (shownOn stream letters = text ↔
        ∀ bytes ∈ writtenOn stream writes, ∃ part : String, bytes = Text.toBytes part) := by
  refine ⟨writes.map writeLetter, writeAll_of_isOpen h writes, List.length_map _, ?_⟩
  rw [← String.toList_inj, shownOn_writeLetters, Text.flatMap_decodeLossy_eq_iff htext]
  constructor
  · intro hwhole bytes hbytes
    obtain ⟨part, rfl⟩ := hwhole bytes hbytes
    exact ⟨String.ofList part, by rw [Text.toBytes, String.toList_ofList]⟩
  · intro hwhole bytes hbytes
    obtain ⟨part, rfl⟩ := hwhole bytes hbytes
    exact ⟨part.toList, rfl⟩

/-- A character of two bytes, and on the other stream a byte that is none. -/
theorem shown_iff_whole_characters_accent :
    let writes : List (OutputStream × List UInt8) :=
      [(.stdout, [0x68]), (.stderr, [0xFF]), (.stdout, [0xC3, 0xA9])]
    empty.IsOpen ∧ (writtenOn .stdout writes).flatten = Text.toBytes "hé" ∧
      ∃ letters, empty.writeAll writes = .ok (empty.acceptAll letters) ∧
        letters.length = writes.length ∧ (shownOn .stdout letters = "hé" ↔
          ∀ bytes ∈ writtenOn .stdout writes, ∃ part : String, bytes = Text.toBytes part) := by
  intro writes
  have hopen : empty.IsOpen := ⟨rfl, rfl⟩
  have htext : (writtenOn .stdout writes).flatten = Text.toBytes "hé" := by decide
  exact ⟨hopen, htext, shown_iff_whole_characters hopen writes htext⟩

/-- The same character cut in two is lost. -/
theorem shown_of_cut_character :
    let writes : List (OutputStream × List UInt8) := [(.stdout, [0xC3]), (.stdout, [0xA9])]
    (writtenOn .stdout writes).flatten = Text.toBytes "é" ∧
      ∃ letters, empty.writeAll writes = .ok (empty.acceptAll letters) ∧
        shownOn .stdout letters = "\uFFFD\uFFFD" := by
  intro writes
  refine ⟨by decide, _, writeAll_of_isOpen ⟨rfl, rfl⟩ writes, ?_⟩
  rw [← String.toList_inj, shownOn_writeLetters]
  decide +kernel

end Outbox

end DebugServer
