import DebugServer.Session.Dispatch

/-!
# What is sent

An outbox that is open accepts every message under the next number. Nothing that a session does
closes its outbox, so what it sends is a list of letters that arrive in order.
-/

namespace DebugServer

/-- An event is no response; a response answers one request. -/
def Letter.answered? : Letter → Option (Int64 × String)
  | .response requestSeq command _ _ _ => some (requestSeq, command)
  | .event _ _ => none

def Letter.isEvent (name : String) : Letter → Bool
  | .event n _ => n = name
  | .response .. => false

namespace Outbox

/-- Whether messages are accepted. -/
def IsOpen (o : Outbox) : Prop :=
  o.closed = false ∧ o.abandoned = false

def accept (o : Outbox) (letter : Letter) : Outbox :=
  { o with nextSeq := o.nextSeq + 1, queue := o.queue.push ⟨o.nextSeq, letter⟩ }

def acceptAll (o : Outbox) (letters : List Letter) : Outbox :=
  letters.foldl accept o

/-- What has been accepted and not been taken out. -/
def letters (o : Outbox) : List Letter :=
  o.queue.toList.map (·.letter)

/-- The numbers in the queue go from one to the last one that was given out. -/
def IsNumbered (o : Outbox) : Prop :=
  o.nextSeq = o.queue.size + 1 ∧ o.queue.toList.map (·.seq) = List.range' 1 o.queue.size

theorem send_of_isOpen {o : Outbox} (h : o.IsOpen) (letter : Letter) :
    o.send letter = .ok (o.accept letter) := by
  simp [send, accept, h.1, h.2]

theorem send_of_not_isOpen {o : Outbox} (h : ¬ o.IsOpen) (letter : Letter) :
    o.send letter = .error .closed := by
  have hclosed : (o.closed || o.abandoned) = true := by
    cases hc : o.closed <;> cases ha : o.abandoned <;> simp_all [IsOpen]
  simp [send, hclosed]

@[simp] theorem acceptAll_nil (o : Outbox) : o.acceptAll [] = o := rfl

@[simp] theorem acceptAll_singleton (o : Outbox) (letter : Letter) :
    o.acceptAll [letter] = o.accept letter := rfl

theorem acceptAll_append (o : Outbox) (as bs : List Letter) :
    o.acceptAll (as ++ bs) = (o.acceptAll as).acceptAll bs :=
  List.foldl_append

theorem IsOpen.acceptAll {o : Outbox} (h : o.IsOpen) (as : List Letter) :
    (o.acceptAll as).IsOpen := by
  induction as generalizing o with
  | nil => exact h
  | cons a as ih => exact ih (o := o.accept a) h

@[simp] theorem letters_acceptAll (o : Outbox) (as : List Letter) :
    (o.acceptAll as).letters = o.letters ++ as := by
  induction as generalizing o with
  | nil => simp
  | cons a as ih =>
    have hrest := ih (o.accept a)
    simp only [letters, accept, Array.toList_push, List.map_append] at hrest ⊢
    simpa [acceptAll, accept] using hrest

theorem IsNumbered.acceptAll {o : Outbox} (h : o.IsNumbered) (as : List Letter) :
    (o.acceptAll as).IsNumbered := by
  induction as generalizing o with
  | nil => exact h
  | cons a as ih =>
    apply ih (o := o.accept a)
    obtain ⟨hnext, hseq⟩ := h
    refine ⟨by simp [accept, hnext], ?_⟩
    simp only [accept, Array.toList_push, List.map_append, hseq, Array.size_push]
    rw [List.range'_concat, hnext]
    simp [Nat.add_comm]

end Outbox

theorem EngineEvent.isLast_iff {event : EngineEvent} :
    event.isLast = true ↔ event = .terminated := by
  cases event <;> simp [isLast]

/-- The message that tells of an event. -/
def EngineEvent.letter : EngineEvent → Letter
  | .threadStarted thread => (SessionEvent.threadStarted thread).letter
  | .threadExited thread => (SessionEvent.threadExited thread).letter
  | .stopped stop => (SessionEvent.stopped stop.reason stop.thread).letter
  | .terminated => SessionEvent.terminated.letter

/-- What an event does to the tables. -/
def Tables.after (t : Tables) : EngineEvent → Tables
  | .stopped stop => t.recordStop stop
  | .terminated => t.clear
  | _ => t

theorem LiveState.handle_of_isOpen {s : LiveState} (h : s.outbox.IsOpen) (event : EngineEvent) :
    ∃ journal, s.handle event =
      { s with
        tables := s.tables.after event, outbox := s.outbox.accept event.letter
        ended := s.ended || event.isLast, journal } := by
  cases event with
  | threadStarted thread =>
    exact ⟨s.journal, by
      simp [handle, notify, Outbox.send_of_isOpen h, EngineEvent.letter, Tables.after,
        EngineEvent.isLast]⟩
  | threadExited thread =>
    exact ⟨s.journal, by
      simp [handle, notify, Outbox.send_of_isOpen h, EngineEvent.letter, Tables.after,
        EngineEvent.isLast]⟩
  | stopped stop =>
    simp only [handle, recordStop, logReplaced, log]
    split <;>
      exact ⟨_, by
        simp [notify, Outbox.send_of_isOpen h, EngineEvent.letter, Tables.after,
          EngineEvent.isLast]; rfl⟩
  | terminated =>
    exact ⟨s.journal, by
      simp [handle, notify, Outbox.send_of_isOpen h, EngineEvent.letter, Tables.after,
        EngineEvent.isLast]⟩

namespace Session

variable {σ : Type} {s : Session σ}

/-- Sends letters that are accepted. -/
def post (s : Session σ) (letters : List Letter) : Session σ :=
  s.withOutbox (s.live.outbox.acceptAll letters)

theorem send_of_isOpen (h : s.live.outbox.IsOpen) (letter : Letter) :
    s.send letter = (.ok (), s.post [letter]) := by
  simp [send, Outbox.send_of_isOpen h, post]

theorem print_of_isOpen (h : s.live.outbox.IsOpen) (stream : OutputStream) (text : String) :
    ∃ letters, (∀ letter ∈ letters, letter.isEvent "output") ∧
      (s.print stream text).2 = s.post letters := by
  unfold print
  split
  · let shown := String.ofList (Text.decodeLossy (Text.toBytes text))
    refine ⟨[(SessionEvent.output stream shown).letter], ?_, ?_⟩
    · simp [SessionEvent.letter, Letter.isEvent]
    · simp [Outbox.write, Outbox.send_of_isOpen h, post, shown]
  · exact ⟨[], by simp, rfl⟩

end Session

end DebugServer
