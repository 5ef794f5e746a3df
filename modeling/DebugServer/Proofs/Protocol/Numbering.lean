import DebugServer.Proofs.Protocol.Output

/-!
# An outbox over time

Everyone who sends has a clone of the outbox, and all clones share one state, so what is done with
them is one sequence of operations. What enters the queue is what was accepted, under the numbers
from one on, and what entered comes out in that order. Pasts have the latest operation first.
-/

namespace DebugServer.Outbox

inductive Operation where
  /-- An event or a response. -/
  | send (letter : Letter)
  /-- One write of the debuggee. -/
  | write (stream : OutputStream) (bytes : List UInt8)
  | receive
  | close
  /-- The receiver is dropped. -/
  | abandon

inductive Outcome where
  | sent
  | failed (error : TransportError)
  | written (bytes : Nat)
  | brokenPipe (error : TransportError)
  | received (message : Option Message)
  | done

/-- What an operation has sent, if it succeeded. -/
def Operation.sent? : Operation → Outcome → Option Letter
  | .send letter, .sent => some letter
  | .write stream bytes, .written _ => some (writeLetter (stream, bytes))
  | _, _ => none

def Operation.isReceive : Operation → Bool
  | .receive => true
  | _ => false

def Outcome.message? : Outcome → Option Message
  | .received message => message
  | _ => none

/-- Takes out the message that waited longest. -/
def receive (o : Outbox) : Option Message × Outbox :=
  (o.queue.toList.head?, { o with queue := o.queue.toList.tail.toArray })

def perform (o : Outbox) : Operation → Outcome × Outbox
  | .send letter =>
    match o.send letter with
    | .ok next => (.sent, next)
    | .error e => (.failed e, o)
  | .write stream bytes =>
    match o.write stream bytes with
    | .ok next => (.written bytes.length, next)
    | .error e => (.brokenPipe e, o)
  | .receive => (.received o.receive.1, o.receive.2)
  | .close => (.done, o.close)
  | .abandon => (.done, o.abandon)

/-- The outbox after a past. -/
def after : (past : List Operation) → Outbox
  | [] => empty
  | op :: past => ((after past).perform op).2

/-- What the successful sends and writes have sent. -/
def sent : (past : List Operation) → List Letter
  | [] => []
  | op :: past => sent past ++ (op.sent? ((after past).perform op).1).toList

/-- The messages that have entered the queue. -/
def entered : (past : List Operation) → List Message
  | [] => []
  | op :: past =>
    entered past ++ (after (op :: past)).queue.toList.drop (after past).queue.toList.length

/-- The messages that have been taken out of the queue. -/
def delivered : (past : List Operation) → List Message
  | [] => []
  | op :: past => delivered past ++ ((after past).perform op).1.message?.toList

section

variable {o : Outbox} (op : Operation) (past : List Operation)

theorem perform_of_isOpen (h : o.IsOpen) :
    (∀ letter, o.perform (.send letter) = (.sent, o.accept letter)) ∧
      ∀ stream bytes, o.perform (.write stream bytes) =
        (.written bytes.length, o.accept (writeLetter (stream, bytes))) := by
  refine ⟨fun letter => ?_, fun stream bytes => ?_⟩
  · simp only [perform, send_of_isOpen h]
  · simp only [perform, write, send_of_isOpen h, writeLetter]

theorem perform_of_not_isOpen (h : ¬ o.IsOpen) :
    (∀ letter, o.perform (.send letter) = (.failed .closed, o)) ∧
      ∀ stream bytes, o.perform (.write stream bytes) = (.brokenPipe .closed, o) := by
  refine ⟨fun letter => ?_, fun stream bytes => ?_⟩
  · simp only [perform, send_of_not_isOpen h]
  · simp only [perform, write, send_of_not_isOpen h]

/-- A message is accepted or leaves no trace; a receiver takes one out; a shutdown may drop the
queue but adds nothing to it. -/
theorem perform_cases (o : Outbox) :
    (o.IsOpen ∧ ∃ letter, op.sent? (o.perform op).1 = some letter ∧
        (o.perform op).1.message? = none ∧ (o.perform op).2 = o.accept letter) ∨
      (¬ o.IsOpen ∧ op.sent? (o.perform op).1 = none ∧ (o.perform op).1.message? = none ∧
        (o.perform op).2 = o) ∨
      op = .receive ∨ op = .close ∨ op = .abandon := by
  cases op with
  | receive => exact .inr (.inr (.inl rfl))
  | close => exact .inr (.inr (.inr (.inl rfl)))
  | abandon => exact .inr (.inr (.inr (.inr rfl)))
  | send letter =>
    by_cases h : o.IsOpen
    · rw [(perform_of_isOpen h).1]
      exact .inl ⟨h, letter, rfl, rfl, rfl⟩
    · rw [(perform_of_not_isOpen h).1]
      exact .inr (.inl ⟨h, rfl, rfl, rfl⟩)
  | write stream bytes =>
    by_cases h : o.IsOpen
    · rw [(perform_of_isOpen h).2]
      exact .inl ⟨h, writeLetter (stream, bytes), rfl, rfl, rfl⟩
    · rw [(perform_of_not_isOpen h).2]
      exact .inr (.inl ⟨h, rfl, rfl, rfl⟩)

/-- What an operation adds to the queue is what it has sent, under the next number. -/
theorem queue_perform (o : Outbox) :
    (o.perform op).2.queue.toList.drop o.queue.toList.length =
        (op.sent? (o.perform op).1).toList.map (⟨o.nextSeq, ·⟩) ∧
      (o.perform op).2.nextSeq = o.nextSeq + (op.sent? (o.perform op).1).toList.length := by
  rcases o.perform_cases op with
    ⟨-, letter, hsent, -, hnext⟩ | ⟨-, hsent, -, hnext⟩ | rfl | rfl | rfl
  · simp [hsent, hnext, accept]
  · simp [hsent, hnext]
  · simp [perform, receive, Operation.sent?]
  · simp [perform, close, Operation.sent?]
  · simp [perform, abandon, Operation.sent?]

theorem isOpen_perform (o : Outbox) :
    (o.perform op).2.IsOpen ↔ o.IsOpen ∧ .close ≠ op ∧ .abandon ≠ op := by
  rcases o.perform_cases op with
    ⟨hopen, letter, hsent, -, hnext⟩ | ⟨hclosed, -, -, hnext⟩ | rfl | rfl | rfl
  · have hne : .close ≠ op ∧ .abandon ≠ op := by
      constructor <;> rintro rfl <;> cases hsent
    rw [hnext]
    exact iff_of_true hopen ⟨hopen, hne⟩
  · rw [hnext]
    exact iff_of_false hclosed fun h => hclosed h.1
  · simp [perform, receive, IsOpen]
  · simp [perform, close, IsOpen]
  · simp [perform, abandon, IsOpen]

/-- An outbox is open until it is closed or its receiver is dropped. -/
theorem isOpen_after : (after past).IsOpen ↔ .close ∉ past ∧ .abandon ∉ past := by
  induction past with
  | nil => simp [after, IsOpen, empty]
  | cons op past ih =>
    rw [after, isOpen_perform, ih, List.mem_cons, List.mem_cons]
    tauto

/-- What has entered is what was sent, numbered from one on. -/
theorem entered_eq :
    (entered past).map (·.letter) = sent past ∧
      (entered past).map (·.seq) = List.range' 1 (entered past).length ∧
      (after past).nextSeq = (entered past).length + 1 := by
  induction past with
  | nil => exact ⟨rfl, rfl, rfl⟩
  | cons op past ih =>
    obtain ⟨hletters, hnumbers, hnext⟩ := ih
    obtain ⟨hqueue, hcount⟩ := queue_perform op (after past)
    rw [entered, sent, after, hqueue, hcount]
    cases op.sent? ((after past).perform op).1 with
    | none => simp [hletters, hnumbers, hnext]
    | some letter =>
      refine ⟨by simp [hletters], ?_, by simp [hnext]⟩
      simp only [Option.toList_some, List.map_cons, List.map_nil, List.map_append, hnumbers, hnext,
        List.length_append, List.length_singleton, List.range'_1_concat, Nat.add_comm 1]

/-- What goes in comes out in order, or still waits. -/
theorem delivered_append (h : .abandon ∉ past) :
    delivered past ++ (after past).queue.toList = entered past := by
  induction past with
  | nil => rfl
  | cons op past ih =>
    rw [List.mem_cons, not_or] at h
    have hqueue : (after past).queue.toList ++
        (after (op :: past)).queue.toList.drop (after past).queue.toList.length =
          ((after past).perform op).1.message?.toList ++ (after (op :: past)).queue.toList := by
      rw [after]
      rcases (after past).perform_cases op with
        ⟨-, letter, -, hmessage, hnext⟩ | ⟨-, -, hmessage, hnext⟩ | rfl | rfl | rfl
      · simp [hmessage, hnext, accept]
      · simp [hmessage, hnext]
      · cases hwaiting : (after past).queue.toList <;>
          simp [perform, receive, Outcome.message?, hwaiting]
      · simp [perform, close, Outcome.message?]
      · exact (h.1 rfl).elim
    rw [delivered, entered, List.append_assoc, ← hqueue, ← List.append_assoc, ih h.2]

theorem perform_closed (h : ¬ o.IsOpen) (hkept : .abandon ≠ op) :
    op.sent? (o.perform op).1 = none ∧
      (o.perform op).2.queue.size = o.queue.size - [op].countP Operation.isReceive := by
  cases op with
  | send letter =>
    rw [(perform_of_not_isOpen h).1]
    exact ⟨rfl, rfl⟩
  | write stream bytes =>
    rw [(perform_of_not_isOpen h).2]
    exact ⟨rfl, rfl⟩
  | receive => exact ⟨rfl, by simp [perform, receive, Operation.isReceive]⟩
  | close => exact ⟨rfl, rfl⟩
  | abandon => exact (hkept rfl).elim

/-- A closed outbox only runs empty. -/
theorem after_closed {later past : List Operation} (hclosed : .close ∈ past)
    (hkept : .abandon ∉ later) :
    entered (later ++ past) = entered past ∧
      (after (later ++ past)).queue.size =
        (after past).queue.size - later.countP Operation.isReceive := by
  induction later with
  | nil => exact ⟨rfl, rfl⟩
  | cons op later ih =>
    rw [List.mem_cons, not_or] at hkept
    obtain ⟨hentered, hsize⟩ := ih hkept.2
    have hshut : ¬ (after (later ++ past)).IsOpen := by
      rw [isOpen_after]
      exact fun h => h.1 (List.mem_append_right _ hclosed)
    obtain ⟨hsent, hnext⟩ := perform_closed op hshut hkept.1
    constructor
    · rw [List.cons_append, entered, after, (queue_perform op _).1, hsent, hentered]
      simp
    · have hcount : (op :: later).countP Operation.isReceive =
          [op].countP Operation.isReceive + later.countP Operation.isReceive := by
        rw [← List.countP_append, List.singleton_append]
      rw [List.cons_append, after, hnext, hsize, hcount]
      omega

end

/-- What enters an outbox is what was sent with success, and it comes out in that order. -/
structure Delivers (past : List Operation) : Prop where
  letters : (entered past).map (·.letter) = sent past
  numbers : (entered past).map (·.seq) = List.range' 1 (sent past).length
  /-- As long as the outbox is neither closed nor abandoned, everything is accepted. -/
  accepts : .close ∉ past → .abandon ∉ past →
    (∀ letter, ((after past).perform (.send letter)).1 = .sent) ∧
      ∀ stream bytes, ((after past).perform (.write stream bytes)).1 = .written bytes.length
  /-- Afterwards everything fails, and not even a number is used up. -/
  refuses : .close ∈ past ∨ .abandon ∈ past →
    (∀ letter, (after past).perform (.send letter) = (.failed .closed, after past)) ∧
      ∀ stream bytes,
        (after past).perform (.write stream bytes) = (.brokenPipe .closed, after past)
  delivered_append : .abandon ∉ past → delivered past ++ (after past).queue.toList = entered past
  /-- What waits when the outbox is closed is there for whoever goes on receiving. -/
  delivered_closed : ∀ later, .abandon ∉ later ++ past →
    (after past).queue.size ≤ later.countP Operation.isReceive →
      delivered (later ++ .close :: past) = entered past

/-- Sends, writes and shutdowns in any order leave no gap in the numbers and lose no message that
was accepted, unless the receiver is dropped. -/
theorem delivers (past : List Operation) : Delivers past := by
  obtain ⟨hletters, hnumbers, -⟩ := entered_eq past
  have hlength : (entered past).length = (sent past).length := by
    rw [← hletters, List.length_map]
  refine ⟨hletters, hlength ▸ hnumbers, ?_, ?_, delivered_append past, ?_⟩
  · intro hclose habandon
    obtain ⟨hsend, hwrite⟩ := perform_of_isOpen ((isOpen_after past).mpr ⟨hclose, habandon⟩)
    exact ⟨fun letter => by rw [hsend], fun stream bytes => by rw [hwrite]⟩
  · intro hshut
    refine perform_of_not_isOpen fun hopen => ?_
    obtain ⟨hclose, habandon⟩ := (isOpen_after past).mp hopen
    exact hshut.elim hclose habandon
  · intro later hkept hreceives
    have hlater : .abandon ∉ later := fun h => hkept (List.mem_append_left _ h)
    have hall : .abandon ∉ later ++ .close :: past := by
      simpa [List.mem_append] using hkept
    obtain ⟨hentered, hsize⟩ := after_closed (List.mem_cons_self (l := past)) hlater
    have hempty : (after (later ++ .close :: past)).queue.toList = [] := by
      rw [← List.length_eq_zero_iff, Array.length_toList, hsize]
      exact Nat.sub_eq_zero_of_le hreceives
    have hdelivered := Outbox.delivered_append _ hall
    rw [hempty, List.append_nil, hentered] at hdelivered
    rw [hdelivered, entered]
    simp [after, perform, close]

end DebugServer.Outbox
