import Mathlib.Logic.Function.Iterate
import DebugServer.Proofs.Inspection.Tables
import DebugServer.Proofs.Session.Delivery

/-!
# Runs of events

The events of an engine are handled one after the other, up to the end of the program. What becomes
of the tables is read off the events alone. Whether the client is told of them makes no difference
to that: it is told of each, or each is noted as a failure.
-/

namespace DebugServer

namespace EngineEvent

/-- The events up to the end of the program, which are the ones that are handled. -/
def untilEnd (events : List EngineEvent) : List EngineEvent :=
  events.take (events.findIdx isLast + 1)

theorem untilEnd_cons (event : EngineEvent) (rest : List EngineEvent) :
    untilEnd (event :: rest) = if event.isLast then [event] else event :: untilEnd rest := by
  unfold untilEnd
  rw [List.findIdx_cons]
  cases event.isLast <;> simp

theorem any_isLast_untilEnd (events : List EngineEvent) :
    (untilEnd events).any isLast = events.any isLast := by
  induction events with
  | nil => rfl
  | cons event rest ih =>
    rw [untilEnd_cons]
    split
    · rename_i hlast
      simp [hlast]
    · rw [List.any_cons, List.any_cons, ih]

/-- Whether an event invalidates the handles. -/
def purges : EngineEvent → Bool
  | .stopped _ | .terminated => true
  | .threadStarted _ | .threadExited _ => false

/-- The stop that an event tells of, if it is one of this thread. -/
def stopOf? (thread : ThreadId) : EngineEvent → Option StopEvent
  | .stopped stop => if stop.thread = thread then some stop else none
  | _ => none

/-- What the client has to be told of an event: a name, and for some a reason and a thread. -/
def notice : EngineEvent → String × Option Json × Option Json
  | .threadStarted thread => ("thread", some (.str "started"), some (Json.int thread.toInt))
  | .threadExited thread => ("thread", some (.str "exited"), some (Json.int thread.toInt))
  | .stopped stop =>
    ("stopped", some (.str stop.reason.clientName), some (Json.int stop.thread.toInt))
  | .terminated => ("terminated", none, none)

end EngineEvent

/-- What a message tells of an event of the engine. -/
def Letter.notice? : Letter → Option (String × Option Json × Option Json)
  | .event name body =>
    some (name, body.bind (·.field? "reason"), body.bind (·.field? "threadId"))
  | .response .. => none

/-- The last stop of a thread that events tell of. -/
def lastStop? (thread : ThreadId) (events : List EngineEvent) : Option StopEvent :=
  (events.filterMap (·.stopOf? thread)).getLast?

theorem lastStop?_cons (thread : ThreadId) (event : EngineEvent) (rest : List EngineEvent) :
    lastStop? thread (event :: rest) = (lastStop? thread rest).or (event.stopOf? thread) := by
  unfold lastStop?
  cases h : event.stopOf? thread with
  | none => simp [List.filterMap_cons_none h]
  | some stop =>
    rw [List.filterMap_cons_some h, List.getLast?_cons]
    cases (rest.filterMap (·.stopOf? thread)).getLast? <;> rfl

theorem SessionEvent.notice?_threadBody (name reason : String) (thread : ThreadId) :
    (Letter.event name (some (threadBody reason thread))).notice? =
      some (name, some (.str reason), some (Json.int thread.toInt)) := by
  have hobject : threadBody reason thread =
      .obj [("reason", .str reason), ("threadId", Json.int thread.toInt)] := by
    have hdiffers : "threadId" ≠ "reason" := by decide
    have hbehind : ¬"threadId" < "reason" := by decide
    simp only [threadBody, Json.object, List.foldl_cons, List.foldl_nil, Json.insertField,
      if_neg hdiffers, if_neg hbehind]
  simp [Letter.notice?, hobject, Json.field?, List.lookup_cons]

theorem EngineEvent.notice?_letter (event : EngineEvent) :
    event.letter.notice? = some event.notice := by
  cases event with
  | threadStarted | threadExited | stopped => exact SessionEvent.notice?_threadBody _ _ _
  | terminated => rfl

namespace Tables

/-- The end of the program is the last event that is handled, and lets all stops go. -/
theorem stops_untilEnd {events : List EngineEvent} (h : events.any (·.isLast) = true)
    (t : Tables) : ((EngineEvent.untilEnd events).foldl after t).stops = .empty := by
  induction events generalizing t with
  | nil => cases h
  | cons event rest ih =>
    rw [EngineEvent.untilEnd_cons]
    split
    · rename_i hlast
      obtain rfl := EngineEvent.isLast_iff.mp hlast
      rfl
    · rename_i hlast
      rw [List.any_cons, Bool.or_eq_true, or_iff_right hlast] at h
      exact ih h (t.after event)

variable (t : Tables) (event : EngineEvent)

theorem frames_after : (t.after event).frames =
    if event.purges then t.frames.purge else t.frames := by
  cases event <;> rfl

theorem scopes_after : (t.after event).values.scopes =
    if event.purges then t.values.scopes.purge else t.values.scopes := by
  cases event <;> rfl

theorem get?_stops_after (h : event.isLast = false) (thread : ThreadId) :
    (t.after event).stops.get? thread = (event.stopOf? thread).or (t.stops.get? thread) := by
  cases event with
  | threadStarted | threadExited => rfl
  | stopped stop =>
    simp only [after, recordStop_stops, RetainedStops.get?_retain, EngineEvent.stopOf?]
    split <;> rfl
  | terminated => cases h

end Tables

namespace LiveState

variable {s s' : LiveState}

theorem handle_of_not_isOpen (h : ¬ s.outbox.IsOpen) (event : EngineEvent) :
    ∃ journal, s.handle event =
      { s with
        tables := s.tables.after event, failures := s.failures.push .closed
        ended := s.ended || event.isLast, journal } := by
  cases event with
  | threadStarted | threadExited | terminated =>
    simp only [handle, notify, Outbox.send_of_not_isOpen h, log, Tables.after, EngineEvent.isLast,
      Bool.or_false, Bool.or_true]
    exact ⟨_, rfl⟩
  | stopped stop =>
    simp only [handle, recordStop, logReplaced, log]
    split <;>
      · simp only [notify, Outbox.send_of_not_isOpen h, log, Tables.after, EngineEvent.isLast,
          Bool.or_false]
        exact ⟨_, rfl⟩

/-- An event does the same to the tables whatever comes of telling the client. -/
theorem handle_eq (s : LiveState) (event : EngineEvent) :
    (s.handle event).tables = s.tables.after event ∧
      (s.handle event).ended = (s.ended || event.isLast) := by
  by_cases h : s.outbox.IsOpen
  · obtain ⟨_, hhandle⟩ := handle_of_isOpen h event
    rw [hhandle]
    exact ⟨rfl, rfl⟩
  · obtain ⟨_, hhandle⟩ := handle_of_not_isOpen h event
    rw [hhandle]
    exact ⟨rfl, rfl⟩

/-- What has become of a state when these events have been handled, of which only the latest can be
the end of the program. -/
structure Settles (s : LiveState) (handled : List EngineEvent) (s' : LiveState) : Prop where
  handles : s' = handled.foldl handle s
  tables : s'.tables = handled.foldl Tables.after s.tables
  frames_epoch : s'.tables.frames.epoch =
    Epoch.next^[handled.countP (·.purges)] s.tables.frames.epoch
  values_epoch : s'.tables.values.epoch =
    Epoch.next^[handled.countP (·.purges)] s.tables.values.epoch
  frames : s'.tables.frames.entries =
    if handled.any (·.purges) then [] else s.tables.frames.entries
  values : s'.tables.values.scopes.entries =
    if handled.any (·.purges) then [] else s.tables.values.scopes.entries
  stops : ∀ thread, s'.tables.stops.get? thread =
    if handled.any (·.isLast) then none
    else (lastStop? thread handled).or (s.tables.stops.get? thread)
  ended : s'.ended = (s.ended || handled.any (·.isLast))
  /-- A client that listens is told of every event, in order. -/
  told : s.outbox.IsOpen → s'.failures = s.failures ∧ ∃ letters,
    s'.outbox = s.outbox.acceptAll letters ∧
      letters.map Letter.notice? = handled.map fun event => some event.notice
  /-- Otherwise nothing is sent, and as many failures are noted. -/
  untold : ¬ s.outbox.IsOpen → s'.outbox = s.outbox ∧
    s'.failures = s.failures ++ Array.replicate handled.length .closed

theorem Settles.refl (s : LiveState) : Settles s [] s where
  handles := rfl
  tables := rfl
  frames_epoch := rfl
  values_epoch := rfl
  frames := rfl
  values := rfl
  stops _ := rfl
  ended := (Bool.or_false _).symm
  told _ := ⟨rfl, [], rfl, rfl⟩
  untold _ := ⟨rfl, by simp⟩

theorem Settles.cons {event : EngineEvent} {rest : List EngineEvent}
    (hfollowed : event.isLast = false ∨ rest = []) (h : Settles (s.handle event) rest s') :
    Settles s (event :: rest) s' := by
  obtain ⟨htables, hended⟩ := s.handle_eq event
  have hframes := congrArg Tables.frames htables
  have hscopes := congrArg (·.values.scopes) htables
  rw [Tables.frames_after] at hframes
  rw [Tables.scopes_after] at hscopes
  refine ⟨h.handles, by rw [h.tables, htables]; rfl, ?_, ?_, ?_, ?_, ?_, ?_, ?_, ?_⟩
  · rw [h.frames_epoch, hframes, List.countP_cons]
    cases event.purges <;> rfl
  · rw [h.values_epoch, VariableTable.epoch, hscopes, List.countP_cons]
    cases event.purges <;> rfl
  · rw [h.frames, hframes, List.any_cons]
    cases event.purges <;> cases rest.any (·.purges) <;> rfl
  · rw [h.values, hscopes, List.any_cons]
    cases event.purges <;> cases rest.any (·.purges) <;> rfl
  · intro thread
    rw [h.stops, htables, List.any_cons]
    cases hlast : event.isLast with
    | false => rw [Tables.get?_stops_after _ _ hlast, lastStop?_cons, Option.or_assoc]; rfl
    | true =>
      obtain rfl := EngineEvent.isLast_iff.mp hlast
      obtain rfl := hfollowed.resolve_left (by simp [hlast])
      rfl
  · rw [h.ended, hended, List.any_cons, Bool.or_assoc]
  · intro hopen
    obtain ⟨_, hhandle⟩ := handle_of_isOpen hopen event
    rw [hhandle] at h
    obtain ⟨hfailures, letters, houtbox, hletters⟩ := h.told (hopen.acceptAll [event.letter])
    refine ⟨hfailures, event.letter :: letters, houtbox, ?_⟩
    rw [List.map_cons, List.map_cons, event.notice?_letter, hletters]
  · intro hclosed
    obtain ⟨_, hhandle⟩ := handle_of_not_isOpen hclosed event
    rw [hhandle] at h
    obtain ⟨houtbox, hfailures⟩ := h.untold hclosed
    refine ⟨houtbox, ?_⟩
    rw [hfailures, Array.push_eq_append, Array.append_assoc, List.length_cons]
    congr 1
    exact Array.replicate_succ'.symm

theorem run_settles_take (s : LiveState) (events : List EngineEvent) :
    Settles s (events.take (events.findIdx EngineEvent.isLast + 1)) (s.run events).1 ∧
      (s.run events).2 = events.drop (events.findIdx EngineEvent.isLast + 1) := by
  induction events generalizing s with
  | nil => exact ⟨.refl s, rfl⟩
  | cons event rest ih =>
    cases hlast : event.isLast with
    | true =>
      simp only [run, hlast, List.findIdx_cons, if_true, cond_true]
      exact ⟨(Settles.refl _).cons (.inr rfl), rfl⟩
    | false =>
      simp only [run, hlast, List.findIdx_cons, Bool.false_eq_true, if_false, cond_false]
      obtain ⟨hsettles, hunread⟩ := ih (s.handle event)
      exact ⟨hsettles.cons (.inl hlast), hunread⟩

theorem run_eq_foldl (s : LiveState) (events : List EngineEvent) :
    (s.run events).1 = (EngineEvent.untilEnd events).foldl handle s :=
  (s.run_settles_take events).1.handles

theorem foldl_handle_of_isOpen (h : s.outbox.IsOpen) (events : List EngineEvent) :
    ∃ journal, events.foldl handle s =
      { s with
        tables := events.foldl Tables.after s.tables
        outbox := s.outbox.acceptAll (events.map (·.letter))
        ended := s.ended || events.any (·.isLast), journal } := by
  induction events generalizing s with
  | nil => exact ⟨s.journal, by simp⟩
  | cons event rest ih =>
    obtain ⟨journal, hfirst⟩ := handle_of_isOpen h event
    obtain ⟨journal', hrest⟩ := ih (s := s.handle event) (by
      rw [hfirst]
      exact h.acceptAll [event.letter])
    refine ⟨journal', ?_⟩
    rw [List.foldl_cons, hrest, hfirst, List.any_cons, ← Bool.or_assoc]
    rfl

theorem isOpen_run (h : s.outbox.IsOpen) (events : List EngineEvent) :
    (s.run events).1.outbox.IsOpen := by
  obtain ⟨_, hlive⟩ := foldl_handle_of_isOpen h (EngineEvent.untilEnd events)
  rw [run_eq_foldl, hlive]
  exact h.acceptAll _

/-- The events up to the end of the program are handled, the others stay unread, and the outbox has
no part in what becomes of the tables. -/
theorem run_settles (s : LiveState) (events : List EngineEvent) :
    let handled := events.take (events.findIdx EngineEvent.isLast + 1)
    Settles s handled (s.run events).1 ∧ handled ++ (s.run events).2 = events ∧
      ∀ outbox,
        ({ s with outbox }.run events).1.tables = (s.run events).1.tables ∧
        ({ s with outbox }.run events).1.ended = (s.run events).1.ended ∧
        ({ s with outbox }.run events).2 = (s.run events).2 := by
  obtain ⟨hsettles, hunread⟩ := s.run_settles_take events
  refine ⟨hsettles, ?_, fun outbox => ?_⟩
  · rw [hunread, List.take_append_drop]
  · obtain ⟨hother, hleft⟩ := { s with outbox }.run_settles_take events
    exact ⟨hother.tables.trans hsettles.tables.symm, hother.ended.trans hsettles.ended.symm,
      hleft.trans hunread.symm⟩

end LiveState

end DebugServer
