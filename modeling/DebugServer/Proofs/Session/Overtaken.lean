import DebugServer.Engine.Scripted
import DebugServer.Proofs.Session.Access

/-!
# Reading a stack while other threads stop

A stop of another thread while frames are read invalidates every handle, so an attempt to list the
frames that has begun before it has to be given up. Nothing of it stays in the tables, and the
stop whose frames are read is retained. There are four attempts.
-/

namespace DebugServer

theorem Epoch.next_ne (e : Epoch) : e.next ≠ e := by
  intro h
  have hpurges := congrArg Epoch.purges h
  simp only [Epoch.next, UInt64.size] at hpurges
  omega

/-- The same stop when its frames have been read `reads` more times. -/
def StopEvent.after (stop : StopEvent) (reads : Nat) : StopEvent :=
  { stop with stack := { stop.stack with overtaken := stop.stack.overtaken - reads } }

theorem StopEvent.after_min (stop : StopEvent) (reads : Nat) :
    stop.after (min reads stop.stack.overtaken) = stop.after reads := by
  have hleft : stop.stack.overtaken - min reads stop.stack.overtaken =
      stop.stack.overtaken - reads := by omega
  rw [after, hleft, after]

theorem RetainedStops.thread_of_get? {r : RetainedStops} {thread : ThreadId} {stop : StopEvent}
    (h : r.get? thread = some stop) : stop.thread = thread := by
  simpa using List.find?_some h

/-- What some reads of a retained stop have left of the tables, if each of them was overtaken. -/
structure Tables.Overtaken (t : Tables) (stop : StopEvent) (reads : Nat) (t' : Tables) :
    Prop where
  retained : t'.stops.get? stop.thread = some (stop.after reads)
  others : ∀ thread ≠ stop.thread, t'.stops.get? thread = t.stops.get? thread
  kept : t'.frames.toList = if reads = 0 then t.frames.toList else []

namespace Tables

variable {t t' : Tables} {stop : StopEvent} {reads : Nat}

theorem overtaken_zero (h : t.stops.get? stop.thread = some stop) : t.Overtaken stop 0 t :=
  ⟨h, fun _ _ => rfl, rfl⟩

/-- One more read: it shows the frames, but their handles would be of an epoch that is over. -/
theorem Overtaken.readFrames (h : t.Overtaken stop reads t') (hmore : reads < stop.stack.overtaken)
    (first last : Nat) :
    ∃ t'', t'.readFrames (stop.after reads) first last = (stop.stack.window first last, t'') ∧
      t.Overtaken stop (reads + 1) t'' ∧ t''.frames.epoch ≠ t'.frames.epoch := by
  obtain ⟨left, hleft⟩ : ∃ left, stop.stack.overtaken = reads + (left + 1) :=
    ⟨stop.stack.overtaken - reads - 1, by omega⟩
  have hnow : (stop.after reads).stack.overtaken = left + 1 := by
    change stop.stack.overtaken - reads = left + 1
    omega
  have hthen : stop.stack.overtaken - (reads + 1) = left := by omega
  have hafter : stop.after (reads + 1) =
      { stop with stack := { stop.stack with overtaken := left } } := by
    rw [StopEvent.after, hthen]
  refine ⟨{ t'.purge with stops := t'.stops.retain (stop.after (reads + 1)) }, ?_, ?_, ?_⟩
  · simp only [Tables.readFrames, hnow, hafter]
    rfl
  · constructor
    · simp [RetainedStops.get?_retain, StopEvent.after]
    · intro thread hthread
      have hother : (stop.after (reads + 1)).thread ≠ thread := Ne.symm hthread
      rw [RetainedStops.get?_retain, if_neg hother]
      exact h.others thread hthread
    · simp [Tables.purge, HandleTable.purge, HandleTable.toList]
  · exact Epoch.next_ne _

end Tables

/-- A stack that cannot be read is taken for one of a thread that has not stopped. -/
def Reply.ofStack : Option StackTraceBody → Reply
  | some body => .body (.stackTrace body)
  | none => .refuse .invalidThread

namespace Session

variable {σ : Type} {tr : Translator} {program : Program} {a : StackTraceArguments}
  {t t' : Tables} {stop : StopEvent} {reads : Nat}

theorem issueFrames_of_ne {epoch : Epoch} (h : epoch ≠ t.frames.epoch) {frames : List Frame}
    (hframes : frames ≠ []) : issueFrames tr program epoch frames t = (none, t) := by
  cases frames with
  | nil => exact absurd rfl hframes
  | cons frame rest => simp [issueFrames, HandleTable.addIn, h]

/-- An attempt that is overtaken leads to the next one, unless there is nothing to issue. -/
theorem readStack_of_overtaken (h : t.Overtaken stop reads t') (hthread : stop.thread = a.thread)
    (hmore : reads < stop.stack.overtaken) (attempts : Nat) :
    ∃ t'', t.Overtaken stop (reads + 1) t'' ∧
      readStack tr program a (attempts + 1) t' =
        if stop.framesFor a = [] then (some ⟨[], some stop.stack.depth⟩, t'')
        else readStack tr program a attempts t'' := by
  have hretained : t'.retained? a.thread = some (stop.after reads, t'.frames.epoch) := by
    rw [Tables.retained?, ← hthread, h.retained, Option.map_some]
  obtain ⟨t'', hread, hthen, hepoch⟩ := h.readFrames hmore
    (frameWindow a stop.stack.depth).1 (frameWindow a stop.stack.depth).2
  have hdepth : (stop.after reads).stack.depth = stop.stack.depth := rfl
  refine ⟨t'', hthen, ?_⟩
  simp only [readStack, hretained, hdepth, hread]
  rw [stop.window_frameWindow a]
  by_cases hframes : stop.framesFor a = []
  · rw [if_pos hframes, hframes]
    rfl
  · rw [if_neg hframes, issueFrames_of_ne (Ne.symm hepoch) hframes]

/-- Where no frames are asked for, the first attempt succeeds, overtaken or not. -/
theorem readStack_of_no_frames (hstop : t.stops.get? stop.thread = some stop)
    (hthread : stop.thread = a.thread) (hframes : stop.framesFor a = []) (attempts : Nat) :
    ∃ t', t.Overtaken stop (min 1 stop.stack.overtaken) t' ∧
      readStack tr program a (attempts + 1) t = (some ⟨[], some stop.stack.depth⟩, t') := by
  have hstart := Tables.overtaken_zero hstop
  by_cases hundisturbed : stop.stack.overtaken = 0
  · rw [readStack_of_retained (hthread ▸ hstop) hundisturbed, hundisturbed, hframes]
    refine ⟨t, hstart, ?_⟩
    simp [Translator.stackFrames, Tables.withFrames]
  · obtain ⟨t', hnext, hread⟩ :=
      readStack_of_overtaken hstart hthread (Nat.pos_of_ne_zero hundisturbed) attempts
    rw [if_pos hframes] at hread
    exact ⟨t', by rwa [Nat.min_eq_left (by omega)], hread⟩

/-- When no attempt is left, all that is left of the attempts is the stop. -/
theorem readStack_gives_up (hthread : stop.thread = a.thread) (hframes : stop.framesFor a ≠ [])
    {attempts : Nat} (h : t.Overtaken stop reads t')
    (hmore : reads + attempts ≤ stop.stack.overtaken) :
    ∃ t'', t.Overtaken stop (reads + attempts) t'' ∧
      readStack tr program a attempts t' = (none, t'') := by
  induction attempts generalizing reads t' with
  | zero => exact ⟨t', h, rfl⟩
  | succ attempts ih =>
    obtain ⟨next, hnext, hread⟩ := readStack_of_overtaken h hthread (by omega) attempts
    obtain ⟨last, hlast, hfailed⟩ := ih hnext (by omega)
    rw [if_neg hframes] at hread
    have hcount : reads + 1 + attempts = reads + (attempts + 1) := by omega
    exact ⟨last, hcount ▸ hlast, hread.trans hfailed⟩

/-- The first attempt that is not overtaken issues the handles. -/
theorem readStack_succeeds (hthread : stop.thread = a.thread) (hframes : stop.framesFor a ≠ [])
    {attempts : Nat} (h : t.Overtaken stop reads t') (hreads : reads ≤ stop.stack.overtaken)
    (henough : stop.stack.overtaken < reads + attempts) :
    ∃ t'', t.Overtaken stop stop.stack.overtaken t'' ∧
      readStack tr program a attempts t' =
        (some ⟨tr.stackFrames program (t''.frames.size + 1) (stop.framesFor a),
          some stop.stack.depth⟩, t''.withFrames (stop.framesFor a)) := by
  induction attempts generalizing reads t' with
  | zero => omega
  | succ attempts ih =>
    by_cases hlast : reads = stop.stack.overtaken
    · subst hlast
      have hundisturbed : (stop.after stop.stack.overtaken).stack.overtaken = 0 := Nat.sub_self _
      exact ⟨t', h, readStack_of_retained (hthread ▸ h.retained) hundisturbed attempts⟩
    · obtain ⟨next, hnext, hread⟩ := readStack_of_overtaken h hthread (by omega) attempts
      obtain ⟨last, hlast, hfound⟩ := ih hnext (by omega) (by omega)
      rw [if_neg hframes] at hread
      exact ⟨last, hlast, hread.trans hfound⟩

section

variable {engine : Engine σ} {s : Session σ} {request : Request}

/-- A request for a stack is answered from the tables as they are when it comes. -/
theorem replyTo_stackTrace (engine : Engine σ)
    (hphase : s.phase = .configuring ∨ s.phase = .running) (hprogram : s.program = some program)
    (hcommand : request.command = "stackTrace")
    (hdecode : request.decodeArguments StackTraceArguments.format = .ok a)
    {read : Option StackTraceBody}
    (hread : readStack s.translator program a readAttempts s.live.tables = (read, t')) :
    ∃ record, s.replyTo engine request = (.ok (.ofStack read), (s.log record).withTables t') := by
  have hstack : ∀ record, (s.log record).stackTrace a =
      (.ofStack read, (s.log record).withTables t') := by
    intro record
    have hsame : readStack (s.log record).translator program a readAttempts
        (s.log record).live.tables = (read, t') := hread
    simp only [stackTrace, show (s.log record).program = some program from hprogram, hsame]
    cases read <;> rfl
  obtain ⟨record, hreply⟩ :=
    replyTo_of_launched engine (c := .stackTrace) hphase hcommand (by decide) (by decide)
  simp only [perform, withArguments, hdecode] at hreply
  rw [hstack] at hreply
  exact ⟨record, hreply⟩

theorem replies_stackTrace (engine : Engine σ) (hopen : s.live.outbox.IsOpen)
    (hphase : s.phase = .configuring ∨ s.phase = .running) (hprogram : s.program = some program)
    (hcommand : request.command = "stackTrace")
    (hdecode : request.decodeArguments StackTraceArguments.format = .ok a)
    {read : Option StackTraceBody}
    (hread : readStack s.translator program a readAttempts s.live.tables = (read, t')) :
    s.Replies engine request (.ofStack read) ∧
      (s.process engine request).2.live.tables = t' := by
  obtain ⟨record, hreply⟩ :=
    replyTo_stackTrace engine hphase hprogram hcommand hdecode hread
  have hprocess := process_of_replyTo hreply hopen
  exact ⟨⟨_, hreply, hprocess⟩, by rw [hprocess]; rfl⟩

end

/-- The frames that were issued last are found under the handles that they are shown with. -/
theorem resolves_stackFrames (tr : Translator) (program : Program) (table : HandleTable Frame)
    (frames : List Frame) :
    List.Forall₂ (fun frame shown => (table.extend frames).get? shown.id = some frame ∧
        shown = tr.stackFrame shown.id frame program)
      frames (tr.stackFrames program (table.size + 1) frames) := by
  induction frames generalizing table with
  | nil => exact .nil
  | cons frame rest ih =>
    rw [Translator.stackFrames_cons]
    refine .cons ⟨?_, by rw [Translator.stackFrame_id]⟩ ?_
    · rw [Translator.stackFrame_id]
      exact HandleTable.get?_extend_iff.mpr (.inr ⟨0, by simp, rfl⟩)
    · have hrest := ih (table.extend [frame])
      rwa [HandleTable.extend_extend, HandleTable.size_extend] at hrest

/-- A stack is listed even if other threads stop during the first three of its reads. Of the reads
that are overtaken nothing stays in the tables: the handles count from one again, one for each
frame. If a fourth read is overtaken, too, the request is refused, and no frame has a handle; only
if it asks for no frames is there nothing to overtake. In any case all stops are retained as they
were, but for the reads of this one. -/
theorem stackTrace_overtaken (engine : Engine σ) {s : Session σ} {request : Request}
    (hopen : s.live.outbox.IsOpen) (hphase : s.phase = .configuring ∨ s.phase = .running)
    (hprogram : s.program = some program) (hcommand : request.command = "stackTrace")
    (hdecode : request.decodeArguments StackTraceArguments.format = .ok a)
    (hstop : s.live.tables.stops.get? a.thread = some stop) :
    let frames := stop.framesFor a
    let overtaken := stop.stack.overtaken
    ∃ reply tables, s.Replies engine request reply ∧
      (s.process engine request).2.live.tables = tables ∧
      (frames = [] → reply = .body (.stackTrace ⟨[], some stop.stack.depth⟩)) ∧
      (frames ≠ [] → overtaken ≤ 3 → ∃ shown,
        reply = .body (.stackTrace ⟨shown, some stop.stack.depth⟩) ∧
        List.Forall₂ (fun frame f => tables.frames.get? f.id = some frame ∧
          f = s.translator.stackFrame f.id frame program) frames shown ∧
        (1 ≤ overtaken → shown.map (·.id) = (List.range' 1 frames.length).map Nat.cast ∧
          tables.frames.toList = frames)) ∧
      (frames ≠ [] → 4 ≤ overtaken → reply.succeeded = false ∧
        reply.message = "Invalid thread ID" ∧ tables.frames.toList = []) ∧
      tables.stops.get? a.thread = some (stop.after (if frames = [] then 1 else 4)) ∧
      ∀ thread ≠ a.thread, tables.stops.get? thread = s.live.tables.stops.get? thread := by
  intro frames overtaken
  have hthread : stop.thread = a.thread := RetainedStops.thread_of_get? hstop
  have hretained : s.live.tables.stops.get? stop.thread = some stop := hthread ▸ hstop
  have hstart := Tables.overtaken_zero hretained
  by_cases hframes : frames = []
  · obtain ⟨t', hleft, hread⟩ := readStack_of_no_frames hretained hthread hframes 3
    obtain ⟨hreply, htables⟩ :=
      replies_stackTrace engine hopen hphase hprogram hcommand hdecode hread
    refine ⟨_, t', hreply, htables, fun _ => rfl, fun h => absurd hframes h,
      fun h => absurd hframes h, ?_, hthread ▸ hleft.others⟩
    rw [if_pos hframes, ← hthread, hleft.retained, StopEvent.after_min]
  by_cases hfew : overtaken ≤ 3
  · obtain ⟨t', hleft, hread⟩ := readStack_succeeds hthread hframes hstart (Nat.zero_le _)
      (show overtaken < 0 + readAttempts by simp only [readAttempts]; omega)
    obtain ⟨hreply, htables⟩ :=
      replies_stackTrace engine hopen hphase hprogram hcommand hdecode hread
    refine ⟨_, _, hreply, htables, fun h => absurd h hframes, fun _ _ => ⟨_, rfl, ?_, ?_⟩,
      fun _ h => absurd h (by omega), ?_, hthread ▸ hleft.others⟩
    · exact resolves_stackFrames s.translator program t'.frames frames
    · intro hsome
      have hempty : t'.frames.toList = [] := by
        have hkept := hleft.kept
        rwa [if_neg (Nat.ne_of_gt hsome)] at hkept
      constructor
      · rw [Translator.map_id_stackFrames, ← HandleTable.length_toList, hempty]
        rfl
      · rw [Tables.withFrames, HandleTable.toList_extend, hempty, List.nil_append]
    · rw [if_neg hframes, ← hthread, ← StopEvent.after_min, Nat.min_eq_right (by omega)]
      exact hleft.retained
  · obtain ⟨t', hleft, hread⟩ := readStack_gives_up hthread hframes hstart
      (show 0 + readAttempts ≤ overtaken by simp only [readAttempts]; omega)
    obtain ⟨hreply, htables⟩ :=
      replies_stackTrace engine hopen hphase hprogram hcommand hdecode hread
    refine ⟨_, t', hreply, htables, fun h => absurd h hframes, fun _ h => absurd h hfew,
      fun _ _ => ⟨rfl, rfl, hleft.kept⟩, ?_, hthread ▸ hleft.others⟩
    rw [if_neg hframes, ← hthread]
    exact hleft.retained

/-- Two other threads stop while the two frames of a thread are read. -/
theorem stackTrace_overtaken_twice :
    let settings : Settings := ⟨none, false, none, ⟨10, 10⟩, 10, 10, none⟩
    let launch : Request := ⟨1, "request", "launch", .obj [("program", .str "main.go")]⟩
    let stop : StopEvent := ⟨.breakpoint, 1, ⟨[⟨"f", none, none, []⟩, ⟨"main", none, none, []⟩], 2⟩⟩
    let inspect : Request := ⟨2, "request", "stackTrace", .obj [("threadId", .num (.int 1))]⟩
    let s := (new settings (ScriptedState.new .default .empty)).after scriptedEngine
      [.event (.stopped stop), .request launch]
    (s.live.outbox.IsOpen ∧ (s.phase = .configuring ∨ s.phase = .running) ∧
      s.live.tables.stops.get? 1 = some stop) ∧
    ∃ reply, s.Replies scriptedEngine inspect reply ∧ ∃ shown,
      reply = .body (.stackTrace ⟨shown, some 2⟩) ∧ shown.map (·.id) = [1, 2] := by
  intro settings launch stop inspect s
  have hopen : s.live.outbox.IsOpen := ⟨by decide +kernel, by decide +kernel⟩
  have hphase : s.phase = .configuring ∨ s.phase = .running := by decide +kernel
  have hstop : s.live.tables.stops.get? 1 = some stop := by rfl
  obtain ⟨program, hprogram⟩ : ∃ program, s.program = some program :=
    Option.isSome_iff_exists.mp (by decide +kernel)
  have hdecode : inspect.decodeArguments StackTraceArguments.format = .ok ⟨1, none, none⟩ := rfl
  obtain ⟨reply, _, hreply, -, -, hfew, -⟩ :=
    stackTrace_overtaken scriptedEngine hopen hphase hprogram rfl hdecode hstop
  obtain ⟨shown, hshown, -, hids⟩ := hfew nofun (by decide)
  exact ⟨⟨hopen, hphase, hstop⟩, reply, hreply, shown, hshown, (hids (by decide)).1⟩

end Session

end DebugServer
