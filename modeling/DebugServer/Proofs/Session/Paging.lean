import DebugServer.Engine.Scripted
import DebugServer.Proofs.Session.Handles
import DebugServer.Proofs.Session.Overtaken

/-!
# Listing a stack page by page

A part of a stack is asked for by its first position and a number of levels. Whatever integers a
client sends for them, it is shown the frames between two positions, each under the next handle.
Parts that follow each other are one part, so the pages of a stack are the whole stack.
-/

namespace DebugServer

theorem Request.isStackTrace_of_access? {request : Request} {a : StackTraceArguments}
    (h : request.access? = some (.frames a)) :
    request.command = "stackTrace" ∧
      request.decodeArguments StackTraceArguments.format = .ok a := by
  cases hname : Command.ofName? request.command with
  | none => simp [access?, hname] at h
  | some c =>
    cases c with
    | stackTrace =>
      refine ⟨(Command.ofName?_eq_some_iff.mp hname).symm, ?_⟩
      simp only [access?, hname] at h
      cases hdecode : request.decodeArguments StackTraceArguments.format with
      | error e => simp [hdecode, Except.toOption] at h
      | ok decoded => simpa [hdecode, Except.toOption] using h
    | _ => simp [access?, hname] at h

namespace FrameStack

variable {stack : FrameStack} {first last : Nat}

theorem length_window (hlast : last ≤ stack.depth) :
    (stack.window first last).length = last - first := by
  have hdepth : last ≤ stack.frames.length := hlast
  rw [window, List.length_drop, List.length_take, Nat.min_eq_left hdepth]

theorem getElem?_window {k : Nat} {frame : Frame} (h : (stack.window first last)[k]? = some frame) :
    stack.frames[first + k]? = some frame := by
  rw [window, List.getElem?_drop, List.getElem?_take] at h
  split at h
  · exact h
  · cases h

end FrameStack

/-- The frames of a stack from position `first` up to but excluding `last`, as they are shown under
the next handles. -/
structure Listed (tr : Translator) (program : Program) (stack : FrameStack) (first last : Nat)
    (before after : HandleTable Frame) (shown : List StackFrame) : Prop where
  length : shown.length = last - first
  each : ∀ {k : Nat} {f : StackFrame}, shown[k]? = some f →
    f.id = before.size + k + 1 ∧ before.get? f.id = none ∧
      ∃ frame, stack.frames[first + k]? = some frame ∧ after.get? f.id = some frame ∧
        f = tr.stackFrame f.id frame program
  kept : ∀ {id frame}, before.get? id = some frame → after.get? id = some frame
  size : after.size = before.size + shown.length

namespace Listed

variable {tr : Translator} {program : Program} {stack : FrameStack} {first middle last : Nat}
  {before between after : HandleTable Frame} {shown more : List StackFrame}

theorem empty (tr : Translator) (program : Program) (stack : FrameStack) (first : Nat)
    (table : HandleTable Frame) : Listed tr program stack first first table table [] where
  length := (Nat.sub_self first).symm
  each h := nomatch h
  kept h := h
  size := rfl

theorem extend (tr : Translator) (program : Program) (hlast : last ≤ stack.depth)
    (table : HandleTable Frame) :
    Listed tr program stack first last table (table.extend (stack.window first last))
      (tr.stackFrames program (table.size + 1) (stack.window first last)) where
  length := by
    rw [Translator.stackFrames, List.length_mapIdx, FrameStack.length_window hlast]
  each := by
    intro k f hf
    rw [Translator.getElem?_stackFrames, Option.map_eq_some_iff] at hf
    obtain ⟨frame, hframe, rfl⟩ := hf
    have hid : ((table.size + 1 + k : Nat) : Int) = table.size + k + 1 := by omega
    rw [Translator.stackFrame_id]
    refine ⟨hid, ?_, frame, FrameStack.getElem?_window hframe, ?_, rfl⟩
    · rw [← Option.not_isSome_iff_eq_none, HandleTable.get?_isSome_iff]
      omega
    · exact HandleTable.get?_extend_iff.mpr (.inr ⟨k, hid, hframe⟩)
  kept h := HandleTable.get?_extend_iff.mpr (.inl h)
  size := by rw [HandleTable.size_extend, Translator.stackFrames, List.length_mapIdx]

/-- A part of a stack and the part that follows it are one part. -/
theorem append (h : Listed tr program stack first (min stack.depth middle) before between shown)
    (h' : Listed tr program stack middle (min stack.depth last) between after more)
    (hfirst : first ≤ middle) (hlast : middle ≤ last) :
    Listed tr program stack first (min stack.depth last) before after (shown ++ more) where
  length := by
    rw [List.length_append, h.length, h'.length]
    omega
  each := by
    intro k f hf
    rw [List.getElem?_append] at hf
    split at hf
    · obtain ⟨hid, hfresh, frame, hframe, hfound, hshown⟩ := h.each hf
      exact ⟨hid, hfresh, frame, hframe, h'.kept hfound, hshown⟩
    · rename_i hk
      obtain ⟨hid, hfresh, frame, hframe, hfound, hshown⟩ := h'.each hf
      have hmore : k - shown.length < more.length := (List.getElem?_eq_some_iff.mp hf).1
      -- Nothing is left to follow unless the first part ends where the second one begins.
      have hends : shown.length = middle - first := by
        have hlength := h.length
        have hlength' := h'.length
        omega
      rw [h.size] at hid
      refine ⟨by omega, ?_, frame, ?_, hfound, hshown⟩
      · cases hbefore : before.get? f.id with
        | none => rfl
        | some other =>
          rw [h.kept hbefore] at hfresh
          cases hfresh
      · rwa [show middle + (k - shown.length) = first + k by omega] at hframe
  kept hbefore := h'.kept (h.kept hbefore)
  size := by rw [h'.size, h.size, List.length_append, Nat.add_assoc]

theorem map_id (h : Listed tr program stack first last before after shown) :
    shown.map (·.id) = (List.range' (before.size + 1) shown.length).map Nat.cast := by
  apply List.ext_getElem
  · simp
  · intro k hk hk'
    obtain ⟨hid, -⟩ := h.each (List.getElem?_eq_getElem (by simpa using hk))
    simp only [List.getElem_map, List.getElem_range', hid]
    omega

theorem nodup (h : Listed tr program stack first last before after shown) :
    (shown.map (·.id)).Nodup := by
  rw [h.map_id]
  exact HandleTable.nodup_range' _ _

end Listed

namespace Session

variable {σ : Type} {s : Session σ} {program : Program} {stop : StopEvent}
  {past : List (SessionInput σ)}

/-- A session in which the stack of a stopped thread can be read without being overtaken. -/
structure Inspectable (s : Session σ) (program : Program) (stop : StopEvent) : Prop where
  isOpen : s.live.outbox.IsOpen
  phase : s.phase = .configuring ∨ s.phase = .running
  debugged : s.program = some program
  retained : s.live.tables.stops.get? stop.thread = some stop
  undisturbed : stop.stack.overtaken = 0

/-- The requests for some pages of `size` frames each, of which the latest is the first here. -/
inductive Pages (thread : ThreadId) (size : Nat) : Nat → List (SessionInput σ) → Prop where
  | nil : Pages thread size 0 []
  | next {n : Nat} {past : List (SessionInput σ)} {request : Request} {start levels : Int64}
      (earlier : Pages thread size n past)
      (access : request.access? = some (.frames ⟨thread, some start, some levels⟩))
      (starts : start.toInt = n * size) (spans : levels.toInt = size) :
      Pages thread size (n + 1) (.request request :: past)

/-- Listing a part of a stack issues handles and leaves everything else as it is. -/
theorem Inspectable.list (h : s.Inspectable program stop) (engine : Engine σ) {request : Request}
    {a : StackTraceArguments} (haccess : request.access? = some (.frames a))
    (hthread : a.thread = stop.thread) :
    ∃ shown, s.Replies engine request (.body (.stackTrace ⟨shown, some stop.stack.depth⟩)) ∧
      (s.advance engine (.request request)).Inspectable program stop ∧
      (s.advance engine (.request request)).translator = s.translator ∧
      Listed s.translator program stop.stack a.first (a.last stop.stack.depth)
        s.live.tables.frames (s.advance engine (.request request)).live.tables.frames shown := by
  obtain ⟨hcommand, hdecode⟩ := Request.isStackTrace_of_access? haccess
  have hread : readStack s.translator program a readAttempts s.live.tables = _ :=
    readStack_of_retained (hthread ▸ h.retained) h.undisturbed 3
  obtain ⟨record, hreply⟩ :=
    replyTo_stackTrace engine h.phase h.debugged hcommand hdecode hread
  have hprocess := process_of_replyTo hreply h.isOpen
  have hadvance : s.advance engine (.request request) = _ := congrArg Prod.snd hprocess
  refine ⟨_, ⟨_, hreply, hprocess⟩, ?_⟩
  rw [hadvance]
  refine ⟨?_, rfl, ?_⟩
  · exact ⟨h.isOpen.acceptAll _, h.phase, h.debugged, h.retained, h.undisturbed⟩
  · exact .extend s.translator program (a.last_le _) s.live.tables.frames

/-- A page that is asked for starts where the pages before it end. -/
theorem page_first {thread : ThreadId} {n size : Nat} {start levels : Int64}
    (hstart : start.toInt = n * size) :
    (StackTraceArguments.mk thread (some start) (some levels)).first = n * size := by
  change start.toInt.toNat = n * size
  rw [hstart]
  exact Int.toNat_natCast (n * size)

theorem page_last {thread : ThreadId} {n size : Nat} {start levels : Int64} (hsize : 0 < size)
    (hstart : start.toInt = n * size) (hlevels : levels.toInt = size) (depth : Nat) :
    (StackTraceArguments.mk thread (some start) (some levels)).last depth =
      min depth ((n + 1) * size) := by
  have hpositive : 0 < levels.toInt := by omega
  have hcount : levels.toInt.toNat = size := by omega
  simp only [StackTraceArguments.last, if_pos hpositive, page_first hstart, hcount]
  rw [Nat.succ_mul]

/-- After some pages the stack has been listed from its top to the end of the last of them. -/
theorem Inspectable.pages (h : s.Inspectable program stop) (engine : Engine σ) {size n : Nat}
    (hsize : 0 < size) (hpages : Pages stop.thread size n past) :
    (s.after engine past).Inspectable program stop ∧
      (s.after engine past).translator = s.translator ∧
      (∀ moment ∈ s.history engine past, ∃ request memory, moment = .answered request
        (.body (.stackTrace ⟨moment.frames, some stop.stack.depth⟩)) memory) ∧
      Listed s.translator program stop.stack 0 (min stop.stack.depth (n * size))
        s.live.tables.frames (s.after engine past).live.tables.frames
        ((s.history engine past).reverse.flatMap Moment.frames) := by
  induction hpages with
  | nil =>
    refine ⟨h, rfl, nofun, ?_⟩
    rw [Nat.zero_mul, Nat.min_zero]
    exact .empty s.translator program stop.stack 0 s.live.tables.frames
  | @next n past request start levels earlier access starts spans ih =>
    obtain ⟨hthere, htranslator, hanswered, hlisted⟩ := ih
    obtain ⟨shown, ⟨s', hreply, hprocess⟩, hstill, hkept, hpage⟩ := hthere.list engine access rfl
    have hmoments : (s.after engine past).moments engine (.request request) =
        [.answered request (.body (.stackTrace ⟨shown, some stop.stack.depth⟩))
          (engine.memory (s.after engine past).engine)] := by
      have haccess : request.access? ≠ none := by simp [access]
      have hl : (s.after engine past).launches? request = none := launches?_of_access? haccess
      simp only [moments, hreply, launchEvents_of_none hl]
      rfl
    refine ⟨hstill, hkept.trans htranslator, ?_, ?_⟩
    · intro moment hmem
      rw [history, hmoments] at hmem
      rcases List.mem_cons.mp hmem with rfl | hmem
      · exact ⟨_, _, rfl⟩
      · exact hanswered moment hmem
    · rw [htranslator, page_first starts, page_last hsize starts spans] at hpage
      rw [history, hmoments, List.singleton_append, List.reverse_cons, List.flatMap_append,
        List.flatMap_singleton]
      exact hlisted.append hpage (Nat.zero_le _) (Nat.mul_le_mul_right size (Nat.le_succ n))

/-- Of a stack of which a part is asked for exactly that part is shown, each frame under the next
handle, whatever integers are sent: no start or a negative one is the top, no levels or none that
are positive are all. So a stack is shown once, from its top to its end, by pages of any size that
reach its end, and all handles of the pages are valid when the last one has been shown. -/
theorem stack_listed_by_pages (engine : Engine σ) (h : s.Inspectable program stop) :
    (∀ {request : Request} {a : StackTraceArguments},
      request.access? = some (.frames a) → a.thread = stop.thread →
      let s' := s.advance engine (.request request)
      ∃ shown, s.Replies engine request (.body (.stackTrace ⟨shown, some stop.stack.depth⟩)) ∧
        s'.Inspectable program stop ∧
        Listed s.translator program stop.stack a.first (a.last stop.stack.depth)
          s.live.tables.frames s'.live.tables.frames shown) ∧
    ∀ {size n : Nat} {past : List (SessionInput σ)}, 0 < size → Pages stop.thread size n past →
      stop.stack.depth ≤ n * size →
      let history := s.history engine past
      let shown := history.reverse.flatMap Moment.frames
      (∀ moment ∈ history, ∃ request memory, moment = .answered request
        (.body (.stackTrace ⟨moment.frames, some stop.stack.depth⟩)) memory) ∧
      (shown.map (·.id)).Nodup ∧
      Listed s.translator program stop.stack 0 stop.stack.depth s.live.tables.frames
        (s.after engine past).live.tables.frames shown := by
  constructor
  · intro request a haccess hthread s'
    obtain ⟨shown, hreplies, hstill, -, hlisted⟩ := h.list engine haccess hthread
    exact ⟨shown, hreplies, hstill, hlisted⟩
  · intro size n past hsize hpages hreached history shown
    obtain ⟨-, -, hanswered, hlisted⟩ := h.pages engine hsize hpages
    rw [Nat.min_eq_left hreached] at hlisted
    exact ⟨hanswered, hlisted.nodup, hlisted⟩

/-- A stack of three frames is shown by two pages of two, and without its top by one request. -/
theorem stack_listed_by_two_pages :
    let settings : Settings := ⟨none, false, none, ⟨10, 10⟩, 10, 10, none⟩
    let launch : Request := ⟨1, "request", "launch", .obj [("program", .str "main.go")]⟩
    let frame : String → Frame := fun name => ⟨name, none, none, []⟩
    let stop : StopEvent := ⟨.breakpoint, 1, ⟨[frame "g", frame "f", frame "main"], 0⟩⟩
    let s := (new settings (ScriptedState.new .default .empty)).after scriptedEngine
      [.event (.stopped stop), .request launch]
    let part : Int → Int → Request := fun start levels => ⟨2, "request", "stackTrace",
      .obj [("threadId", .num (.int 1)), ("startFrame", .num (.int start)),
        ("levels", .num (.int levels))]⟩
    let past := [.request (part 2 2), .request (part 0 2)]
    let shown := (s.history scriptedEngine past).reverse.flatMap Moment.frames
    (∃ program, s.Inspectable program stop) ∧
      (∃ shown, s.Replies scriptedEngine (part 1 9223372036854775807)
        (.body (.stackTrace ⟨shown, some 3⟩)) ∧ shown.length = 2) ∧
      Pages 1 2 2 past ∧ stop.stack.depth ≤ 2 * 2 ∧
      shown.length = 3 ∧ (shown.map (·.id)).Nodup := by
  intro settings launch frame stop s part past shown
  obtain ⟨program, hprogram⟩ : ∃ program, s.program = some program :=
    Option.isSome_iff_exists.mp (by decide +kernel)
  have hs : s.Inspectable program stop := by
    refine ⟨⟨by decide +kernel, by decide +kernel⟩, by decide +kernel, hprogram, rfl, rfl⟩
  have hfirst : (part 0 2).access? = some (.frames ⟨1, some 0, some 2⟩) := rfl
  have hsecond : (part 2 2).access? = some (.frames ⟨1, some 2, some 2⟩) := rfl
  have hrest : (part 1 9223372036854775807).access? =
      some (.frames ⟨1, some 1, some 9223372036854775807⟩) := rfl
  have hpages : Pages 1 2 2 past := .next (.next .nil hfirst rfl rfl) hsecond rfl rfl
  have hreached : stop.stack.depth ≤ 2 * 2 := by decide
  obtain ⟨hpart, hall⟩ := stack_listed_by_pages scriptedEngine hs
  obtain ⟨rest, hreplies, -, hpartial⟩ := hpart hrest rfl
  obtain ⟨-, hnodup, hlisted⟩ := hall (by decide) hpages hreached
  exact ⟨⟨program, hs⟩, ⟨rest, hreplies, hpartial.length⟩, hpages, hreached, hlisted.length,
    hnodup⟩

end Session

end DebugServer
