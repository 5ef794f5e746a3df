import DebugServer.Proofs.Inspection.Expansion
import DebugServer.Proofs.Session.Retention

/-!
# Safety of handles

A client knows frames, scopes and values by the numbers in the responses to it. Between two stops
no number is issued twice, and whatever else is asked or happens, a number stands for what it was
issued for until the next stop, when all of them become invalid.
-/

namespace DebugServer

/-- The frame that was shown under a handle since the latest stop. -/
inductive FrameShown (id : Int) (frame : Frame) : List Moment → Prop where
  | shown {request : Request} {a : StackTraceArguments} {stop : StopEvent} {reply : Reply}
      {memory : Memory} {past : List Moment} {k : Nat} {entry : StackFrame}
      (access : request.access? = some (.frames a)) (stopped : Unreleased a.thread stop past)
      (found : (stop.stack.window a.first (a.last stop.stack.depth))[k]? = some frame)
      (reported : reply.frames[k]? = some entry) (handle : entry.id = id) :
      FrameShown id frame (.answered request reply memory :: past)
  | since {moment : Moment} {past : List Moment} (earlier : FrameShown id frame past)
      (running : moment.isStop = false) : FrameShown id frame (moment :: past)

/-- The scope that was shown under a reference since the latest stop, which is one of a frame or
that of a value among the children of another scope. -/
inductive ScopeShown (keyBudget : Nat) : Int → Scope → List Moment → Prop where
  | opened {request : Request} {a : ScopesArguments} {frame : Frame} {reply : Reply}
      {memory : Memory} {past : List Moment} {k : Nat} {scope : FrameScope} {entry : ScopeReport}
      {reference : Int} (access : request.access? = some (.scopes a))
      (shown : FrameShown a.frame.toInt frame past) (found : frame.scopes[k]? = some scope)
      (reported : reply.scopes[k]? = some entry) (handle : entry.reference = reference) :
      ScopeShown keyBudget reference (.frame scope) (.answered request reply memory :: past)
  | expanded {request : Request} {a : VariablesArguments} {parent scope : Scope} {reply : Reply}
      {memory : Memory} {past : List Moment} {k : Nat} {child : NamedValue} {entry : VariableReport}
      {reference : Int} (access : request.access? = some (.children a))
      (shown : ScopeShown keyBudget a.reference.toInt parent past)
      (found : (parent.listed memory keyBudget)[k]? = some child)
      (expands : Scope.ofValue? child.value = some scope)
      (reported : reply.children[k]? = some entry) (handle : entry.reference = reference) :
      ScopeShown keyBudget reference scope (.answered request reply memory :: past)
  | since {reference : Int} {scope : Scope} {moment : Moment} {past : List Moment}
      (earlier : ScopeShown keyBudget reference scope past) (running : moment.isStop = false) :
      ScopeShown keyBudget reference scope (moment :: past)

namespace Moment

def frames : Moment → List StackFrame
  | .answered _ reply _ => reply.frames
  | _ => []

def scopes : Moment → List ScopeReport
  | .answered _ reply _ => reply.scopes
  | _ => []

def children : Moment → List VariableReport
  | .answered _ reply _ => reply.children
  | _ => []

/-- The frame handles in a response. -/
def frameIds (moment : Moment) : List Int :=
  moment.frames.map (·.id)

/-- The references in a response; a variable without children has none. -/
def references (moment : Moment) : List Int :=
  moment.scopes.map (·.reference) ++ (moment.children.map (·.reference)).filter (· ≠ 0)

end Moment

/-- The numbers that were issued since the latest stop, in the order in which they were. -/
def issuedSinceStop (issued : Moment → List Int) : List Moment → List Int
  | [] => []
  | moment :: past => if moment.isStop then [] else issuedSinceStop issued past ++ issued moment

/-- What the client is told of a child, in the state that the memory has. -/
def Tells (memory : Memory) (limits : TextLimits) (child : NamedValue) (v : VariableReport) :
    Prop :=
  v.name = child.name ∧ v.value = Value.render memory child.value limits.value ∧
    v.typeName = some child.value.typeName ∧
    (v.reference = 0 ↔ child.value.isNil = true ∨ child.value.isContainer = false)

section

variable {past : List Moment} {moment : Moment} {frame : Frame} {scope : Scope}
  {id reference : Int} {keyBudget : Nat}

theorem frameShown_cons_iff (hrunning : moment.isStop = false) (hframes : moment.frames = []) :
    FrameShown id frame (moment :: past) ↔ FrameShown id frame past := by
  constructor
  · intro h
    cases h with
    | shown _ _ _ reported =>
      simp only [Moment.frames] at hframes
      simp [hframes] at reported
    | since earlier => exact earlier
  · exact fun h => .since h hrunning

theorem scopeShown_cons_iff (hrunning : moment.isStop = false) (hscopes : moment.scopes = [])
    (hchildren : moment.children = []) :
    ScopeShown keyBudget reference scope (moment :: past) ↔
      ScopeShown keyBudget reference scope past := by
  constructor
  · intro h
    cases h with
    | opened _ _ _ reported =>
      simp only [Moment.scopes] at hscopes
      simp [hscopes] at reported
    | expanded _ _ _ _ reported =>
      simp only [Moment.children] at hchildren
      simp [hchildren] at reported
    | since earlier => exact earlier
  · exact fun h => .since h hrunning

/-- A scope that a client knows is one of a frame, or the one that a value gets. -/
theorem ScopeShown.arises (h : ScopeShown keyBudget reference scope past) : scope.Arises := by
  induction h with
  | opened => exact .inl ⟨_, rfl⟩
  | expanded _ _ _ expands => exact .inr ⟨_, expands⟩
  | since _ _ ih => exact ih

theorem issuedSinceStop_cons (issued : Moment → List Int) (hrunning : moment.isStop = false) :
    issuedSinceStop issued (moment :: past) = issuedSinceStop issued past ++ issued moment := by
  simp [issuedSinceStop, hrunning]

/-- A client that is shown frames of a stop knows them from then on. -/
theorem frameShown_listed_iff {request : Request} {a : StackTraceArguments} {stop : StopEvent}
    {t : Translator} {program : Program} {n : Nat} {total : Option Int} {memory : Memory}
    (access : request.access? = some (.frames a))
    (stopped : ∀ other, Unreleased a.thread other past ↔ other = stop) :
    FrameShown id frame (.answered request (.body (.stackTrace
        ⟨t.stackFrames program (n + 1) (stop.framesFor a), total⟩)) memory :: past) ↔
      FrameShown id frame past ∨
        ∃ k : Nat, id = n + k + 1 ∧ (stop.framesFor a)[k]? = some frame := by
  constructor
  · intro h
    cases h with
    | @shown _ a' stop' _ _ _ k entry access' stopped' found reported handle =>
      rw [access] at access'
      cases access'
      rw [(stopped stop').mp stopped', ← StopEvent.framesFor] at found
      have hentry : (t.stackFrames program (n + 1) (stop.framesFor a))[k]? = some entry := reported
      rw [Translator.getElem?_stackFrames, found, Option.map_some, Option.some.injEq] at hentry
      refine Or.inr ⟨k, ?_, found⟩
      rw [← handle, ← hentry, Translator.stackFrame_id]
      omega
    | since earlier => exact Or.inl earlier
  · rintro (h | ⟨k, rfl, found⟩)
    · exact .since h rfl
    · have hentry := t.getElem?_stackFrames program (n + 1) (stop.framesFor a) k
      rw [found, Option.map_some] at hentry
      refine .shown access ((stopped stop).mpr rfl) found hentry ?_
      rw [Translator.stackFrame_id]
      omega

/-- A client that is shown the scopes of a frame knows them from then on. -/
theorem scopeShown_opened_iff {request : Request} {a : ScopesArguments} {n : Nat} {memory : Memory}
    (access : request.access? = some (.scopes a))
    (shown : ∀ other, FrameShown a.frame.toInt other past ↔ other = frame) :
    ScopeShown keyBudget reference scope (.answered request
        (.body (.scopes ⟨scopeReports (n + 1) frame.scopes⟩)) memory :: past) ↔
      ScopeShown keyBudget reference scope past ∨
        ∃ k : Nat, reference = n + k + 1 ∧ (frame.scopes.map Scope.frame)[k]? = some scope := by
  constructor
  · intro h
    cases h with
    | @opened _ _ frame' _ _ _ k own entry _ access' shown' found reported handle =>
      rw [access] at access'
      cases access'
      rw [(shown frame').mp shown'] at found
      have hentry : (scopeReports (n + 1) frame.scopes)[k]? = some entry := reported
      rw [getElem?_scopeReports, found, Option.map_some, Option.some.injEq] at hentry
      refine Or.inr ⟨k, ?_, by rw [List.getElem?_map, found, Option.map_some]⟩
      rw [← handle, ← hentry]
      simp only
      omega
    | expanded _ _ _ _ reported => cases reported
    | since earlier => exact Or.inl earlier
  · rintro (h | ⟨k, rfl, found⟩)
    · exact .since h rfl
    · rw [List.getElem?_map, Option.map_eq_some_iff] at found
      obtain ⟨own, found, rfl⟩ := found
      have hentry := getElem?_scopeReports (n + 1) frame.scopes k
      rw [found, Option.map_some] at hentry
      refine .opened access ((shown frame).mpr rfl) found hentry ?_
      simp only
      omega

/-- A client that is shown the children of a scope knows theirs from then on. -/
theorem scopeShown_expanded_iff {request : Request} {a : VariablesArguments} {parent : Scope}
    {n valueBudget : Nat} {memory : Memory} (access : request.access? = some (.children a))
    (shown : ∀ other, ScopeShown keyBudget a.reference.toInt other past ↔ other = parent) :
    ScopeShown keyBudget reference scope (.answered request (.body (.variableList
        ⟨(VariableTable.shown memory valueBudget (n + 1) (parent.children memory keyBudget)).map
          Session.report⟩)) memory :: past) ↔
      ScopeShown keyBudget reference scope past ∨ ∃ k : Nat, reference = n + k + 1 ∧
        (VariableTable.scopesOf (parent.children memory keyBudget))[k]? = some scope := by
  have hlisted : parent.children memory keyBudget = parent.listed memory keyBudget :=
    ((shown parent).mpr rfl).arises.children_eq memory keyBudget
  rw [hlisted]
  constructor
  · intro h
    cases h with
    | opened _ _ _ reported => cases reported
    | @expanded _ _ parent' _ _ _ _ k child entry _ access' shown' found expands reported handle =>
      rw [access] at access'
      cases access'
      rw [(shown parent').mp shown'] at found
      have hentry : ((VariableTable.shown memory valueBudget (n + 1)
        (parent.listed memory keyBudget)).map Session.report)[k]? = some entry := reported
      rw [List.getElem?_map, Option.map_eq_some_iff] at hentry
      obtain ⟨v, hv, rfl⟩ := hentry
      obtain ⟨j, hj, hscope⟩ := (VariableTable.reference_shown_iff memory valueBudget (n + 1)
        v.reference _ scope).mp ⟨k, v, child, hv, found, expands, rfl⟩
      refine Or.inr ⟨j, ?_, hscope⟩
      rw [← handle]
      simp only [Session.report, hj]
      omega
    | since earlier => exact Or.inl earlier
  · rintro (h | ⟨j, rfl, hscope⟩)
    · exact .since h rfl
    · obtain ⟨k, v, child, hv, found, expands, hr⟩ := (VariableTable.reference_shown_iff memory
        valueBudget (n + 1) (n + 1 + j) _ scope).mpr ⟨j, rfl, hscope⟩
      have hentry : ((VariableTable.shown memory valueBudget (n + 1)
          (parent.listed memory keyBudget)).map Session.report)[k]? =
            some (Session.report v) := by
        rw [List.getElem?_map, hv, Option.map_some]
      refine .expanded access ((shown parent).mpr rfl) found expands hentry ?_
      simp only [Session.report, hr]
      omega

theorem map_reference_scopeReports (first : Nat) (scopes : List FrameScope) :
    (scopeReports first scopes).map (·.reference) =
      (List.range' first scopes.length).map Nat.cast := by
  induction scopes generalizing first with
  | nil => rfl
  | cons scope rest ih =>
    rw [scopeReports_cons, List.map_cons, ih, List.length_cons, List.range'_succ, List.map_cons]

theorem references_report (m : Memory) (budget n : Nat) (children : List NamedValue) :
    (((VariableTable.shown m budget (n + 1) children).map Session.report).map
        (·.reference)).filter (· ≠ 0) =
      (List.range' (n + 1) (VariableTable.scopesOf children).length).map Nat.cast := by
  have hcast : ((VariableTable.shown m budget (n + 1) children).map Session.report).map
      (·.reference) =
        ((VariableTable.shown m budget (n + 1) children).map (·.reference)).map Nat.cast := by
    rw [List.map_map, List.map_map]
    rfl
  have hzero : (fun r : Int => decide (r ≠ 0)) ∘ Nat.cast = fun r : Nat => decide (r ≠ 0) := by
    funext r
    simp
  rw [hcast, List.filter_map, hzero, VariableTable.references_shown m budget _ children (by omega)]

/-- A reply that is about what stands under a handle succeeds exactly if the handle was issued, and
it is about what was shown under it. -/
theorem HandleTable.IsKnown.answered {α : Type} {t : HandleTable α} {shown : Int → α → Prop}
    {issued : List Int} (h : t.IsKnown shown issued) {reply : Reply} {About : α → Prop}
    (hreply : (∃ refusal, t.get? id = none ∧ reply = .refuse refusal) ∨
      ∃ a, t.get? id = some a ∧ reply.succeeded ∧ About a) :
    (reply.succeeded ↔ id ∈ issued) ∧ ∀ a, shown id a → About a := by
  rw [← h.isSome_iff]
  rcases hreply with ⟨refusal, hnone, rfl⟩ | ⟨a, hfound, hsucceeded, habout⟩
  · rw [hnone]
    refine ⟨Iff.rfl, ?_⟩
    intro a hshown
    rw [h.get?_iff.mpr hshown] at hnone
    cases hnone
  · rw [hfound]
    refine ⟨iff_of_true hsucceeded rfl, ?_⟩
    intro b hshown
    rw [(h.shown_iff hfound b).mp hshown]
    exact habout

end

namespace Session

variable {σ : Type} {engine : Engine σ} {s : Session σ} {past : List (SessionInput σ)}

/-- The handles in the tables are those that the client was told of since the latest stop. -/
structure HandlesKnown (tables : Tables) (keyBudget : Nat) (history : List Moment) : Prop where
  frames : tables.frames.IsKnown (FrameShown · · history)
    (issuedSinceStop Moment.frameIds history)
  values : tables.values.scopes.IsKnown (ScopeShown keyBudget · · history)
    (issuedSinceStop Moment.references history)

theorem HandlesKnown.frames_cons {tables : Tables} {keyBudget : Nat} {history : List Moment}
    {moment : Moment} (h : HandlesKnown tables keyBudget history)
    (hrunning : moment.isStop = false) (hframes : moment.frames = []) :
    tables.frames.IsKnown (FrameShown · · (moment :: history))
      (issuedSinceStop Moment.frameIds (moment :: history)) :=
  h.frames.congr (frameShown_cons_iff hrunning hframes) (by
    rw [issuedSinceStop_cons _ hrunning, Moment.frameIds, hframes, List.map_nil, List.append_nil])

theorem HandlesKnown.values_cons {tables : Tables} {keyBudget : Nat} {history : List Moment}
    {moment : Moment} (h : HandlesKnown tables keyBudget history)
    (hrunning : moment.isStop = false) (hscopes : moment.scopes = [])
    (hchildren : moment.children = []) :
    tables.values.scopes.IsKnown (ScopeShown keyBudget · · (moment :: history))
      (issuedSinceStop Moment.references (moment :: history)) :=
  h.values.congr (scopeShown_cons_iff hrunning hscopes hchildren) (by
    rw [issuedSinceStop_cons _ hrunning, Moment.references, hscopes, hchildren]
    simp)

theorem HandlesKnown.answered {history : List Moment} {request : Request} {reply : Reply}
    {tables : Tables} (h : HandlesKnown s.live.tables s.live.tables.values.limits.key history)
    (hretains : Retains s.live.tables history)
    (haccesses : Accesses engine s request reply tables) :
    HandlesKnown tables s.live.tables.values.limits.key
      (.answered request reply (engine.memory s.engine) :: history) := by
  cases haccesses with
  | released access bare => exact ⟨h.frames_cons rfl bare.1, h.values_cons rfl bare.2.1 bare.2.2⟩
  | other access bare => exact ⟨h.frames_cons rfl bare.1, h.values_cons rfl bare.2.1 bare.2.2⟩
  | missed => exact ⟨h.frames_cons rfl rfl, h.values_cons rfl rfl rfl⟩
  | @listed a stop program access retained debugged =>
    refine ⟨h.frames.extend ?_ ?_, h.values_cons rfl rfl rfl⟩
    · intro id frame
      apply frameShown_listed_iff access
      intro other
      rw [← hretains, retained, Option.some.injEq, eq_comm]
    · rw [issuedSinceStop_cons _ rfl, Moment.frameIds]
      exact congrArg _ (Translator.map_id_stackFrames _ _ _ _)
  | @opened a frame access found =>
    refine ⟨h.frames_cons rfl rfl, h.values.extend ?_ ?_⟩
    · intro reference scope
      exact scopeShown_opened_iff access (h.frames.shown_iff found)
    · rw [issuedSinceStop_cons _ rfl, Moment.references]
      have hrefs := map_reference_scopeReports (s.live.tables.values.scopes.size + 1) frame.scopes
      rw [List.length_map]
      simp only [Moment.scopes, Moment.children, Reply.scopes, Reply.children, Reply.body, hrefs,
        List.map_nil, List.filter_nil, List.append_nil]
  | @expanded a scope children access found read =>
    subst read
    refine ⟨h.frames_cons rfl rfl, h.values.extend ?_ ?_⟩
    · intro reference shown
      exact scopeShown_expanded_iff access (h.values.shown_iff found)
    · rw [issuedSinceStop_cons _ rfl, Moment.references]
      exact congrArg _ (references_report _ _ _ _)

theorem HandlesKnown.handled {history : List Moment} {tables : Tables} {keyBudget : Nat}
    {event : EngineEvent} (h : HandlesKnown tables keyBudget history)
    (hunended : event.isLast = false) :
    HandlesKnown (tables.after event) keyBudget (.handled event :: history) := by
  cases event with
  | threadStarted | threadExited => exact ⟨h.frames_cons rfl rfl, h.values_cons rfl rfl rfl⟩
  | terminated => cases hunended
  | stopped stop =>
    constructor
    · apply HandleTable.isKnown_of_empty rfl
      rintro id frame (_ | ⟨_, hrunning⟩)
      cases hrunning
    · apply HandleTable.isKnown_of_empty rfl
      rintro reference scope (_ | _ | ⟨_, hrunning⟩)
      cases hrunning

theorem empty_handlesKnown (limits : TextLimits) (keyBudget : Nat) :
    HandlesKnown (.empty limits) keyBudget [] := by
  constructor
  · apply HandleTable.isKnown_of_empty rfl
    rintro id frame ⟨⟩
  · apply HandleTable.isKnown_of_empty rfl
    rintro reference scope ⟨⟩

/-- The invariants of the stops and of the handles go together, since frames are shown of stops. -/
theorem after_handlesKnown (settings : Settings) (state : σ)
    (hpast : ∀ moment ∈ (new settings state).history engine past, moment.Undisturbed)
    (hlive : ((new settings state).after engine past).phase ≠ .terminated) :
    HandlesKnown ((new settings state).after engine past).live.tables
      ((new settings state).after engine past).settings.limits.key
      ((new settings state).history engine past) := by
  rw [settings_after]
  refine (after_induction (P := fun tables history => Retains tables history ∧
    HandlesKnown tables settings.limits.key history) ?_ ?_ rfl
    ⟨empty_retains _, empty_handlesKnown _ _⟩ hpast hlive).2
  · rintro s request reply tables history hlimits haccesses ⟨hretains, hknown⟩
    rw [← hlimits] at hknown ⊢
    exact ⟨hretains.answered haccesses, hknown.answered hretains haccesses⟩
  · rintro tables history event hunended ⟨hretains, hknown⟩
    exact ⟨hretains.handled hunended, hknown.handled hunended⟩

theorem scopes_replies (engine : Engine σ) (hs : s.Consistent) (h : s.Readable)
    (hlive : s.phase ≠ .terminated) {request : Request} {a : ScopesArguments}
    (ha : request.access? = some (.scopes a)) :
    ∃ reply, s.Replies engine request reply ∧
      ((∃ refusal, s.live.tables.frames.get? a.frame.toInt = none ∧ reply = .refuse refusal) ∨
        ∃ frame, s.live.tables.frames.get? a.frame.toInt = some frame ∧ reply.succeeded ∧
          ∃ first, reply = .body (.scopes ⟨scopeReports first frame.scopes⟩)) := by
  have haccess : request.access? ≠ none := by simp [ha]
  obtain ⟨reply, tables, hreplies, haccesses⟩ := replies_accesses engine hs h hlive haccess
  refine ⟨reply, hreplies, ?_⟩
  cases haccesses with
  | released access | listed access | expanded access | other access => simp [ha] at access
  | missed wanted lacks =>
    rw [ha] at wanted
    cases wanted
    exact Or.inl ⟨_, lacks, rfl⟩
  | opened access found =>
    rw [ha] at access
    cases access
    exact Or.inr ⟨_, found, rfl, _, rfl⟩

theorem variables_replies (engine : Engine σ) (hs : s.Consistent) (h : s.Readable)
    (hlive : s.phase ≠ .terminated) {request : Request} {a : VariablesArguments}
    (ha : request.access? = some (.children a)) :
    ∃ reply, s.Replies engine request reply ∧
      ((∃ refusal, s.live.tables.values.scopes.get? a.reference.toInt = none ∧
          reply = .refuse refusal) ∨
        ∃ scope, s.live.tables.values.scopes.get? a.reference.toInt = some scope ∧
          reply.succeeded ∧ ∃ reports, reply = .body (.variableList ⟨reports⟩) ∧
          (scope.Arises → List.Forall₂ (Tells (engine.memory s.engine) s.settings.limits)
            (scope.listed (engine.memory s.engine) s.settings.limits.key) reports)) := by
  have haccess : request.access? ≠ none := by simp [ha]
  obtain ⟨reply, tables, hreplies, haccesses⟩ := replies_accesses engine hs h hlive haccess
  refine ⟨reply, hreplies, ?_⟩
  cases haccesses with
  | released access | listed access | opened access | other access => simp [ha] at access
  | missed wanted lacks =>
    rw [ha] at wanted
    cases wanted
    exact Or.inl ⟨_, lacks, rfl⟩
  | @expanded _ scope children access found read =>
    rw [ha] at access
    cases access
    refine Or.inr ⟨scope, found, rfl, _, rfl, fun harises => ?_⟩
    rw [← h.limits, ← harises.children_eq, read, List.forall₂_map_right_iff]
    apply (VariableTable.shown_forall₂ _ _ _ children (by omega)).imp
    rintro child v ⟨hname, hvalue, htype, hreference⟩
    rw [Scope.ofValue?_eq_none_iff] at hreference
    exact ⟨hname, hvalue, congrArg some htype, by simpa [report] using hreference⟩

/-- What a client can rely on when it asks about frames and references. -/
structure SafeHandles (engine : Engine σ) (s : Session σ) (history : List Moment) : Prop where
  /-- A frame is found exactly if its handle was issued since the latest stop, and its own scopes
  are shown. -/
  frame_found : ∀ {request : Request} {a : ScopesArguments}, request.access? = some (.scopes a) →
    ∃ reply, s.Replies engine request reply ∧
      (reply.succeeded ↔ a.frame.toInt ∈ issuedSinceStop Moment.frameIds history) ∧
      ∀ frame, FrameShown a.frame.toInt frame history →
        ∃ first, reply = .body (.scopes ⟨scopeReports first frame.scopes⟩)
  /-- A reference is found exactly if it is not zero and was issued since the latest stop, and the
  children are shown that its own scope has by now. -/
  reference_found : ∀ {request : Request} {a : VariablesArguments},
    request.access? = some (.children a) →
    ∃ reply, s.Replies engine request reply ∧
      (reply.succeeded ↔ a.reference.toInt ≠ 0 ∧
        a.reference.toInt ∈ issuedSinceStop Moment.references history) ∧
      ∀ scope, ScopeShown s.settings.limits.key a.reference.toInt scope history →
        ∃ reports, reply = .body (.variableList ⟨reports⟩) ∧
          List.Forall₂ (Tells (engine.memory s.engine) s.settings.limits)
            (scope.listed (engine.memory s.engine) s.settings.limits.key) reports
  frame_unique : ∀ id ∈ issuedSinceStop Moment.frameIds history,
    ∃! frame, FrameShown id frame history
  scope_unique : ∀ reference ∈ issuedSinceStop Moment.references history,
    ∃! scope, ScopeShown s.settings.limits.key reference scope history
  frameIds_nodup : (issuedSinceStop Moment.frameIds history).Nodup
  references_nodup : (issuedSinceStop Moment.references history).Nodup

/-- Handles are safe at every time while a session is not over, whatever happened before. -/
theorem handles_safe (engine : Engine σ) (settings : Settings) (state : σ)
    (past : List (SessionInput σ))
    (hpast : ∀ moment ∈ (new settings state).history engine past, moment.Undisturbed)
    (hlive : ((new settings state).after engine past).phase ≠ .terminated) :
    SafeHandles engine ((new settings state).after engine past)
      ((new settings state).history engine past) := by
  have hs := after_consistent engine settings state past
  have hreadable := after_readable settings state hpast hlive
  have hknown := after_handlesKnown settings state hpast hlive
  refine ⟨fun ha => ?_, fun ha => ?_, fun _ => hknown.frames.existsUnique,
    fun _ => hknown.values.existsUnique, hknown.frames.nodup, hknown.values.nodup⟩
  · obtain ⟨reply, hreplies, hcases⟩ := scopes_replies engine hs hreadable hlive ha
    exact ⟨reply, hreplies, hknown.frames.answered hcases⟩
  · obtain ⟨reply, hreplies, hcases⟩ := variables_replies engine hs hreadable hlive ha
    obtain ⟨hiff, htold⟩ := hknown.values.answered hcases
    refine ⟨reply, hreplies, ?_, fun scope hshown => ?_⟩
    · rw [hiff]
      constructor
      · intro hissued
        exact ⟨hknown.values.ne_zero hissued, hissued⟩
      · rintro ⟨-, hissued⟩
        exact hissued
    · obtain ⟨reports, hreply, htells⟩ := htold scope hshown
      exact ⟨reports, hreply, htells hshown.arises⟩

/-- The first frame of a stop is known under the first handle. -/
theorem handles_safe_first_frame :
    let settings : Settings := ⟨none, false, none, ⟨10, 10⟩, 10, 10, none⟩
    let state := ScriptedState.new .default .empty
    let launch : Request := ⟨1, "request", "launch", .obj [("program", .str "main.go")]⟩
    let stop : StopEvent := ⟨.breakpoint, 1, ⟨[⟨"main", none, none, [⟨false, []⟩]⟩], 0⟩⟩
    let inspect : Request := ⟨2, "request", "stackTrace", .obj [("threadId", .num (.int 1))]⟩
    let scopes : Request := ⟨3, "request", "scopes", .obj [("frameId", .num (.int 1))]⟩
    let past := [.request inspect, .event (.stopped stop), .request launch]
    let s := (new settings state).after scriptedEngine past
    (∀ moment ∈ (new settings state).history scriptedEngine past, moment.Undisturbed) ∧
      s.phase ≠ .terminated ∧
      ∃ reply, s.Replies scriptedEngine scopes reply ∧ reply.succeeded := by
  intro settings state launch stop inspect scopes past s
  have hpast : ∀ moment ∈ (new settings state).history scriptedEngine past,
      moment.Undisturbed := by decide +kernel
  have hlive : s.phase ≠ .terminated := by decide +kernel
  have haccess : scopes.access? = some (.scopes ⟨1⟩) := rfl
  have hissued : issuedSinceStop Moment.frameIds
      ((new settings state).history scriptedEngine past) = [1] := rfl
  obtain ⟨reply, hreplies, hiff, -⟩ :=
    (handles_safe scriptedEngine settings state past hpast hlive).frame_found haccess
  rw [hissued] at hiff
  exact ⟨hpast, hlive, reply, hreplies, hiff.mpr List.mem_cons_self⟩

end Session

end DebugServer
