import DebugServer.Proofs.Inspection.Tables
import DebugServer.Proofs.Session.History

/-!
# Access to the tables

What each request does to the tables of a session that is not over, all cases in one place. Five
commands release the stop of a thread. Three look something up, and if they find it they issue a
handle for each thing that they show. Everything else leaves the tables alone.
-/

namespace DebugServer

/-- What a request wants of the tables. -/
inductive TableAccess where
  | release (thread : ThreadId)
  | frames (a : StackTraceArguments)
  | scopes (a : ScopesArguments)
  | children (a : VariablesArguments)

namespace Request

/-- A request whose arguments cannot be decoded wants nothing. -/
def access? (request : Request) : Option TableAccess :=
  match Command.ofName? request.command with
  | some .resume | some .stepIn | some .next | some .stepOut | some .pause =>
    (request.decodeArguments ThreadArguments.format).toOption.map (.release ·.thread)
  | some .stackTrace =>
    (request.decodeArguments StackTraceArguments.format).toOption.map .frames
  | some .scopes => (request.decodeArguments ScopesArguments.format).toOption.map .scopes
  | some .listVariables =>
    (request.decodeArguments VariablesArguments.format).toOption.map .children
  | _ => none

end Request

namespace Reply

def frames (r : Reply) : List StackFrame :=
  match r.result with
  | .ok (some (.stackTrace body)) => body.frames
  | _ => []

def scopes (r : Reply) : List ScopeReport :=
  match r.result with
  | .ok (some (.scopes body)) => body.scopes
  | _ => []

def children (r : Reply) : List VariableReport :=
  match r.result with
  | .ok (some (.variableList body)) => body.reports
  | _ => []

/-- A reply that shows nothing under a handle. -/
def IsBare (r : Reply) : Prop :=
  r.frames = [] ∧ r.scopes = [] ∧ r.children = []

theorem refuse_isBare (refusal : Refusal) : (refuse refusal).IsBare :=
  ⟨rfl, rfl, rfl⟩

theorem done_isBare : done.IsBare :=
  ⟨rfl, rfl, rfl⟩

end Reply

/-- Frames as they are shown under handles from `first` on. -/
def Translator.stackFrames (t : Translator) (program : Program) (first : Nat)
    (frames : List Frame) : List StackFrame :=
  frames.mapIdx fun k frame => t.stackFrame (first + k : Nat) frame program

/-- Scopes as they are shown under references from `first` on. -/
def scopeReports (first : Nat) (scopes : List FrameScope) : List ScopeReport :=
  scopes.mapIdx fun k scope =>
    ⟨if scope.closure then "Closure" else "Locals", some "locals", (first + k : Nat), false⟩

theorem Translator.stackFrames_cons (t : Translator) (program : Program) (first : Nat)
    (frame : Frame) (rest : List Frame) :
    t.stackFrames program first (frame :: rest) =
      t.stackFrame first frame program :: t.stackFrames program (first + 1) rest := by
  simp only [stackFrames, List.mapIdx_cons, Nat.add_zero, Nat.add_right_comm first, Nat.add_assoc]

theorem scopeReports_cons (first : Nat) (scope : FrameScope) (rest : List FrameScope) :
    scopeReports first (scope :: rest) =
      ⟨if scope.closure then "Closure" else "Locals", some "locals", first, false⟩ ::
        scopeReports (first + 1) rest := by
  simp only [scopeReports, List.mapIdx_cons, Nat.add_zero, Nat.add_right_comm first, Nat.add_assoc]

theorem Translator.getElem?_stackFrames (t : Translator) (program : Program) (first : Nat)
    (frames : List Frame) (k : Nat) :
    (t.stackFrames program first frames)[k]? =
      frames[k]?.map fun frame => t.stackFrame (first + k : Nat) frame program :=
  List.getElem?_mapIdx

theorem getElem?_scopeReports (first : Nat) (scopes : List FrameScope) (k : Nat) :
    (scopeReports first scopes)[k]? = scopes[k]?.map fun scope =>
      ⟨if scope.closure then "Closure" else "Locals", some "locals", (first + k : Nat), false⟩ :=
  List.getElem?_mapIdx

@[simp] theorem Translator.stackFrame_id (t : Translator) (id : Int) (frame : Frame)
    (program : Program) : (t.stackFrame id frame program).id = id := by
  unfold stackFrame
  split <;> rfl

theorem Translator.map_id_stackFrames (t : Translator) (program : Program) (first : Nat)
    (frames : List Frame) :
    (t.stackFrames program first frames).map (·.id) =
      (List.range' first frames.length).map Nat.cast := by
  induction frames generalizing first with
  | nil => rfl
  | cons frame rest ih =>
    rw [stackFrames_cons, List.map_cons, stackFrame_id, ih, List.length_cons, List.range'_succ,
      List.map_cons]

namespace StackTraceArguments

/-- The position of the first frame that is asked for. -/
def first (a : StackTraceArguments) : Nat :=
  match a.startFrame with
  | some start => start.toInt.toNat
  | none => 0

/-- The position up to which the frames of a stack are asked for. -/
def last (a : StackTraceArguments) (depth : Nat) : Nat :=
  match a.levels with
  | some levels => if 0 < levels.toInt then min depth (a.first + levels.toInt.toNat) else depth
  | none => depth

theorem last_le (a : StackTraceArguments) (depth : Nat) : a.last depth ≤ depth := by
  unfold last
  split
  · split
    · exact Nat.min_le_left _ _
    · exact Nat.le_refl _
  · exact Nat.le_refl _

end StackTraceArguments

/-- Positions behind the stack are all the same. -/
theorem FrameStack.window_min_depth (stack : FrameStack) (first last : Nat) :
    stack.window first (min stack.depth last) = stack.window first last := by
  rw [window, window, depth, List.take_eq_take_min (i := last), Nat.min_comm]

/-- The frames of a stop that a client asks for. -/
def StopEvent.framesFor (stop : StopEvent) (a : StackTraceArguments) : List Frame :=
  stop.stack.window a.first (a.last stop.stack.depth)

theorem StopEvent.window_frameWindow (stop : StopEvent) (a : StackTraceArguments) :
    stop.stack.window (Session.frameWindow a stop.stack.depth).1
      (Session.frameWindow a stop.stack.depth).2 = stop.framesFor a := by
  have hstart : (a.startFrame.getD 0).toInt.toNat = a.first := by
    cases hs : a.startFrame with
    | none => simp [StackTraceArguments.first, hs]
    | some start => simp [StackTraceArguments.first, hs]
  simp only [framesFor, Session.frameWindow, hstart, StackTraceArguments.last]
  cases a.levels with
  | none => rfl
  | some levels =>
    by_cases hlevels : 0 < levels.toInt
    · have hsome : 0 < levels.toInt.toNat := by omega
      simp only [Option.getD_some, if_pos hlevels, if_pos hsome, FrameStack.window_min_depth]
    · have hnone : ¬ 0 < levels.toInt.toNat := by omega
      simp only [Option.getD_some, if_neg hlevels, if_neg hnone]

/-- Whether something is looked up that is not there. -/
def Tables.Lacks (t : Tables) : TableAccess → Prop
  | .release _ => False
  | .frames a => t.stops.get? a.thread = none
  | .scopes a => t.frames.get? a.frame.toInt = none
  | .children a => t.values.scopes.get? a.reference.toInt = none

/-- The tables after issuing handles for frames. -/
def Tables.withFrames (t : Tables) (frames : List Frame) : Tables :=
  { t with frames := t.frames.extend frames }

/-- The tables after issuing references for scopes. -/
def Tables.withScopes (t : Tables) (scopes : List Scope) : Tables :=
  { t with values := { t.values with scopes := t.values.scopes.extend scopes } }

namespace Session

variable {σ : Type} {engine : Engine σ} {s s' : Session σ} {request : Request} {reply : Reply}

/-- What a request finds in the tables and what they are afterwards. -/
inductive Accesses (engine : Engine σ) (s : Session σ) (request : Request) :
    Reply → Tables → Prop where
  | released {thread : ThreadId} {reply : Reply}
      (access : request.access? = some (.release thread)) (bare : reply.IsBare) :
      Accesses engine s request reply (s.live.tables.release thread)
  | listed {a : StackTraceArguments} {stop : StopEvent} {program : Program}
      (access : request.access? = some (.frames a))
      (retained : s.live.tables.stops.get? a.thread = some stop)
      (debugged : s.program = some program) :
      Accesses engine s request
        (.body (.stackTrace ⟨s.translator.stackFrames program (s.live.tables.frames.size + 1)
          (stop.framesFor a), some stop.stack.depth⟩))
        (s.live.tables.withFrames (stop.framesFor a))
  | opened {a : ScopesArguments} {frame : Frame} (access : request.access? = some (.scopes a))
      (found : s.live.tables.frames.get? a.frame.toInt = some frame) :
      Accesses engine s request
        (.body (.scopes ⟨scopeReports (s.live.tables.values.scopes.size + 1) frame.scopes⟩))
        (s.live.tables.withScopes (frame.scopes.map .frame))
  | expanded {a : VariablesArguments} {scope : Scope} {children : List NamedValue}
      (access : request.access? = some (.children a))
      (found : s.live.tables.values.scopes.get? a.reference.toInt = some scope)
      (read : scope.children (engine.memory s.engine) s.live.tables.values.limits.key = children) :
      Accesses engine s request
        (.body (.variableList ⟨(VariableTable.shown (engine.memory s.engine)
          s.live.tables.values.limits.value (s.live.tables.values.scopes.size + 1) children).map
            report⟩))
        (s.live.tables.withScopes (VariableTable.scopesOf children))
  | missed {access : TableAccess} {refusal : Refusal} (wanted : request.access? = some access)
      (lacks : s.live.tables.Lacks access) :
      Accesses engine s request (.refuse refusal) s.live.tables
  | other {reply : Reply} (access : request.access? = none) (bare : reply.IsBare) :
      Accesses engine s request reply s.live.tables

theorem issueFrames_epoch (t : Translator) (program : Program) (frames : List Frame)
    (tables : Tables) :
    issueFrames t program tables.frames.epoch frames tables =
      (some (t.stackFrames program (tables.frames.size + 1) frames), tables.withFrames frames) := by
  induction frames generalizing tables with
  | nil => simp [issueFrames, Translator.stackFrames, Tables.withFrames]
  | cons frame rest ih =>
    have hrest := ih { tables with frames := tables.frames.extend [frame] }
    simp only [HandleTable.epoch_extend] at hrest
    simp only [issueFrames, HandleTable.addIn_epoch, hrest, Tables.withFrames,
      HandleTable.extend_extend, HandleTable.size_extend, Translator.stackFrames_cons]
    simp

theorem readStack_of_retained {t : Translator} {program : Program} {a : StackTraceArguments}
    {tables : Tables} {stop : StopEvent} (h : tables.stops.get? a.thread = some stop)
    (hread : stop.stack.overtaken = 0) (attempts : Nat) :
    readStack t program a (attempts + 1) tables =
      (some ⟨t.stackFrames program (tables.frames.size + 1) (stop.framesFor a),
        some stop.stack.depth⟩, tables.withFrames (stop.framesFor a)) := by
  simp only [readStack, Tables.retained?, h, Option.map_some, Tables.readFrames_undisturbed hread,
    StopEvent.window_frameWindow, issueFrames_epoch]

theorem issueScopes_epoch (scopes : List FrameScope) (table : VariableTable) :
    issueScopes table.epoch scopes table =
      (some (scopeReports (table.scopes.size + 1) scopes),
        { table with scopes := table.scopes.extend (scopes.map .frame) }) := by
  induction scopes generalizing table with
  | nil => simp [issueScopes, scopeReports]
  | cons scope rest ih =>
    have hrest := ih { table with scopes := table.scopes.extend [.frame scope] }
    have hepoch : ({ table with scopes := table.scopes.extend [.frame scope] } :
      VariableTable).epoch = table.epoch := rfl
    rw [hepoch] at hrest
    simp only [issueScopes, VariableTable.addIn_epoch, hrest, HandleTable.extend_extend,
      HandleTable.size_extend, scopeReports_cons]
    simp

/-- The tables of a session whose stacks are read without disturbance, and of one that is not
launched yet. -/
structure Readable (s : Session σ) : Prop where
  untouched : s.reached = .uninitialized → s.live.tables = .empty s.settings.limits
  undisturbed : ∀ {thread stop}, s.live.tables.stops.get? thread = some stop →
    stop.stack.overtaken = 0
  limits : s.live.tables.values.limits = s.settings.limits

theorem stackTrace_accesses {a : StackTraceArguments} (h : s.Readable) (hp : s.program ≠ none)
    (ha : request.access? = some (.frames a)) :
    Accesses engine s request (s.stackTrace a).1 (s.stackTrace a).2.live.tables := by
  obtain ⟨program, hprogram⟩ := Option.ne_none_iff_exists'.mp hp
  simp only [stackTrace, hprogram, withTables]
  cases hstop : s.live.tables.stops.get? a.thread with
  | none =>
    simp only [readAttempts, readStack, Tables.retained?, hstop, Option.map_none]
    exact .missed ha hstop
  | some stop =>
    rw [readAttempts, readStack_of_retained hstop (h.undisturbed hstop)]
    exact .listed ha hstop hprogram

theorem scopes_accesses {a : ScopesArguments} (ha : request.access? = some (.scopes a)) :
    Accesses engine s request (s.scopes a).1 (s.scopes a).2.live.tables := by
  simp only [scopes]
  split
  · rename_i hframe
    exact .missed ha hframe
  · rename_i frame hframe
    rw [issueScopes_epoch]
    exact .opened ha hframe

theorem listVariables_accesses {a : VariablesArguments}
    (ha : request.access? = some (.children a)) :
    Accesses engine s request (s.listVariables engine a).1
      (s.listVariables engine a).2.live.tables := by
  simp only [listVariables, VariableTable.expand, HandleTable.lookup]
  cases hscope : s.live.tables.values.scopes.get? a.reference.toInt with
  | none => exact .missed ha hscope
  | some scope =>
    have hshown := VariableTable.variablesIn_epoch (engine.memory s.engine)
      (scope.children (engine.memory s.engine) s.live.tables.values.limits.key) s.live.tables.values
    simp only [VariableTable.epoch] at hshown
    simp only [Option.map_some, hshown]
    exact .expanded ha hscope rfl

theorem resume_accesses {a : ThreadArguments} (hp : s.program ≠ none)
    (ha : request.access? = some (.release a.thread)) :
    Accesses engine s request (s.resume engine a).1 (s.resume engine a).2.live.tables := by
  simp only [resume, Option.isNone_iff_eq_none, hp, if_false]
  refine .released ha ?_
  split <;> exact ⟨rfl, rfl, rfl⟩

theorem step_accesses {a : ThreadArguments} (reason : StopReason) (hp : s.program ≠ none)
    (ha : request.access? = some (.release a.thread)) :
    Accesses engine s request (s.step engine reason a).1
      (s.step engine reason a).2.live.tables := by
  simp only [step, Option.isNone_iff_eq_none, hp, if_false]
  refine .released ha ?_
  split <;> exact ⟨rfl, rfl, rfl⟩

theorem pause_accesses {a : ThreadArguments} (hp : s.program ≠ none)
    (ha : request.access? = some (.release a.thread)) :
    Accesses engine s request (s.pause engine a).1 (s.pause engine a).2.live.tables := by
  simp only [pause, Option.isNone_iff_eq_none, hp, if_false]
  refine .released ha ?_
  split <;> exact ⟨rfl, rfl, rfl⟩

/-- A command that shows nothing and leaves the tables alone. -/
def Ignores (s : Session σ) (outcome : Reply × Session σ) : Prop :=
  outcome.1.IsBare ∧ outcome.2.live.tables = s.live.tables

theorem refuse_ignores (s : Session σ) (refusal : Refusal) : s.Ignores (.refuse refusal, s) :=
  ⟨Reply.refuse_isBare refusal, rfl⟩

theorem withArguments_ignores {α : Type} {format : RecordFormat α}
    {action : α → Reply × Session σ} (h : ∀ a, s.Ignores (action a)) :
    s.Ignores (s.withArguments request format action) := by
  unfold withArguments
  split
  · exact refuse_ignores s _
  · exact h _

theorem resolve_ignores (target : BreakpointTarget) (requests : List BreakpointRequest) :
    s.Ignores (s.resolve engine target requests) := by
  unfold resolve
  dsimp only
  split <;> exact ⟨⟨rfl, rfl, rfl⟩, rfl⟩

theorem setBreakpoints_ignores (a : SetBreakpointsArguments) :
    s.Ignores (s.setBreakpoints engine a) := by
  unfold setBreakpoints
  split
  · exact refuse_ignores s _
  · exact refuse_ignores s _
  · exact resolve_ignores _ _

theorem setFunctionBreakpoints_ignores (a : SetFunctionBreakpointsArguments) :
    s.Ignores (s.setFunctionBreakpoints engine a) := by
  unfold setFunctionBreakpoints
  split
  · exact refuse_ignores s _
  · exact resolve_ignores _ _

theorem threads_ignores : s.Ignores (s.threads engine) := by
  unfold threads
  split
  · exact refuse_ignores s _
  · exact ⟨⟨rfl, rfl, rfl⟩, rfl⟩

theorem finishConfiguration_ignores : s.Ignores (s.finishConfiguration engine) := by
  unfold finishConfiguration
  split
  · exact refuse_ignores s _
  split
  · exact refuse_ignores s _
  dsimp only
  split
  · exact ⟨Reply.done_isBare, rfl⟩
  · exact ⟨Reply.refuse_isBare _, rfl⟩

theorem terminate_tables : (s.terminate engine).live.tables = s.live.tables := by
  unfold terminate
  split <;> rfl

/-- A request for a launch that names no program is refused. -/
theorem performLaunch_of_none (engine : Engine σ)
    (hc : request.command = "launch" ∨ request.command = "attach")
    (hphase : s.phase = .uninitialized) (hl : s.launches? request = none) :
    ∃ refusal, s.performLaunch engine request = (.ok (.refuse refusal), s) := by
  unfold performLaunch
  split
  · exact ⟨_, rfl⟩
  rename_i a ha
  have hsource : s.launchSource? a = none := by simpa [launches?, hc, hphase, ha] using hl
  simp only [launch, hsource]
  exact ⟨_, rfl⟩

theorem Ignores.accesses {outcome : Reply × Session σ} (h : s.Ignores outcome)
    (ha : request.access? = none) :
    Accesses engine s request outcome.1 outcome.2.live.tables := by
  rw [h.2]
  exact .other ha h.1

theorem withArguments_accesses {α : Type} {format : RecordFormat α} {want : α → TableAccess}
    {action : α → Reply × Session σ}
    (hw : request.access? = (request.decodeArguments format).toOption.map want)
    (ha : ∀ a, request.access? = some (want a) →
      Accesses engine s request (action a).1 (action a).2.live.tables) :
    Accesses engine s request (s.withArguments request format action).1
      (s.withArguments request format action).2.live.tables := by
  unfold withArguments
  split
  · rename_i e he
    exact (refuse_ignores s _).accesses (by simp [hw, he, Except.toOption])
  · rename_i a hdecoded
    exact ha a (by simp [hw, hdecoded, Except.toOption])

theorem perform_accesses {c : Command} (h : s.Readable)
    (hc : Command.ofName? request.command = some c) (hallowed : c.refusal? s.phase = none)
    (hl : s.launches? request = none) (hp : request.access? ≠ none → s.program ≠ none)
    (hperform : s.perform engine request c = (.ok reply, s')) :
    Accesses engine s request reply s'.live.tables := by
  have hprogram : ∀ {access}, request.access? = some access → s.program ≠ none :=
    fun ha => hp (by simp [ha])
  cases c with
  | launch | attach =>
    have hphase := Command.refusal?_launch hallowed (by simp)
    have hname : request.command = _ := (Command.ofName?_eq_some_iff.mp hc).symm
    obtain ⟨refusal, hrefused⟩ :=
      performLaunch_of_none engine (by simp [hname, Command.name]) hphase hl
    cases hrefused.symm.trans hperform
    exact (refuse_ignores s _).accesses (by simp [Request.access?, hc])
  | setBreakpoints =>
    cases hperform
    exact (withArguments_ignores setBreakpoints_ignores).accesses (by simp [Request.access?, hc])
  | setFunctionBreakpoints =>
    cases hperform
    exact (withArguments_ignores setFunctionBreakpoints_ignores).accesses
      (by simp [Request.access?, hc])
  | configurationDone =>
    cases hperform
    exact finishConfiguration_ignores.accesses (by simp [Request.access?, hc])
  | threads =>
    cases hperform
    exact threads_ignores.accesses (by simp [Request.access?, hc])
  | resume =>
    cases hperform
    exact withArguments_accesses (by simp [Request.access?, hc])
      fun _ ha => resume_accesses (hprogram ha) ha
  | stepIn | next | stepOut =>
    cases hperform
    exact withArguments_accesses (by simp [Request.access?, hc])
      fun _ ha => step_accesses _ (hprogram ha) ha
  | pause =>
    cases hperform
    exact withArguments_accesses (by simp [Request.access?, hc])
      fun _ ha => pause_accesses (hprogram ha) ha
  | stackTrace =>
    cases hperform
    exact withArguments_accesses (by simp [Request.access?, hc])
      fun _ ha => stackTrace_accesses h (hprogram ha) ha
  | scopes =>
    cases hperform
    exact withArguments_accesses (by simp [Request.access?, hc]) fun _ ha => scopes_accesses ha
  | listVariables =>
    cases hperform
    exact withArguments_accesses (by simp [Request.access?, hc])
      fun _ ha => listVariables_accesses ha
  | terminate | disconnect =>
    cases hperform
    rw [terminate_tables]
    exact .other (by simp [Request.access?, hc]) ⟨rfl, rfl, rfl⟩

/-- Before the launch there is nothing to find. -/
theorem refuse_accesses (refusal : Refusal) (h : s.live.tables = .empty s.settings.limits) :
    Accesses engine s request (.refuse refusal) s.live.tables := by
  cases ha : request.access? with
  | none => exact .other ha (Reply.refuse_isBare refusal)
  | some access =>
    cases access with
    | release thread =>
      have hrelease : s.live.tables.release thread = s.live.tables := by
        rw [h]
        rfl
      rw [← hrelease]
      exact .released ha (Reply.refuse_isBare refusal)
    | frames a | scopes a | children a =>
      exact .missed ha (by simp [Tables.Lacks, h, Tables.empty, VariableTable.empty])

theorem dispatch_accesses (h : s.Readable) (hs : s.Consistent) (hlive : s.phase ≠ .terminated)
    (hl : s.launches? request = none)
    (hdispatch : s.dispatch engine request = (.ok reply, s')) :
    Accesses engine s request reply s'.live.tables := by
  unfold dispatch at hdispatch
  split at hdispatch
  · rename_i hname
    cases hdispatch
    exact .other (by simp [Request.access?, hname]) (Reply.refuse_isBare _)
  rename_i c hname
  split at hdispatch
  · rename_i refusal hrefusal
    cases hdispatch
    cases hphase : s.phase with
    | uninitialized =>
      exact refuse_accesses _ (h.untouched ((phase_eq_uninitialized_iff hs).mp hphase))
    | terminated => exact (hlive hphase).elim
    | configuring | running =>
      rw [hphase] at hrefusal
      refine .other ?_ (Reply.refuse_isBare _)
      rcases Command.refusal?_launched (by simp) hrefusal with rfl | rfl <;>
        simp [Request.access?, hname]
  · rename_i hallowed
    refine perform_accesses h hname hallowed hl (fun ha => ?_) hdispatch
    cases hphase : s.phase with
    | terminated => exact (hlive hphase).elim
    | configuring => exact (hs.of_phase (.inl hphase)).2.1
    | running => exact (hs.of_phase (.inr hphase)).2.1
    | uninitialized =>
      rw [hphase] at hallowed
      refine absurd ?_ ha
      rcases Command.refusal?_uninitialized hallowed with rfl | rfl | rfl | rfl <;>
        simp [Request.access?, hname]

theorem launches?_of_access? (h : request.access? ≠ none) : s.launches? request = none := by
  refine launches?_eq_none fun hc => (h ?_).elim
  rcases hc with hc | hc <;> simp [Request.access?, hc, Command.ofName?, Command.all, Command.name]

theorem Accesses.after_log {record : Log.Record} {tables : Tables}
    (h : Accesses engine (s.log record) request reply tables) :
    Accesses engine s request reply tables := by
  cases h with
  | released access bare => exact .released access bare
  | listed access retained debugged => exact .listed access retained debugged
  | opened access found => exact .opened access found
  | expanded access found read => exact .expanded access found read
  | missed wanted lacks => exact .missed wanted lacks
  | other access bare => exact .other access bare

/-- While a session is not over, a request that launches nothing uses its tables in one of the six
ways. -/
theorem replyTo_accesses (h : s.Readable) (hs : s.Consistent) (hlive : s.phase ≠ .terminated)
    (hl : s.launches? request = none)
    (hreply : s.replyTo engine request = (.ok reply, s')) :
    Accesses engine s request reply s'.live.tables :=
  (dispatch_accesses (s := s.log _) ⟨h.untouched, h.undisturbed, h.limits⟩
    ⟨hs.isOpen, hs.program_iff, hs.delivery_iff, hs.unlaunched⟩ hlive hl hreply).after_log

/-- Once a session is over, no request touches its tables. -/
theorem tables_replyTo_of_over (hover : s.phase = .terminated)
    (hreply : s.replyTo engine request = (.ok reply, s')) :
    s'.live.tables = s.live.tables := by
  unfold replyTo dispatch at hreply
  split at hreply
  · cases hreply
    rfl
  split at hreply
  · cases hreply
    rfl
  rename_i c hname hallowed
  rw [show (s.log _).phase = s.phase from rfl, hover] at hallowed
  rcases Command.refusal?_terminated hallowed with rfl | rfl
  · cases hreply
    exact terminate_tables
  · cases hreply
    exact terminate_tables

end Session

end DebugServer
