import DebugServer.Proofs.Session.Access

/-!
# Requests step by step

A request for variables or scopes is a series of operations on the tables, each of them atomic:
a lookup, and then one registration after the other, for the epoch that came with the lookup.
Others may work on the tables between any two of them. Where nobody does, the operations answer the
request as a whole.
-/

namespace DebugServer

/-- A request for the variables behind a reference or for the scopes of a frame, between two of its
operations. -/
inductive Inquiry where
  | lookUp (reference : Int)
  | readEpoch (frame : Int)
  | findFrame (epoch : Epoch) (frame : Int)
  /-- The parent is found; its children are registered one after the other. -/
  | showing (epoch : Epoch) (rest : List NamedValue) (shown : List Variable)
  | opening (epoch : Epoch) (rest : List FrameScope) (opened : List ScopeReport)
  | failed

namespace Inquiry

def isNew : Inquiry → Bool
  | lookUp _ | readEpoch _ => true
  | _ => false

/-- Whether the scope or the frame that is asked for has been found. -/
def hasFound : Inquiry → Bool
  | showing .. | opening .. => true
  | _ => false

/-- The next operation, if there is one left. -/
def advance (m : Memory) (t : Tables) : Inquiry → Inquiry × Tables
  | lookUp reference =>
    match t.values.scopes.lookup reference with
    | none => (failed, t)
    | some (scope, epoch) => (showing epoch (scope.children m t.values.limits.key) [], t)
  | readEpoch frame => (findFrame t.values.epoch frame, t)
  | findFrame epoch frame =>
    match t.frames.get? frame with
    | none => (failed, t)
    | some frame => (opening epoch frame.scopes [], t)
  | showing epoch (child :: rest) shown =>
    match t.values.variableIn m epoch child with
    | none => (failed, t)
    | some (x, values) => (showing epoch rest (shown ++ [x]), { t with values })
  | opening epoch (scope :: rest) opened =>
    match Session.issueScopes epoch [scope] t.values with
    | (none, values) => (failed, { t with values })
    | (some reports, values) => (opening epoch rest (opened ++ reports), { t with values })
  | showing epoch [] shown => (showing epoch [] shown, t)
  | opening epoch [] opened => (opening epoch [] opened, t)
  | failed => (failed, t)

/-- What the next operation tries to register, and for which epoch. -/
def registration? : Inquiry → Option (Epoch × Scope)
  | showing epoch (child :: _) _ => (Scope.ofValue? child.value).map fun scope => (epoch, scope)
  | opening epoch (scope :: _) _ => some (epoch, .frame scope)
  | _ => none

end Inquiry

/-- What others do to the tables. -/
inductive TableChange where
  | purgeFrames
  | purgeValues
  | registerFrame (epoch : Epoch) (frame : Frame)
  | registerScope (epoch : Epoch) (scope : Scope)

def TableChange.apply (t : Tables) : TableChange → Tables
  | purgeFrames => { t with frames := t.frames.purge }
  | purgeValues => { t with values := t.values.purge }
  | registerFrame epoch frame =>
    match t.frames.addIn epoch frame with
    | none => t
    | some (_, frames) => { t with frames }
  | registerScope epoch scope =>
    match t.values.addIn epoch scope with
    | none => t
    | some (_, values) => { t with values }

/-- What a stop does to the tables first and then. -/
theorem TableChange.apply_purges (t : Tables) :
    apply (apply t .purgeFrames) .purgeValues = t.purge := rfl

/-- One operation on the tables. -/
inductive Action where
  | advance (m : Memory)
  | change (change : TableChange)

/-- Whether the value table is purged. -/
def Action.purgesValues : Action → Bool
  | change .purgeValues => true
  | _ => false

/-- A try to register a scope: the epoch that the value table was in, and the reference that was
issued unless the table refused. -/
structure Attempt where
  epoch : Epoch
  scope : Scope
  reference : Option Nat

/-- The tables and one request on its way. -/
structure Scene where
  tables : Tables
  inquiry : Inquiry

namespace Scene

def perform (s : Scene) : Action → Scene
  | .advance m =>
    let (inquiry, tables) := s.inquiry.advance m s.tables
    ⟨tables, inquiry⟩
  | .change change => { s with tables := change.apply s.tables }

def play (s : Scene) (actions : List Action) : Scene :=
  actions.foldl perform s

/-- What the request tries to register with its next operation. -/
def attempt? (s : Scene) : Option Attempt :=
  s.inquiry.registration?.map fun (epoch, scope) =>
    ⟨s.tables.values.epoch, scope, (s.tables.values.addIn epoch scope).map (·.1)⟩

/-- All that the request tries to register. -/
def attempts : Scene → List Action → List Attempt
  | _, [] => []
  | s, .advance m :: rest => s.attempt?.toList ++ (s.perform (.advance m)).attempts rest
  | s, .change change :: rest => (s.perform (.change change)).attempts rest

end Scene

namespace Inquiry

/-- A request that has begun holds on to one epoch of the value table. -/
inductive Within (e : Epoch) : Inquiry → Prop where
  | findFrame (frame : Int) : Within e (.findFrame e frame)
  | showing (rest : List NamedValue) (shown : List Variable) : Within e (.showing e rest shown)
  | opening (rest : List FrameScope) (opened : List ScopeReport) : Within e (.opening e rest opened)
  | failed : Within e .failed

variable {e : Epoch} {q : Inquiry} {t : Tables}

theorem within_of_isNew (h : q.isNew = true) (m : Memory) (t : Tables) :
    Within t.values.epoch (q.advance m t).1 ∧ (q.advance m t).2 = t := by
  cases q with
  | lookUp reference =>
    cases hget : t.values.scopes.get? reference with
    | none => simp [advance, HandleTable.lookup, hget, Within.failed]
    | some scope =>
      simp only [advance, HandleTable.lookup, hget, Option.map_some, and_true]
      exact .showing _ []
  | readEpoch frame => exact ⟨.findFrame frame, rfl⟩
  | findFrame | showing | opening | failed => cases h

theorem isNew_of_hasFound (h : q.hasFound = true) : q.isNew = false := by
  cases q with
  | showing | opening => rfl
  | lookUp | readEpoch | findFrame | failed => cases h

theorem registration?_of_isNew (h : q.isNew = true) : q.registration? = none := by
  cases q with
  | lookUp | readEpoch => rfl
  | findFrame | showing | opening | failed => cases h

/-- A request in its epoch registers its next child or scope, or fails if the table refuses it, and
leaves everything else alone. -/
theorem Within.advance_cases (h : Within e q) (m : Memory) (t : Tables) :
    (q.registration? = none ∧ (q.advance m t).2 = t ∧ Within e (q.advance m t).1) ∨
      ∃ scope, q.registration? = some (e, scope) ∧
        (t.values.addIn e scope = none ∧ q.advance m t = (.failed, t) ∨
          ∃ id values, t.values.addIn e scope = some (id, values) ∧
            (q.advance m t).2 = { t with values } ∧ Within e (q.advance m t).1) := by
  cases h with
  | findFrame frame =>
    left
    cases hframe : t.frames.get? frame with
    | none => simp [registration?, advance, hframe, Within.failed]
    | some frame => simp [registration?, advance, hframe, Within.opening]
  | failed => exact .inl ⟨rfl, rfl, .failed⟩
  | showing rest shown =>
    cases rest with
    | nil => exact .inl ⟨rfl, rfl, .showing [] shown⟩
    | cons child rest =>
      cases hscope : Scope.ofValue? child.value with
      | none =>
        left
        simp [registration?, advance, VariableTable.variableIn, hscope, Within.showing]
      | some scope =>
        right
        refine ⟨scope, by simp [registration?, hscope], ?_⟩
        cases hadd : t.values.addIn e scope with
        | none => simp [advance, VariableTable.variableIn, hscope, hadd]
        | some issued =>
          obtain ⟨id, values⟩ := issued
          simp [advance, VariableTable.variableIn, hscope, hadd, Within.showing]
  | opening rest opened =>
    cases rest with
    | nil => exact .inl ⟨rfl, rfl, .opening [] opened⟩
    | cons scope rest =>
      right
      refine ⟨.frame scope, rfl, ?_⟩
      cases hadd : t.values.addIn e (.frame scope) with
      | none => simp [advance, Session.issueScopes, hadd]
      | some issued =>
        obtain ⟨id, values⟩ := issued
        simp [advance, Session.issueScopes, hadd, Within.opening]

theorem Within.advance (h : Within e q) (m : Memory) (t : Tables) :
    Within e (q.advance m t).1 := by
  rcases h.advance_cases m t with ⟨-, -, hwithin⟩ | ⟨scope, -, ⟨-, hfailed⟩ | ⟨-, -, -, -, hwithin⟩⟩
  · exact hwithin
  · rw [hfailed]
    exact .failed
  · exact hwithin

end Inquiry

namespace Scene

variable {e : Epoch}

theorem play_cons (s : Scene) (a : Action) (rest : List Action) :
    s.play (a :: rest) = (s.perform a).play rest := rfl

theorem play_showing {m : Memory} {rest : List NamedValue} {xs : List Variable}
    {values : VariableTable} (t : Tables) (shown : List Variable)
    (h : VariableTable.variablesIn m e rest t.values = some (xs, values)) :
    Scene.play ⟨t, .showing e rest shown⟩ (List.replicate rest.length (.advance m)) =
      ⟨{ t with values }, .showing e [] (shown ++ xs)⟩ := by
  induction rest generalizing t shown xs with
  | nil =>
    simp only [VariableTable.variablesIn, Option.some.injEq, Prod.mk.injEq] at h
    obtain ⟨rfl, rfl⟩ := h
    simp [Scene.play]
  | cons child rest ih =>
    unfold VariableTable.variablesIn at h
    cases hchild : t.values.variableIn m e child with
    | none => simp [hchild] at h
    | some issued =>
      obtain ⟨x, next⟩ := issued
      simp only [hchild] at h
      obtain ⟨⟨ys, final⟩, hrest, hpair⟩ := Option.map_eq_some_iff.mp h
      simp only [Prod.mk.injEq] at hpair
      obtain ⟨rfl, rfl⟩ := hpair
      have hstep : Scene.perform ⟨t, .showing e (child :: rest) shown⟩ (.advance m) =
          ⟨{ t with values := next }, .showing e rest (shown ++ [x])⟩ := by
        simp [Scene.perform, Inquiry.advance, hchild]
      have hplay := ih { t with values := next } (shown ++ [x]) hrest
      rw [List.append_assoc, List.singleton_append] at hplay
      rw [List.length_cons, List.replicate_succ, play_cons, hstep]
      exact hplay

theorem play_opening {rest : List FrameScope} {reports : List ScopeReport}
    {values : VariableTable} (m : Memory) (t : Tables) (opened : List ScopeReport)
    (h : Session.issueScopes e rest t.values = (some reports, values)) :
    Scene.play ⟨t, .opening e rest opened⟩ (List.replicate rest.length (.advance m)) =
      ⟨{ t with values }, .opening e [] (opened ++ reports)⟩ := by
  induction rest generalizing t opened reports with
  | nil =>
    simp only [Session.issueScopes, Prod.mk.injEq, Option.some.injEq] at h
    obtain ⟨rfl, rfl⟩ := h
    simp [Scene.play]
  | cons scope rest ih =>
    unfold Session.issueScopes at h
    cases hadd : t.values.addIn e (.frame scope) with
    | none => simp [hadd] at h
    | some issued =>
      obtain ⟨id, next⟩ := issued
      simp only [hadd, Prod.mk.injEq] at h
      obtain ⟨hreports, hvalues⟩ := h
      obtain ⟨others, hothers, rfl⟩ := Option.map_eq_some_iff.mp hreports
      let report : ScopeReport :=
        ⟨if scope.closure then "Closure" else "Locals", some "locals", id, false⟩
      have hstep : Scene.perform ⟨t, .opening e (scope :: rest) opened⟩ (.advance m) =
          ⟨{ t with values := next }, .opening e rest (opened ++ [report])⟩ := by
        simp [Scene.perform, Inquiry.advance, Session.issueScopes, hadd, report]
      have hplay := ih { t with values := next } (opened ++ [report]) (Prod.ext hothers hvalues)
      rw [List.append_assoc, List.singleton_append] at hplay
      rw [List.length_cons, List.replicate_succ, play_cons, hstep]
      exact hplay

theorem play_lookUp {m : Memory} {t : Tables} {reference : Int} {xs : List Variable}
    {values : VariableTable} (h : t.values.expand m reference = some (xs, values)) :
    ∃ n, Scene.play ⟨t, .lookUp reference⟩ (List.replicate n (.advance m)) =
      ⟨{ t with values }, .showing t.values.epoch [] xs⟩ := by
  cases hget : t.values.scopes.get? reference with
  | none => simp [VariableTable.expand, HandleTable.lookup, hget] at h
  | some scope =>
    simp only [VariableTable.expand, HandleTable.lookup, hget, Option.map_some] at h
    have hstep : Scene.perform ⟨t, .lookUp reference⟩ (.advance m) =
        ⟨t, .showing t.values.epoch (scope.children m t.values.limits.key) []⟩ := by
      simp [Scene.perform, Inquiry.advance, HandleTable.lookup, hget, VariableTable.epoch]
    refine ⟨(scope.children m t.values.limits.key).length + 1, ?_⟩
    rw [List.replicate_succ, play_cons, hstep]
    exact play_showing t [] h

theorem play_readEpoch {m : Memory} {t : Tables} {id : Int} {frame : Frame}
    {reports : List ScopeReport} {values : VariableTable} (hget : t.frames.get? id = some frame)
    (h : Session.issueScopes t.values.epoch frame.scopes t.values = (some reports, values)) :
    ∃ n, Scene.play ⟨t, .readEpoch id⟩ (List.replicate n (.advance m)) =
      ⟨{ t with values }, .opening t.values.epoch [] reports⟩ := by
  have hbegin : Scene.perform ⟨t, .readEpoch id⟩ (.advance m) =
      ⟨t, .findFrame t.values.epoch id⟩ := rfl
  have hfind : Scene.perform ⟨t, .findFrame t.values.epoch id⟩ (.advance m) =
      ⟨t, .opening t.values.epoch frame.scopes []⟩ := by
    simp [Scene.perform, Inquiry.advance, hget]
  refine ⟨frame.scopes.length + 2, ?_⟩
  rw [List.replicate_succ, List.replicate_succ, play_cons, play_cons, hbegin, hfind]
  exact play_opening m t [] h

section

variable {σ : Type}

/-- The operations of a request for variables, one after the other, answer it. -/
theorem play_listVariables (engine : Engine σ) (s : Session σ) (a : VariablesArguments) :
    ∃ n inquiry,
      Scene.play ⟨s.live.tables, .lookUp a.reference.toInt⟩
          (List.replicate n (.advance (engine.memory s.engine))) =
        ⟨(s.listVariables engine a).2.live.tables, inquiry⟩ ∧
      (inquiry = .failed ∧ (s.listVariables engine a).1 = .refuse .invalidReference ∨
        ∃ e xs, inquiry = .showing e [] xs ∧
          (s.listVariables engine a).1 = .body (.variableList ⟨xs.map Session.report⟩)) := by
  cases h : s.live.tables.values.expand (engine.memory s.engine) a.reference.toInt with
  | none =>
    have hget : s.live.tables.values.scopes.get? a.reference.toInt = none := by
      by_contra hsome
      obtain ⟨scope, hscope⟩ := Option.ne_none_iff_exists'.mp hsome
      simp only [VariableTable.expand, HandleTable.lookup, hscope, Option.map_some] at h
      have hall := VariableTable.variablesIn_epoch (engine.memory s.engine)
        (scope.children (engine.memory s.engine) s.live.tables.values.limits.key)
        s.live.tables.values
      rw [VariableTable.epoch, h] at hall
      cases hall
    refine ⟨1, .failed, ?_, .inl ⟨rfl, ?_⟩⟩
    · simp [Session.listVariables, h, Scene.play, Scene.perform, Inquiry.advance,
        HandleTable.lookup, hget]
    · simp [Session.listVariables, h]
  | some listed =>
    obtain ⟨xs, values⟩ := listed
    obtain ⟨n, hplay⟩ := play_lookUp h
    refine ⟨n, _, ?_, .inr ⟨s.live.tables.values.epoch, xs, rfl, ?_⟩⟩
    · simp only [Session.listVariables, h, hplay]
      rfl
    · simp only [Session.listVariables, h]

/-- The operations of a request for scopes, one after the other, answer it. -/
theorem play_scopes (m : Memory) (s : Session σ) (a : ScopesArguments) :
    ∃ n inquiry,
      Scene.play ⟨s.live.tables, .readEpoch a.frame.toInt⟩ (List.replicate n (.advance m)) =
        ⟨(s.scopes a).2.live.tables, inquiry⟩ ∧
      (inquiry = .failed ∧ (s.scopes a).1 = .refuse .invalidFrame ∨
        ∃ e reports, inquiry = .opening e [] reports ∧
          (s.scopes a).1 = .body (.scopes ⟨reports⟩)) := by
  cases hget : s.live.tables.frames.get? a.frame.toInt with
  | none =>
    refine ⟨2, .failed, ?_, .inl ⟨rfl, ?_⟩⟩
    · simp [Session.scopes, Scene.play, Scene.perform, Inquiry.advance, hget]
    · simp [Session.scopes, hget]
  | some frame =>
    obtain ⟨reports, values, hissue⟩ : ∃ reports values,
        Session.issueScopes s.live.tables.values.epoch frame.scopes s.live.tables.values =
          (some reports, values) :=
      ⟨_, _, Session.issueScopes_epoch frame.scopes s.live.tables.values⟩
    obtain ⟨n, hplay⟩ := play_readEpoch (m := m) hget hissue
    refine ⟨n, _, ?_, .inr ⟨s.live.tables.values.epoch, reports, rfl, ?_⟩⟩
    · simp only [Session.scopes, hget, hissue, hplay]
      rfl
    · simp only [Session.scopes, hget, hissue]

end

end Scene

end DebugServer
