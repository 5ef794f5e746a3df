import Mathlib.Data.List.Forall2
import DebugServer.Inspection.Tables
import DebugServer.Proofs.Inspection.HandleTable

/-!
# Retained stops and issued references

A retained stop is found under its thread until it is replaced or released. Showing values in the
current epoch always works: it issues the next references, in order, to those that have children.
-/

namespace DebugServer

namespace RetainedStops

@[simp] theorem get?_empty (thread : ThreadId) : empty.get? thread = none := rfl

theorem get?_release (r : RetainedStops) (released thread : ThreadId) :
    (r.release released).get? thread = if released = thread then none else r.get? thread := by
  simp only [release, get?, List.find?_filter]
  split
  · rename_i h
    subst h
    simp
  · rename_i h
    congr
    funext stop
    by_cases hs : stop.thread = thread
    · simp [hs, Ne.symm h]
    · simp [hs]

theorem get?_retain (r : RetainedStops) (stop : StopEvent) (thread : ThreadId) :
    (r.retain stop).get? thread = if stop.thread = thread then some stop else r.get? thread := by
  have hrest := r.get?_release stop.thread thread
  by_cases h : stop.thread = thread
  · simp [retain, get?, h]
  · simp only [retain, get?, List.find?_cons, h, decide_false, if_false] at hrest ⊢
    exact hrest

end RetainedStops

namespace Tables

@[simp] theorem recordStop_stops (t : Tables) (stop : StopEvent) :
    (t.recordStop stop).stops = t.stops.retain stop := rfl

theorem readFrames_undisturbed {stop : StopEvent} (h : stop.stack.overtaken = 0) (t : Tables)
    (first last : Nat) : t.readFrames stop first last = (stop.stack.window first last, t) := by
  simp [readFrames, h]

end Tables

namespace VariableTable

theorem addIn_epoch (t : VariableTable) (scope : Scope) :
    t.addIn t.epoch scope =
      some (t.scopes.size + 1, { t with scopes := t.scopes.extend [scope] }) := by
  simp [addIn, epoch, HandleTable.addIn_epoch]

theorem epoch_of_addIn {t t' : VariableTable} {e : Epoch} {scope : Scope} {id : Nat}
    (h : t.addIn e scope = some (id, t')) : t'.epoch = t.epoch ∧ e = t.epoch := by
  unfold VariableTable.addIn HandleTable.addIn at h
  split at h
  · rename_i he
    simp only [Option.map_some, Option.some.injEq, Prod.mk.injEq] at h
    obtain ⟨-, rfl⟩ := h
    exact ⟨rfl, he⟩
  · cases h

theorem addIn_of_ne {t : VariableTable} {e : Epoch} (h : e ≠ t.epoch)
    (scope : Scope) : t.addIn e scope = none := by
  cases hadd : t.addIn e scope with
  | none => rfl
  | some issued => exact absurd (epoch_of_addIn hadd).2 h

/-- The scopes of the values that have children. -/
def scopesOf (children : List NamedValue) : List Scope :=
  children.filterMap fun child => Scope.ofValue? child.value

/-- What is shown of some values when `next` is the next reference. -/
def shown (m : Memory) (budget : Nat) : (next : Nat) → List NamedValue → List Variable
  | _, [] => []
  | next, child :: rest =>
    let text := Value.render m child.value budget
    match Scope.ofValue? child.value with
    | none => ⟨child.name, text, child.value.typeName, 0⟩ :: shown m budget next rest
    | some _ => ⟨child.name, text, child.value.typeName, next⟩ :: shown m budget (next + 1) rest

theorem variablesIn_epoch (m : Memory) (children : List NamedValue) (t : VariableTable) :
    variablesIn m t.epoch children t =
      some (shown m t.limits.value (t.scopes.size + 1) children,
        { t with scopes := t.scopes.extend (scopesOf children) }) := by
  induction children generalizing t with
  | nil => simp [variablesIn, shown, scopesOf]
  | cons child rest ih =>
    cases hscope : Scope.ofValue? child.value with
    | none =>
      simp [variablesIn, variableIn, shown, scopesOf, hscope, ih]
    | some scope =>
      have hrest := ih { t with scopes := t.scopes.extend [scope] }
      have hepoch : ({ t with scopes := t.scopes.extend [scope] } : VariableTable).epoch =
          t.epoch :=
        rfl
      rw [hepoch] at hrest
      simp [variablesIn, variableIn, shown, scopesOf, hscope, addIn_epoch, hrest]

/-- Each value is shown under its name, with its text and type; it gets a reference exactly if it
has children. -/
theorem shown_forall₂ (m : Memory) (budget next : Nat) (children : List NamedValue) (h : 0 < next) :
    List.Forall₂ (fun child v => v.name = child.name ∧ v.value = Value.render m child.value budget ∧
        v.typeName = child.value.typeName ∧
        (v.reference = 0 ↔ Scope.ofValue? child.value = none))
      children (shown m budget next children) := by
  induction children generalizing next with
  | nil => exact .nil
  | cons child rest ih =>
    cases hscope : Scope.ofValue? child.value with
    | none =>
      simp only [shown, hscope]
      exact .cons ⟨rfl, rfl, rfl, by simp [hscope]⟩ (ih next h)
    | some scope =>
      simp only [shown, hscope]
      exact .cons ⟨rfl, rfl, rfl, by simp [hscope]; omega⟩ (ih (next + 1) (by omega))

/-- The references of what is shown are the next ones, in order. -/
theorem references_shown (m : Memory) (budget next : Nat) (children : List NamedValue)
    (h : 0 < next) :
    ((shown m budget next children).map (·.reference)).filter (· ≠ 0) =
      List.range' next (scopesOf children).length := by
  induction children generalizing next with
  | nil => rfl
  | cons child rest ih =>
    cases hscope : Scope.ofValue? child.value with
    | none => simpa [shown, scopesOf, hscope] using ih next h
    | some scope =>
      have hne : next ≠ 0 := by omega
      simpa [shown, scopesOf, hscope, List.range'_succ, hne] using ih (next + 1) (by omega)

/-- The reference that is shown with a value is that of the value's scope. -/
theorem reference_shown_iff (m : Memory) (budget next r : Nat) (children : List NamedValue)
    (scope : Scope) :
    (∃ (k : Nat) (v : Variable) (child : NamedValue), (shown m budget next children)[k]? = some v ∧
        children[k]? = some child ∧ Scope.ofValue? child.value = some scope ∧ v.reference = r) ↔
      ∃ j, r = next + j ∧ (scopesOf children)[j]? = some scope := by
  induction children generalizing next with
  | nil => simp [shown, scopesOf]
  | cons child rest ih =>
    cases hscope : Scope.ofValue? child.value with
    | none =>
      have hrest := ih next
      simp only [scopesOf] at hrest
      simp only [shown, scopesOf, hscope, List.filterMap_cons, ← hrest]
      constructor
      · rintro ⟨k, v, c, hv, hc, hs, hr⟩
        cases k with
        | zero => simp_all
        | succ k => exact ⟨k, v, c, by simpa using hv, by simpa using hc, hs, hr⟩
      · rintro ⟨k, v, c, hv, hc, hs, hr⟩
        exact ⟨k + 1, v, c, by simpa using hv, by simpa using hc, hs, hr⟩
    | some own =>
      have hrest := ih (next + 1)
      simp only [scopesOf] at hrest
      simp only [shown, scopesOf, hscope, List.filterMap_cons]
      constructor
      · rintro ⟨k, v, c, hv, hc, hs, hr⟩
        cases k with
        | zero =>
          simp only [List.getElem?_cons_zero, Option.some.injEq] at hv hc
          subst hv hc
          exact ⟨0, hr.symm, by simpa [hscope] using hs⟩
        | succ k =>
          obtain ⟨j, hj, hscope⟩ := hrest.mp ⟨k, v, c, by simpa using hv, by simpa using hc, hs, hr⟩
          exact ⟨j + 1, by omega, by simpa using hscope⟩
      · rintro ⟨j, hj, hs⟩
        cases j with
        | zero =>
          simp only [List.getElem?_cons_zero, Option.some.injEq] at hs
          subst hs
          exact ⟨0, _, child, rfl, rfl, hscope, by simp [hj]⟩
        | succ j =>
          obtain ⟨k, v, c, hv, hc, hs, hr⟩ := hrest.mpr ⟨j, by omega, by simpa using hs⟩
          exact ⟨k + 1, v, c, by simpa using hv, by simpa using hc, hs, hr⟩

end VariableTable

end DebugServer
