import DebugServer.Proofs.Inspection.Tables
import DebugServer.Proofs.Value.Printer

/-!
# Walking through a value

A client that is shown a value can expand it and then any of its parts, level by level. Along every
path through the values in memory, which may lead round a cycle, it is shown the parts that are
there, and each part that has parts of its own gets the next reference.
-/

namespace DebugServer

namespace Value

/-- The parts of a value or what it leads to, each under its name. The name of a map entry is what
a printer of its own makes of the key. -/
def namedParts (m : Memory) (keyBudget : Nat) (v : Value) : List NamedValue :=
  match v.kind with
  | .pointer target | .interface target => [⟨"", m.read target⟩]
  | .array vs | .slice vs => vs.mapIdx fun i part => ⟨toString i, part⟩
  | .struct fields =>
    fields.map fun (name, part) => ⟨if name = "" then part.typeName else name, part⟩
  | .map entries =>
    entries.map fun (key, part) => ⟨((Printer.new keyBudget).print m key).finish, part⟩
  | _ => []

def parts (m : Memory) (v : Value) : List Value :=
  match v.kind with
  | .pointer target | .interface target => [m.read target]
  | .array vs | .slice vs => vs
  | .struct fields => fields.map Prod.snd
  | .map entries => entries.map Prod.snd
  | _ => []

/-- Whether values of this kind have parts, nil or not. -/
def isContainer (v : Value) : Bool :=
  match v.kind with
  | .nilPointer | .pointer _ | .nilInterface | .interface _ | .array _ | .nilSlice | .slice _
  | .struct _ | .nilMap | .map _ => true
  | _ => false

/-- A path of positions leads from a value to another one. -/
inductive Leads (m : Memory) : Value → List Nat → Value → Prop where
  | here (v : Value) : Leads m v [] v
  | step {v part w : Value} {i : Nat} {path : List Nat} (there : (v.parts m)[i]? = some part)
      (rest : Leads m part path w) : Leads m v (i :: path) w

theorem map_value_namedParts (m : Memory) (keyBudget : Nat) (v : Value) :
    (v.namedParts m keyBudget).map (·.value) = v.parts m := by
  unfold namedParts parts
  split <;> simp [List.mapIdx_eq_zipIdx_map, Function.comp_def]

theorem parts_of_ofValue?_eq_none {m : Memory} {v : Value} (h : Scope.ofValue? v = none) :
    v.parts m = [] := by
  unfold Scope.ofValue? at h
  unfold parts
  split at h <;> simp_all

end Value

namespace Scope

/-- The one printer that writes all keys carries nothing over from one to the next. -/
theorem namedEntries_new (m : Memory) (budget : Nat) (entries : List (Value × Value)) :
    namedEntries m (.new budget) entries =
      entries.map fun (key, entry) =>
        ⟨((Value.Printer.new budget).print m key).finish, entry⟩ := by
  induction entries with
  | nil => rfl
  | cons entry rest ih =>
    obtain ⟨key, entry⟩ := entry
    simp only [namedEntries, Value.Printer.printString_new, List.map_cons, ih]

theorem children_of_ofValue? {v : Value} {scope : Scope} (h : ofValue? v = some scope)
    (m : Memory) (keyBudget : Nat) : scope.children m keyBudget = v.namedParts m keyBudget := by
  unfold ofValue? at h
  unfold Value.namedParts
  split at h <;> cases h <;> rename_i hkind <;>
    simp [children, hkind, namedElements, namedEntries_new, Value.fieldName]

/-- What a scope lists: the variables of a frame, or the parts of a value. -/
def listed (m : Memory) (keyBudget : Nat) : Scope → List NamedValue
  | .frame scope => scope.bindings
  | .pointee v | .elements v | .fields v | .entries v => v.namedParts m keyBudget

/-- Whether a scope is one of a frame, or the one that its value gets. -/
def Arises (scope : Scope) : Prop :=
  (∃ own, scope = .frame own) ∨ ∃ v, ofValue? v = some scope

theorem Arises.children_eq {scope : Scope} (h : scope.Arises) (m : Memory) (keyBudget : Nat) :
    scope.children m keyBudget = scope.listed m keyBudget := by
  rcases h with ⟨own, rfl⟩ | ⟨v, hscope⟩
  · rfl
  · rw [children_of_ofValue? hscope]
    unfold ofValue? at hscope
    split at hscope <;> cases hscope <;> rfl

theorem ofValue?_eq_none_iff {v : Value} :
    ofValue? v = none ↔ v.isNil = true ∨ v.isContainer = false := by
  unfold ofValue? Value.isNil Value.isContainer
  cases v.kind <;> simp

end Scope

namespace VariableTable

variable {m : Memory} {limits : TextLimits} {t : VariableTable} {x : Variable} {v w : Value}
  {path : List Nat}

/-- A variable is how a client is to see a value. Nil, and what has no parts by its kind, cannot be
expanded. -/
structure Shows (m : Memory) (budget : Nat) (child : NamedValue) (x : Variable) : Prop where
  name : x.name = child.name
  value : x.value = Value.render m child.value budget
  typeName : x.typeName = child.value.typeName
  reference : x.reference = 0 ↔ child.value.isNil = true ∨ child.value.isContainer = false

/-- One variable for each of some values, in their order; the references are larger than those
that `t` knows and than those before them. -/
structure Lists (m : Memory) (limits : TextLimits) (t : VariableTable) (children : List NamedValue)
    (xs : List Variable) : Prop where
  each : List.Forall₂ (Shows m limits.value) children xs
  fresh : ∀ x ∈ xs, x.reference ≠ 0 → ∀ id, (t.scopes.get? id).isSome → id < x.reference
  increasing : xs.Pairwise fun x y => y.reference ≠ 0 → x.reference < y.reference

/-- Expands a variable and then, position by position, one of those that it shows. -/
def walk (m : Memory) : VariableTable → Variable → List Nat → Option (Variable × VariableTable)
  | t, x, [] => some (x, t)
  | t, x, i :: path =>
    match t.expand m x.reference with
    | none => none
    | some (xs, t) =>
      match xs[i]? with
      | none => none
      | some x => walk m t x path

theorem le_reference_shown (m : Memory) (budget next : Nat) (children : List NamedValue) :
    ∀ x ∈ shown m budget next children, x.reference ≠ 0 → next ≤ x.reference := by
  induction children generalizing next with
  | nil => simp [shown]
  | cons child rest ih =>
    intro x hx hne
    cases hscope : Scope.ofValue? child.value with
    | none =>
      simp only [shown, hscope, List.mem_cons] at hx
      rcases hx with rfl | hx
      · exact absurd rfl hne
      · exact ih next x hx hne
    | some scope =>
      simp only [shown, hscope, List.mem_cons] at hx
      rcases hx with rfl | hx
      · exact Nat.le_refl next
      · have hle := ih (next + 1) x hx hne
        omega

theorem pairwise_reference_shown (m : Memory) (budget next : Nat) (children : List NamedValue) :
    (shown m budget next children).Pairwise fun x y =>
      y.reference ≠ 0 → x.reference < y.reference := by
  induction children generalizing next with
  | nil => exact .nil
  | cons child rest ih =>
    cases hscope : Scope.ofValue? child.value with
    | none =>
      simp only [shown, hscope]
      refine .cons ?_ (ih next)
      intro y _ hne
      exact Nat.pos_of_ne_zero hne
    | some scope =>
      simp only [shown, hscope]
      refine .cons ?_ (ih (next + 1))
      intro y hy hne
      exact le_reference_shown m budget (next + 1) rest y hy hne

theorem lists_shown (m : Memory) (limits : TextLimits) (t : VariableTable)
    (children : List NamedValue) :
    t.Lists m limits children (shown m limits.value (t.scopes.size + 1) children) := by
  refine ⟨?_, ?_, pairwise_reference_shown m _ _ _⟩
  · refine (shown_forall₂ m _ _ children (Nat.succ_pos _)).imp ?_
    rintro child x ⟨hname, hvalue, htype, href⟩
    exact ⟨hname, hvalue, htype, href.trans Scope.ofValue?_eq_none_iff⟩
  · intro x hx hne id hid
    have hle := le_reference_shown m _ _ children x hx hne
    have hrange := HandleTable.get?_isSome_iff.mp hid
    omega

/-- What a table shows of a value, as far as it can be expanded, is registered under the reference
that it was shown with. -/
def Registers (t : VariableTable) (x : Variable) (v : Value) : Prop :=
  ∀ scope, Scope.ofValue? v = some scope → t.scopes.get? x.reference = some scope

theorem registers_shown (t : VariableTable) (m : Memory) (budget : Nat)
    (children : List NamedValue) {i : Nat} {child : NamedValue}
    (hx : (shown m budget (t.scopes.size + 1) children)[i]? = some x)
    (hchild : children[i]? = some child) :
    Registers { t with scopes := t.scopes.extend (scopesOf children) } x child.value := by
  intro scope hscope
  obtain ⟨j, href, hj⟩ :=
    (reference_shown_iff m budget _ x.reference children scope).mp
      ⟨i, x, child, hx, hchild, hscope, rfl⟩
  apply HandleTable.get?_extend_iff.mpr
  right
  exact ⟨j, by omega, hj⟩

theorem variableIn_epoch (t : VariableTable) (m : Memory) (child : NamedValue) :
    ∃ x t', t.variableIn m t.epoch child = some (x, t') ∧ t'.limits = t.limits ∧
      t.Lists m t.limits [child] [x] ∧ t'.Registers x child.value := by
  have hall := variablesIn_epoch m [child] t
  cases h : t.variableIn m t.epoch child with
  | none => simp [variablesIn, h] at hall
  | some shownIn =>
    obtain ⟨x, t'⟩ := shownIn
    simp only [variablesIn, h, Option.map_some, Option.some.injEq, Prod.mk.injEq] at hall
    obtain ⟨hx, rfl⟩ := hall
    refine ⟨x, _, rfl, rfl, ?_, ?_⟩
    · rw [hx]
      exact lists_shown m t.limits t [child]
    · exact registers_shown t m t.limits.value [child] (i := 0) (by rw [← hx]; rfl) rfl

theorem expand_of_registers {scope : Scope} (hx : t.Registers x v)
    (hscope : Scope.ofValue? v = some scope) (m : Memory) :
    ∃ xs t', t.expand m x.reference = some (xs, t') ∧ t'.limits = t.limits ∧
      t.Lists m t.limits (v.namedParts m t.limits.key) xs ∧
      ∀ (i : Nat) (y : Variable) (part : Value), xs[i]? = some y → (v.parts m)[i]? = some part →
        t'.Registers y part := by
  have hfound : t.scopes.lookup x.reference = some (scope, t.epoch) := by
    simp [HandleTable.lookup, hx scope hscope, epoch]
  have hall := variablesIn_epoch m (scope.children m t.limits.key) t
  rw [Scope.children_of_ofValue? hscope] at hall
  refine ⟨_, { t with scopes := t.scopes.extend (scopesOf (v.namedParts m t.limits.key)) }, ?_, rfl,
    lists_shown m t.limits t _, ?_⟩
  · simp only [expand, hfound]
    rw [Scope.children_of_ofValue? hscope]
    exact hall
  · intro i y part hy hpart
    rw [← Value.map_value_namedParts m t.limits.key, List.getElem?_map] at hpart
    obtain ⟨child, hchild, rfl⟩ := Option.map_eq_some_iff.mp hpart
    exact registers_shown t m t.limits.value _ hy hchild

theorem walk_of_leads (h : v.Leads m path w) (hx : t.Registers x v) :
    ∃ y t', t.walk m x path = some (y, t') ∧ t'.limits = t.limits ∧ t'.Registers y w := by
  induction h generalizing t x with
  | here v => exact ⟨x, t, rfl, rfl, hx⟩
  | @step v part w i path hpart rest ih =>
    obtain ⟨scope, hscope⟩ : ∃ scope, Scope.ofValue? v = some scope := by
      apply Option.ne_none_iff_exists'.mp
      intro hnone
      rw [Value.parts_of_ofValue?_eq_none hnone] at hpart
      cases hpart
    obtain ⟨xs, t₁, hexpand, hlimits, hlists, hparts⟩ := expand_of_registers hx hscope m
    have hlength : i < xs.length := by
      rw [← hlists.each.length_eq, ← List.length_map (f := NamedValue.value),
        Value.map_value_namedParts]
      exact (List.getElem?_eq_some_iff.mp hpart).1
    have hy : xs[i]? = some xs[i] := List.getElem?_eq_getElem hlength
    obtain ⟨y, t₂, hwalk, hlimits', hreg⟩ := ih (hparts i _ part hy hpart)
    refine ⟨y, t₂, ?_, hlimits'.trans hlimits, hreg⟩
    simp only [walk, hexpand, hy]
    exact hwalk

/-- A client that is shown a value finds every value that a path leads to, and what it is shown of
that one are its parts. Whatever begins a path is one, so the same holds of each step on the way. -/
theorem shows_along_path (t : VariableTable) (m : Memory) (name : String)
    (h : v.Leads m path w) :
    ∃ x t₀ y t₁, t.variableIn m t.epoch ⟨name, v⟩ = some (x, t₀) ∧
      t.Lists m t.limits [⟨name, v⟩] [x] ∧ t₀.walk m x path = some (y, t₁) ∧
      (w.isNil = false → w.isContainer = true → ∃ ys t₂, t₁.expand m y.reference = some (ys, t₂) ∧
        t₁.Lists m t.limits (w.namedParts m t.limits.key) ys) := by
  obtain ⟨x, t₀, hroot, hlimits₀, hlists, hreg₀⟩ := variableIn_epoch t m ⟨name, v⟩
  obtain ⟨y, t₁, hwalk, hlimits₁, hreg₁⟩ := walk_of_leads h hreg₀
  refine ⟨x, t₀, y, t₁, hroot, hlists, hwalk, ?_⟩
  intro hnil hcontainer
  obtain ⟨scope, hscope⟩ : ∃ scope, Scope.ofValue? w = some scope := by
    apply Option.ne_none_iff_exists'.mp
    rw [Ne, Scope.ofValue?_eq_none_iff]
    simp [hnil, hcontainer]
  obtain ⟨ys, t₂, hexpand, -, hparts, -⟩ := expand_of_registers hreg₁ hscope m
  rw [hlimits₁, hlimits₀] at hparts
  exact ⟨ys, t₂, hexpand, hparts⟩

/-- Round and round a list whose only node is its own successor. -/
theorem shows_along_path_cycle :
    let pointer : Value := .mk "*Node" (.pointer ⟨0⟩)
    let node : Value := .mk "Node" (.struct [("next", pointer)])
    let m : Memory := ⟨#[node]⟩
    let t : VariableTable := .empty ⟨128, 64⟩
    node.Leads m [0, 0, 0, 0] node ∧
      ∃ x t₀ y t₁, t.variableIn m t.epoch ⟨"list", node⟩ = some (x, t₀) ∧
        t.Lists m t.limits [⟨"list", node⟩] [x] ∧ t₀.walk m x [0, 0, 0, 0] = some (y, t₁) ∧
        (node.isNil = false → node.isContainer = true → ∃ ys t₂,
          t₁.expand m y.reference = some (ys, t₂) ∧
            t₁.Lists m t.limits (node.namedParts m t.limits.key) ys) := by
  intro pointer node m t
  have hnext : (node.parts m)[0]? = some pointer := rfl
  have hback : (pointer.parts m)[0]? = some node := rfl
  have hpath : node.Leads m [0, 0, 0, 0] node :=
    .step hnext (.step hback (.step hnext (.step hback (.here node))))
  exact ⟨hpath, shows_along_path t m "list" hpath⟩

end VariableTable

end DebugServer
