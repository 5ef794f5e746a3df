import DebugServer.Inspection.HandleTable
import DebugServer.Inspection.Scope

/-!
# Variables

The variables that a client is shown. One that has children comes with a reference, a handle of
the scope that lists them.
-/

namespace DebugServer

/-- A variable as the client sees it; the reference is zero when it has no children. -/
structure Variable where
  name : String
  value : String
  typeName : String
  reference : Nat
deriving DecidableEq, Repr, Inhabited

/-- How many characters of a value and of the name of a map entry are shown. -/
structure TextLimits where
  value : Nat
  key : Nat
deriving DecidableEq, Repr, Inhabited

structure VariableTable where
  scopes : HandleTable Scope
  limits : TextLimits
deriving Inhabited

namespace VariableTable

def empty (limits : TextLimits) : VariableTable :=
  ⟨.empty, limits⟩

def epoch (t : VariableTable) : Epoch :=
  t.scopes.epoch

def purge (t : VariableTable) : VariableTable :=
  { t with scopes := t.scopes.purge }

def addIn (t : VariableTable) (epoch : Epoch) (scope : Scope) : Option (Nat × VariableTable) :=
  (t.scopes.addIn epoch scope).map fun (id, scopes) => (id, { t with scopes })

/-- Shows a value, with a reference if it has children; none can be issued for an epoch that is
over. -/
def variableIn (t : VariableTable) (m : Memory) (epoch : Epoch) (child : NamedValue) :
    Option (Variable × VariableTable) :=
  let shown (reference : Nat) : Variable :=
    ⟨child.name, Value.render m child.value t.limits.value, child.value.typeName, reference⟩
  match Scope.ofValue? child.value with
  | none => some (shown 0, t)
  | some scope => (t.addIn epoch scope).map fun (id, t) => (shown id, t)

def variablesIn (m : Memory) (epoch : Epoch) :
    List NamedValue → VariableTable → Option (List Variable × VariableTable)
  | [], t => some ([], t)
  | child :: rest, t =>
    match t.variableIn m epoch child with
    | none => none
    | some (v, t) => (variablesIn m epoch rest t).map fun (vs, t) => (v :: vs, t)

def expand (t : VariableTable) (m : Memory) (reference : Int) :
    Option (List Variable × VariableTable) :=
  match t.scopes.lookup reference with
  | none => none
  | some (scope, epoch) => variablesIn m epoch (scope.children m t.limits.key) t

end VariableTable

end DebugServer
