import DebugServer.Engine.Stop
import DebugServer.Value.Printer

/-!
# Scopes

A scope is a source of named children that the client may ask for: the variables of a frame, or
what a value is made of. Children are read when they are asked for, so those behind a pointer are
the ones that it leads to by then.
-/

namespace DebugServer

inductive Scope where
  | frame (scope : FrameScope)
  /-- The target of a pointer or of an interface. -/
  | pointee (value : Value)
  | elements (value : Value)
  | fields (value : Value)
  | entries (value : Value)
deriving Inhabited

namespace Scope

def ofValue? (v : Value) : Option Scope :=
  match v.kind with
  | .pointer _ | .interface _ => some (.pointee v)
  | .array _ | .slice _ => some (.elements v)
  | .struct _ => some (.fields v)
  | .map _ => some (.entries v)
  | _ => none

/-- Elements are named by their position. -/
def namedElements (vs : List Value) : List NamedValue :=
  vs.mapIdx fun i v => ⟨toString i, v⟩

/-- Entries are named by their keys, which one printer writes one after the other. -/
def namedEntries (m : Memory) : Value.Printer → List (Value × Value) → List NamedValue
  | _, [] => []
  | p, (key, entry) :: rest =>
    let (name, p) := p.printString m key
    ⟨name, entry⟩ :: namedEntries m p rest

/-- The children of a scope; the names of map entries are cut at `keyBudget` characters. -/
def children (m : Memory) (keyBudget : Nat) : Scope → List NamedValue
  | .frame scope => scope.bindings
  | .pointee v =>
    match v.kind with
    | .pointer target | .interface target => [⟨"", m.read target⟩]
    | _ => []
  | .elements v =>
    match v.kind with
    | .array vs | .slice vs => namedElements vs
    | _ => []
  | .fields v =>
    match v.kind with
    | .struct fs => fs.map fun (name, field) => ⟨Value.fieldName name field, field⟩
    | _ => []
  | .entries v =>
    match v.kind with
    | .map es => namedEntries m (.new keyBudget) es
    | _ => []

end Scope

end DebugServer
