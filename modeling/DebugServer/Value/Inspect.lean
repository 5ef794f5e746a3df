import DebugServer.Value.Calendar
import DebugServer.Text.Quoted
import DebugServer.Decimal.Layout

/-!
# Values in full

The structural text of a value for diagnostics, without a budget. What pointers lead to is not
shown, since memory can be cyclic.
-/

namespace DebugServer

/-- A whole number keeps `.0`; an exponent below `1e-4` and from `1e16` on. -/
def Value.inspectedFloat : Decimal.Layout where
  tie := .up
  least := -4
  limit := 16
  wholeSuffix := ".0"
  plus := false
  exponentDigits := 1
  nan := "NaN"
  infinity := "inf"
  negativeInfinity := "-inf"

def Timestamp.inspectedFraction (nanos : Nat) : String :=
  if nanos = 0 then "0" else String.ofList (fractionDigits nanos)

def Timestamp.inspectedOffset (offset : Int) : String :=
  (if offset < 0 then "-" else "+") ++ padded 2 (offset.natAbs / 3600) ++ ":" ++
    padded 2 (offset.natAbs / 60 % 60) ++ ":" ++ padded 2 (offset.natAbs % 60)

def Timestamp.inspect (t : Timestamp) : String :=
  let l := t.clock
  dateText l ++ " " ++ toString l.hour ++ ":" ++ padded 2 l.minute ++ ":" ++ padded 2 l.second ++
    "." ++ inspectedFraction t.nanos ++ " " ++ inspectedOffset t.offset

namespace Value

def inspectBool (b : Bool) : String :=
  if b then "true" else "false"

def inspectList (items : List String) : String :=
  "[" ++ ", ".intercalate items ++ "]"

/-- The address of a cell, which is not determined. -/
def inspectedCell : String := "Some(Reference(0x0))"

mutual

def inspect : Value → String
  | .mk typeName kind =>
    "Value \x7b type_name: " ++ Text.quoted typeName ++ ", kind: " ++ inspectKind kind ++ " \x7d"

def inspectKind : Kind → String
  | .bool b => "Bool(" ++ inspectBool b ++ ")"
  | .int n => "Int(" ++ toString n ++ ")"
  | .uint n => "Uint(" ++ toString n ++ ")"
  | .float bits => "Float(" ++ inspectedFloat.write bits ++ ")"
  | .complex re im =>
    "Complex \x7b re: " ++ inspectedFloat.write re ++ ", im: " ++ inspectedFloat.write im ++ " \x7d"
  | .string s => "String(" ++ Text.quoted s ++ ")"
  | .timestamp t => "Timestamp(" ++ t.inspect ++ ")"
  | .nilPointer => "Pointer(None)"
  | .pointer _ => "Pointer(" ++ inspectedCell ++ ")"
  | .nilInterface => "Interface(None)"
  | .interface _ => "Interface(" ++ inspectedCell ++ ")"
  | .array elements => "Array(" ++ inspectList (inspectElements elements) ++ ")"
  | .nilSlice => "Slice(None)"
  | .slice elements => "Slice(Some(" ++ inspectList (inspectElements elements) ++ "))"
  | .struct fields => "Struct(" ++ inspectList (inspectFields fields) ++ ")"
  | .nilMap => "Map(None)"
  | .map entries => "Map(Some(" ++ inspectList (inspectEntries entries) ++ "))"
  | .chan isNil => "Chan \x7b nil: " ++ inspectBool isNil ++ " \x7d"
  | .func isNil => "Func \x7b nil: " ++ inspectBool isNil ++ " \x7d"
  | .other text => "Opaque(" ++ Text.quoted text ++ ")"

def inspectElements : List Value → List String
  | [] => []
  | v :: rest => inspect v :: inspectElements rest

def inspectFields : List (String × Value) → List String
  | [] => []
  | (name, v) :: rest =>
    ("NamedValue \x7b name: " ++ Text.quoted name ++ ", value: " ++ inspect v ++ " \x7d")
      :: inspectFields rest

def inspectEntries : List (Value × Value) → List String
  | [] => []
  | (key, v) :: rest => ("(" ++ inspect key ++ ", " ++ inspect v ++ ")") :: inspectEntries rest

end

def inspectResult : Option Value → String
  | none => "None"
  | some v => "Some(" ++ inspect v ++ ")"

end Value

end DebugServer
