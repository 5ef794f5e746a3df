import DebugServer.Decimal.Double
import DebugServer.Decimal.Layout
import DebugServer.Decimal.Natural
import DebugServer.Log.Pattern
import DebugServer.Text.Split

/-!
# Conditions on fields

A condition names a field that has to be there, and may say which value it has to have.
-/

namespace DebugServer.Log

/-- A value that a field has to have. What reads as no other kind is a pattern for its text. -/
inductive Wanted where
  | truth (value : Bool)
  | natural (value : Nat)
  | integer (value : Int)
  | double (bits : UInt64)
  | pattern (text : String)
deriving DecidableEq, Repr, Inhabited

namespace Wanted

def readNegative? : List Char → Option Int
  | '-' :: c :: rest =>
    match Decimal.readDigits 0 (c :: rest) with
    | .ok n => if n ≤ 0x8000000000000000 then some (-n) else none
    | .error _ => none
  | _ => none

/-- Reads a number: natural, else an integer, else a double. -/
def readNumber? (s : List Char) : Option Wanted :=
  match Decimal.readNatural s with
  | .ok n => some (.natural n)
  | .error _ => ((readNegative? s).map .integer).or ((Decimal.readDouble? s).map .double)

def ofText? (s : List Char) : Option Wanted :=
  match String.ofList s with
  | "true" => some (.truth true)
  | "false" => some (.truth false)
  | text =>
    (readNumber? s).or (if Pattern.isWellFormed s then some (.pattern text) else none)

/-- Positional notation throughout; a whole number has no point. -/
def doubleLayout : Decimal.Layout where
  tie := .up
  least := -400
  limit := 400
  wholeSuffix := ""
  plus := false
  exponentDigits := 1
  nan := "NaN"
  infinity := "inf"
  negativeInfinity := "-inf"

def text : Wanted → String
  | .truth b => if b then "true" else "false"
  | .natural n => toString n
  | .integer n => toString n
  | .double bits => doubleLayout.write bits
  | .pattern s => s

end Wanted

structure Condition where
  name : String
  value : Option Wanted
deriving DecidableEq, Repr, Inhabited

namespace Condition

/-- The name, then an equals sign and the value; a further equals sign ends the value. -/
def ofText? (s : List Char) : Option Condition :=
  match Text.splitAll '=' s with
  | name :: value :: _ => (Wanted.ofText? value).map fun v => ⟨String.ofList name, some v⟩
  | _ => some ⟨String.ofList s, none⟩

def text (c : Condition) : String :=
  match c.value with
  | none => c.name
  | some value => c.name ++ "=" ++ value.text

end Condition

end DebugServer.Log
