import DebugServer.Value.Calendar
import DebugServer.Value.Literal
import DebugServer.Decimal.Layout

/-!
# Values on one line, within a budget

A printer takes text up to a number of characters and remembers whether any was dropped. Printing
a value follows pointers and interfaces through memory; it stops at the budget and, because memory
can be cyclic, at a fixed depth.
-/

namespace DebugServer.Value

/-- Shortest digits; an exponent below `1e-4` and from `1e21` on. -/
def floatLayout : Decimal.Layout where
  tie := .up
  least := -4
  limit := 21
  wholeSuffix := ""
  plus := true
  exponentDigits := 2
  nan := "NaN"
  infinity := "+Inf"
  negativeInfinity := "-Inf"

def floatText (bits : UInt64) : String :=
  floatLayout.write bits

def complexText (re im : UInt64) : String :=
  let imText := floatText im
  let sign := if imText.startsWith "-" || imText.startsWith "+" then "" else "+"
  "(" ++ floatText re ++ sign ++ imText ++ "i)"

/-- The name a struct field is shown under: an embedded field has none and takes its type's. -/
def fieldName (name : String) (v : Value) : String :=
  if name = "" then v.typeName else name

def ellipsis : String := "..."

/-- Values nested deeper than this below the printed value are dropped. -/
def depthLimit : Nat := 64

/-- Text of at most `budget` characters, and whether anything was dropped. -/
structure Printer where
  budget : Nat
  text : String
  written : Nat
  overflowed : Bool
deriving Repr

namespace Printer

def new (budget : Nat) : Printer :=
  ⟨budget, "", 0, false⟩

def isFull (p : Printer) : Bool :=
  p.budget ≤ p.written

def overflow (p : Printer) : Printer :=
  { p with overflowed := true }

/-- Appends what fits; an empty text always does. -/
def write (p : Printer) (s : String) : Printer :=
  if s = "" then p
  else
    let remaining := p.budget - p.written
    if remaining = 0 then p.overflow
    else if s.length ≤ remaining then
      { p with text := p.text ++ s, written := p.written + s.length }
    else
      { p with
        text := p.text ++ String.ofList (s.toList.take remaining)
        written := p.budget
        overflowed := true }

def finish (p : Printer) : String :=
  if p.overflowed then p.text ++ ellipsis else p.text

def items (print : α → Printer → Printer) : (first : Bool) → List α → Printer → Printer
  | _, [], p => p
  | first, x :: rest, p =>
    if p.isFull then p.overflow
    else items print false rest (print x (if first then p else p.write ","))

def braced (p : Printer) (typeName : String) (print : α → Printer → Printer) (xs : List α) :
    Printer :=
  (items print true xs ((p.write typeName).write "\x7b")).write "\x7d"

/-- Prints a value that may still nest `depth` levels. -/
def printWithin (m : Memory) : (depth : Nat) → Value → Printer → Printer
  | 0, _, p => p.overflow
  | depth + 1, v, p =>
    if p.isFull then p.overflow
    else match v.kind with
      | .bool b => p.write (if b then "true" else "false")
      | .int n => p.write (toString n)
      | .uint n => p.write (toString n)
      | .float bits => p.write (floatText bits)
      | .complex re im => p.write (complexText re im)
      | .string s => p.write (literal s)
      | .timestamp t => ((p.write v.typeName).write " ").write t.text
      | .nilPointer => (p.write v.typeName).write " nil"
      | .pointer target => printWithin m depth (m.read target) (p.write "*")
      | .nilInterface => p.write "nil"
      | .interface target => printWithin m depth (m.read target) p
      | .array elements => p.braced v.typeName (printWithin m depth) elements
      | .nilSlice => p.braced v.typeName (printWithin m depth) []
      | .slice elements => p.braced v.typeName (printWithin m depth) elements
      | .struct fields =>
        p.braced v.typeName
          (fun (name, value) p =>
            printWithin m depth value ((p.write (fieldName name value)).write ":"))
          fields
      | .nilMap => p.braced v.typeName (printWithin m depth) []
      | .map entries =>
        p.braced v.typeName
          (fun (key, value) p =>
            printWithin m depth value ((printWithin m depth key p).write ":"))
          entries
      | .chan _ => p.write v.typeName
      | .func _ => p.write v.typeName
      | .other text => ((p.write v.typeName).write " ").write text

def print (p : Printer) (m : Memory) (v : Value) : Printer :=
  printWithin m (depthLimit + 1) v p

/-- The printer for the next text. -/
def reset (p : Printer) : Printer :=
  { p with text := "", written := 0, overflowed := false }

/-- The text of a value on a fresh line: what the printer held comes before it. -/
def printString (p : Printer) (m : Memory) (v : Value) : String × Printer :=
  let p := p.print m v
  (p.finish, p.reset)

end Printer

/-- At most `budget` characters of the value's text, and an ellipsis if any were dropped. A nil
value is shown as such whatever its type and the budget. -/
def render (m : Memory) (v : Value) (budget : Nat) : String :=
  if v.isNil then "nil" else ((Printer.new budget).print m v).finish

end DebugServer.Value
