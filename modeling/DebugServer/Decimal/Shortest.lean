/-!
# Shortest decimal digits

A binary64 number is shown with the fewest decimal digits that read back as the same number.
Everything is decided in exact integer arithmetic: the reals that round to a finite number form
an interval around it, and the first decimal grid with a point in the interval wins.
-/

namespace DebugServer.Decimal

/-- What 64 bits mean as a floating point number; a finite magnitude is
`mantissa · 2 ^ exponent`. -/
inductive Binary64 where
  | nan
  | infinite (negative : Bool)
  | finite (negative : Bool) (mantissa : Nat) (exponent : Int) (closeBelow : Bool)

/-- `closeBelow` holds at a power of two, where the next number below is only half as far away. -/
def Binary64.ofBits (bits : UInt64) : Binary64 :=
  let negative := bits >>> 63 = 1
  let biased := (bits >>> 52 &&& 0x7FF).toNat
  let fraction := (bits &&& 0xFFFFFFFFFFFFF).toNat
  if biased = 0x7FF then
    if fraction = 0 then .infinite negative else .nan
  else if biased = 0 then .finite negative fraction (-1074) false
  else .finite negative (fraction + 0x10000000000000) (biased - 1075) (fraction = 0 && 1 < biased)

inductive Tie where
  | up
  | even

structure Digits where
  coefficient : Nat
  exponent : Int
deriving DecidableEq, Repr

/-- Drops at most `fuel` trailing zeros of the coefficient. -/
def Digits.strip : Nat → Digits → Digits
  | 0, d => d
  | fuel + 1, d =>
    if d.coefficient ≠ 0 && d.coefficient % 10 = 0 then
      strip fuel ⟨d.coefficient / 10, d.exponent + 1⟩
    else d

/-- The interval of reals that round to one number, in units of `up / down`. -/
structure Interval where
  low : Nat
  middle : Nat
  high : Nat
  up : Nat
  down : Nat
  closed : Bool

def Interval.around (mantissa : Nat) (exponent : Int) (closeBelow : Bool) : Interval where
  low := if closeBelow then 4 * mantissa - 1 else 4 * mantissa - 2
  middle := 4 * mantissa
  high := 4 * mantissa + 2
  up := Nat.pow 2 (exponent - 2).toNat
  down := Nat.pow 2 (2 - exponent).toNat
  closed := mantissa % 2 = 0

/-- The number of digits before the decimal point, negative for leading zeros after it. -/
def Interval.magnitude (i : Interval) : Int :=
  (Nat.toDigits 10 (i.middle * i.up * Nat.pow 10 345 / i.down)).length - 345

/-- The point of the grid of spacing `10 ^ exponent` that is nearest among those in the interval. -/
def Interval.gridPoint? (i : Interval) (tie : Tie) (exponent : Int) : Option Digits :=
  let num := i.up * Nat.pow 10 (-exponent).toNat
  let den := i.down * Nat.pow 10 exponent.toNat
  let below := i.middle * num / den
  let inside (c : Nat) : Bool :=
    if i.closed then i.low * num ≤ c * den && c * den ≤ i.high * num
    else i.low * num < c * den && c * den < i.high * num
  let nearer :=
    if 2 * i.middle * num < (2 * below + 1) * den then below
    else if (2 * below + 1) * den < 2 * i.middle * num then below + 1
    else match tie with
      | .up => below + 1
      | .even => if below % 2 = 0 then below else below + 1
  if inside below then
    if inside (below + 1) then some ⟨nearer, exponent⟩ else some ⟨below, exponent⟩
  else if inside (below + 1) then some ⟨below + 1, exponent⟩
  else none

/-- The shortest digits of a positive number; seventeen always suffice. -/
def Interval.shortest (i : Interval) (tie : Tie) : Digits :=
  let grids := (List.range 17).map fun n : Nat => i.magnitude - (n + 1 : Int)
  ((grids.findSome? (i.gridPoint? tie)).getD ⟨i.middle, 0⟩).strip 20

end DebugServer.Decimal
