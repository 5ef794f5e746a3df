import DebugServer.Decimal.Shortest

/-!
# Layouts of floating point text

The digits of a number are the same everywhere; how they are laid out is one record per output.
-/

namespace DebugServer.Decimal

/-- How a floating point number is written: positionally when its leading digit stands for
`10 ^ e` with `least ≤ e < limit`, otherwise with an exponent. -/
structure Layout where
  tie : Tie
  least : Int
  limit : Int
  /-- Written after a number without fractional digits in positional notation. -/
  wholeSuffix : String
  /-- Whether a non-negative exponent carries a plus sign. -/
  plus : Bool
  exponentDigits : Nat
  nan : String
  infinity : String
  negativeInfinity : String

def zeros (n : Nat) : List Char :=
  List.replicate n '0'

/-- Digits `ds` with the decimal point after the first `point` of them. -/
def Layout.positional (layout : Layout) (ds : List Char) (point : Int) : List Char :=
  if point ≤ 0 then '0' :: '.' :: zeros (-point).toNat ++ ds
  else if ds.length ≤ point then ds ++ zeros (point.toNat - ds.length) ++ layout.wholeSuffix.toList
  else ds.take point.toNat ++ '.' :: ds.drop point.toNat

def Layout.scientific (layout : Layout) (ds : List Char) (e : Int) : List Char :=
  let mantissa := match ds with
    | [] => []
    | [d] => [d]
    | d :: rest => d :: '.' :: rest
  let sign := if e < 0 then ['-'] else if layout.plus then ['+'] else []
  mantissa ++ 'e' :: sign ++ List.leftpad layout.exponentDigits '0' (Nat.toDigits 10 e.natAbs)

def Layout.digits (layout : Layout) (d : Digits) : List Char :=
  let ds := Nat.toDigits 10 d.coefficient
  let e := d.exponent + ds.length - 1
  if layout.least ≤ e && e < layout.limit then layout.positional ds (e + 1)
  else layout.scientific ds e

def Layout.unsigned (layout : Layout) (mantissa : Nat) (exponent : Int) (closeBelow : Bool) :
    List Char :=
  if mantissa = 0 then layout.positional ['0'] 1
  else layout.digits ((Interval.around mantissa exponent closeBelow).shortest layout.tie)

def Layout.write (layout : Layout) (bits : UInt64) : String :=
  match Binary64.ofBits bits with
  | .nan => layout.nan
  | .infinite false => layout.infinity
  | .infinite true => layout.negativeInfinity
  | .finite negative mantissa exponent closeBelow =>
    String.ofList
      ((if negative then ['-'] else []) ++ layout.unsigned mantissa exponent closeBelow)

end DebugServer.Decimal
