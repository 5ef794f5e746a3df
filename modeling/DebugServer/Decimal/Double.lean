/-!
# Reading doubles

A double is written in decimal, and is read as the double that is nearest to it.
-/

namespace DebugServer.Decimal

def infinityBits : UInt64 := 0x7FF0000000000000

def nanBits : UInt64 := 0x7FF8000000000000

def isDigit (c : Char) : Bool :=
  '0' ≤ c && c ≤ '9'

def digitsValue (ds : List Char) : Nat :=
  ds.foldl (fun n d => n * 10 + (d.toNat - '0'.toNat)) 0

/-- More digits than the midpoint of two doubles has. -/
def digitLimit : Nat := 800

/-- Digits without leading zeros, cut off at the limit. Of what is cut off it only matters whether
there was any: then a last digit says so. -/
def significantDigits (digits : List Char) : List Char :=
  let digits := digits.dropWhile (· = '0')
  if (digits.drop digitLimit).all (· = '0') then digits.take digitLimit
  else digits.take digitLimit ++ ['1']

/-- The bits of the double nearest to `digits · 10 ^ exponent`; far outside the range of doubles
that is zero or infinite. -/
def doubleBits (negative : Bool) (digits : List Char) (exponent : Int) : UInt64 :=
  let kept := significantDigits digits
  /- The number is `kept` as a fraction behind the point, times `10 ^ size`. -/
  let size : Int := (digits.dropWhile (· = '0')).length + exponent
  let shift := size - kept.length
  let magnitude : Float :=
    if kept.isEmpty || size < -400 then 0
    else if 400 < size then 1 / 0
    else Float.ofScientific (digitsValue kept) (shift < 0) shift.natAbs
  (if negative then -magnitude else magnitude).toBits

def takeSign : List Char → Bool × List Char
  | '-' :: rest => (true, rest)
  | '+' :: rest => (false, rest)
  | s => (false, s)

/-- Reads what follows the digits of a number: nothing, or a power of ten. -/
def readPower? : List Char → Option Int
  | [] => some 0
  | c :: rest =>
    let (negative, ds) := takeSign rest
    if (c = 'e' || c = 'E') && !ds.isEmpty && ds.all isDigit then
      let n : Int := digitsValue ds
      some (if negative then -n else n)
    else none

/-- Reads a number without a sign. There is a digit before or behind the decimal point. -/
def readMagnitude? (negative : Bool) (s : List Char) : Option UInt64 :=
  let whole := s.takeWhile isDigit
  let (fraction, rest) := match s.dropWhile isDigit with
    | '.' :: rest => (rest.takeWhile isDigit, rest.dropWhile isDigit)
    | rest => ([], rest)
  if whole.isEmpty && fraction.isEmpty then none
  else (readPower? rest).map fun e => doubleBits negative (whole ++ fraction) (e - fraction.length)

/-- Reads a number, or the name of a value that is none, in any case. -/
def readDouble? (s : List Char) : Option UInt64 :=
  let (negative, s) := takeSign s
  let word := String.ofList (s.map Char.toLower)
  if word = "inf" || word = "infinity" then
    some (if negative then 0xFFF0000000000000 else infinityBits)
  else if word = "nan" then some nanBits
  else readMagnitude? negative s

end DebugServer.Decimal
