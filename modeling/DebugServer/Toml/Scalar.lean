import DebugServer.Decimal.Double
import DebugServer.Json.Basic
import DebugServer.Text.Hexadecimal

/-!
# Numbers, dates and times of a configuration text

Readers take a scalar from the front of a text and return the rest, or fail. A reader may leave a
rest that nothing can follow; whoever reads on then fails.
-/

namespace DebugServer.Toml

open Decimal (isDigit)
open Text (isHexDigit)

/-- More than the greatest number that fits 64 bits. -/
def valueBound : Nat := 0x10000000000000000

/-- The number that digits stand for; one that does not fit 64 bits counts as the bound. -/
def digitsValue (base : Nat) (ds : List Char) : Nat :=
  ds.foldl (fun n d => min (n * base + Text.hexDigitValue d) valueBound) 0

/-- More digits, each after at most one underscore. -/
def moreDigits (p : Char → Bool) : List Char → Option (List Char × List Char)
  | [] => some ([], [])
  | '_' :: c :: rest =>
    if p c then (moreDigits p rest).map fun (ds, rest) => (c :: ds, rest) else none
  | c :: rest =>
    if c = '_' then none
    else if p c then (moreDigits p rest).map fun (ds, rest) => (c :: ds, rest)
    else some ([], c :: rest)

def someDigits (p : Char → Bool) : List Char → Option (List Char × List Char)
  | [] => none
  | c :: rest =>
    if p c then (moreDigits p rest).map fun (ds, rest) => (c :: ds, rest) else none

/-- Decimal digits without a needless zero in front. -/
def wholeDigits : List Char → Option (List Char × List Char)
  | '0' :: rest => some (['0'], rest)
  | s => someDigits isDigit s

/-- The integer, if it fits 64 bits. -/
def integer? (n : Int) : Option Json :=
  if Int64.minValue.toInt ≤ n && n ≤ Int64.maxValue.toInt then some (Json.int n) else none

def exponent (s : List Char) : Option (Int × List Char) :=
  let (negative, s) := Decimal.takeSign s
  (someDigits isDigit s).map fun (ds, rest) =>
    let n : Int := digitsValue 10 ds
    (if negative then -n else n, rest)

/-- A number too great for a double is a fault, unless it is negative. -/
def float? (negative : Bool) (digits : List Char) (e : Int) (rest : List Char) :
    Option (Json × List Char) :=
  let bits := Decimal.doubleBits negative digits e
  if bits = Decimal.infinityBits then none else some (.num (.double bits), rest)

def decimalTail (negative : Bool) (whole : List Char) : List Char → Option (Json × List Char)
  | '.' :: rest => do
    let (fraction, rest) ← someDigits isDigit rest
    let digits := whole ++ fraction
    let shift : Int := -fraction.length
    match rest with
    | c :: tail =>
      if c = 'e' || c = 'E' then
        let (e, rest) ← exponent tail
        float? negative digits (e + shift) rest
      else float? negative digits shift rest
    | [] => float? negative digits shift []
  | c :: rest =>
    if c = 'e' || c = 'E' then do
      let (e, rest) ← exponent rest
      float? negative whole e rest
    else decimal (c :: rest)
  | [] => decimal []
where
  decimal (rest : List Char) : Option (Json × List Char) :=
    let n : Int := digitsValue 10 whole
    (integer? (if negative then -n else n)).map fun j => (j, rest)

def unsignedNumber (negative : Bool) : List Char → Option (Json × List Char)
  | 'i' :: 'n' :: 'f' :: rest =>
    some (.num (.double (if negative then 0xFFF0000000000000 else Decimal.infinityBits)), rest)
  | 'n' :: 'a' :: 'n' :: rest => some (.num (.double Decimal.nanBits), rest)
  | s => do
    let (whole, rest) ← wholeDigits s
    decimalTail negative whole rest

def basedInteger (base : Nat) (p : Char → Bool) (s : List Char) : Option (Json × List Char) := do
  let (ds, rest) ← someDigits p s
  let j ← integer? (digitsValue base ds)
  return (j, rest)

def number : List Char → Option (Json × List Char)
  | '0' :: 'x' :: rest => basedInteger 16 isHexDigit rest
  | '0' :: 'o' :: rest => basedInteger 8 (fun c => '0' ≤ c && c ≤ '7') rest
  | '0' :: 'b' :: rest => basedInteger 2 (fun c => c = '0' || c = '1') rest
  | '-' :: rest => unsignedNumber true rest
  | '+' :: rest => unsignedNumber false rest
  | s => unsignedNumber false s

/-! ### Dates and times -/

def fixedDigits (n : Nat) (s : List Char) : Option (Nat × List Char) :=
  let ds := s.take n
  if ds.length = n && ds.all isDigit then some (digitsValue 10 ds, s.drop n) else none

def twoDigits (least greatest : Nat) (s : List Char) : Option (Nat × List Char) :=
  match fixedDigits 2 s with
  | some (n, rest) => if least ≤ n && n ≤ greatest then some (n, rest) else none
  | none => none

def isLeap (year : Nat) : Bool :=
  year % 4 = 0 && (year % 100 ≠ 0 || year % 400 = 0)

def daysIn (year month : Nat) : Nat :=
  if month = 2 then (if isLeap year then 29 else 28)
  else if month = 4 || month = 6 || month = 9 || month = 11 then 30
  else 31

def char (c : Char) : List Char → Option (List Char)
  | d :: rest => if d = c then some rest else none
  | [] => none

def date (s : List Char) : Option (List Char) := do
  let (year, s) ← fixedDigits 4 s
  let s ← char '-' s
  let (month, s) ← twoDigits 1 12 s
  let s ← char '-' s
  let (day, s) ← twoDigits 1 31 s
  if day ≤ daysIn year month then some s else none

def time (s : List Char) : Option (List Char) := do
  let (_, s) ← twoDigits 0 23 s
  let s ← char ':' s
  let (_, s) ← twoDigits 0 59 s
  let s ← char ':' s
  let (_, s) ← twoDigits 0 60 s
  match s with
  | '.' :: c :: rest => if isDigit c then some (rest.dropWhile isDigit) else none
  | '.' :: [] => none
  | s => some s

def offset : List Char → Option (List Char)
  | [] => some []
  | c :: rest =>
    if c = 'Z' || c = 'z' then some rest
    else if c = '+' || c = '-' then do
      let (_, s) ← twoDigits 0 23 rest
      let s ← char ':' s
      let (_, s) ← twoDigits 0 59 s
      some s
    else some (c :: rest)

/-- Whether a text starts with a year, as only dates do. -/
def startsWithYear (s : List Char) : Bool :=
  ((fixedDigits 4 s).bind fun (_, s) => char '-' s).isSome

def startsWithHour (s : List Char) : Bool :=
  ((twoDigits 0 23 s).bind fun (_, s) => char ':' s).isSome

def dateTime (s : List Char) : Option (List Char) :=
  if startsWithYear s then
    match date s with
    | none => none
    | some s =>
      match s with
      | c :: rest =>
        if (c = 'T' || c = 't' || c = ' ') && startsWithHour rest then (time rest).bind offset
        else some s
      | [] => some []
  else time s

/-- The key by which dates and times are told from other values. -/
def dateKey : String := "date and time"

/-- What dates and times are read as. No setting is one, so they all are the same. -/
def someDate : Json :=
  .obj [(dateKey, .null)]

def numberOrDate (s : List Char) : Option (Json × List Char) :=
  if startsWithYear s || startsWithHour s then (dateTime s).map fun rest => (someDate, rest)
  else number s

end DebugServer.Toml
