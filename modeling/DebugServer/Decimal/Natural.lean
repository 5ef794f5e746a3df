/-!
# Reading natural numbers

A natural number is written with decimal digits, after an optional plus sign, and has to fit in 64
bits.
-/

namespace DebugServer.Decimal

inductive NaturalFault where
  | empty
  | invalidDigit
  | tooLarge
deriving DecidableEq, Repr

def NaturalFault.message : NaturalFault → String
  | .empty => "cannot parse integer from empty string"
  | .invalidDigit => "invalid digit found in string"
  | .tooLarge => "number too large to fit in target type"

def digit? (c : Char) : Option Nat :=
  if '0' ≤ c && c ≤ '9' then some (c.toNat - '0'.toNat) else none

def naturalLimit : Nat := 0xFFFFFFFFFFFFFFFF

def readDigits (n : Nat) : List Char → Except NaturalFault Nat
  | [] => .ok n
  | c :: rest =>
    match digit? c with
    | none => .error .invalidDigit
    | some d =>
      if naturalLimit < n * 10 + d then .error .tooLarge else readDigits (n * 10 + d) rest

def readNatural : List Char → Except NaturalFault Nat
  | [] => .error .empty
  | '+' :: [] => .error .invalidDigit
  | '+' :: rest => readDigits 0 rest
  | s => readDigits 0 s

end DebugServer.Decimal
