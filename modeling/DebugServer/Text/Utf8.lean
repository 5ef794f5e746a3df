/-!
# UTF-8

Bytes are cut into units: a unit is one well-formed character or one maximal ill-formed prefix.
Strict decoding wants every unit to be a character; lossy decoding shows each ill-formed unit as
one replacement character.
-/

namespace DebugServer.Text

def isContinuation (b : UInt8) : Bool :=
  0x80 ≤ b && b ≤ 0xBF

/-- The range that the second byte of a three-byte character has to lie in. -/
def secondOfThree (lead second : UInt8) : Bool :=
  if lead = 0xE0 then 0xA0 ≤ second && second ≤ 0xBF
  else if lead = 0xED then 0x80 ≤ second && second ≤ 0x9F
  else isContinuation second

/-- The range that the second byte of a four-byte character has to lie in. -/
def secondOfFour (lead second : UInt8) : Bool :=
  if lead = 0xF0 then 0x90 ≤ second && second ≤ 0xBF
  else if lead = 0xF4 then 0x80 ≤ second && second ≤ 0x8F
  else isContinuation second

def tailBits (b : UInt8) : Nat :=
  b.toNat % 64

/-- The units of a byte string; `none` stands for an ill-formed one. -/
def units : List UInt8 → List (Option Char)
  | [] => []
  | a :: rest =>
    if a < 0x80 then some (Char.ofNat a.toNat) :: units rest
    else if 0xC2 ≤ a && a ≤ 0xDF then
      match rest with
      | b :: more =>
        if isContinuation b then some (Char.ofNat (a.toNat % 32 * 64 + tailBits b)) :: units more
        else none :: units (b :: more)
      | [] => [none]
    else if 0xE0 ≤ a && a ≤ 0xEF then
      match rest with
      | b :: more =>
        if secondOfThree a b then
          match more with
          | c :: more =>
            if isContinuation c then
              some (Char.ofNat ((a.toNat % 16 * 64 + tailBits b) * 64 + tailBits c)) :: units more
            else none :: units (c :: more)
          | [] => [none]
        else none :: units (b :: more)
      | [] => [none]
    else if 0xF0 ≤ a && a ≤ 0xF4 then
      match rest with
      | b :: more =>
        if secondOfFour a b then
          match more with
          | c :: more =>
            if isContinuation c then
              match more with
              | d :: more =>
                if isContinuation d then
                  some (Char.ofNat
                    (((a.toNat % 8 * 64 + tailBits b) * 64 + tailBits c) * 64 + tailBits d))
                    :: units more
                else none :: units (d :: more)
              | [] => [none]
            else none :: units (c :: more)
          | [] => [none]
        else none :: units (b :: more)
      | [] => [none]
    else none :: units rest
termination_by bytes => bytes.length

def decode? (bytes : List UInt8) : Option (List Char) :=
  (units bytes).mapM id

/-- The characters of any bytes, ill-formed units replaced by U+FFFD. -/
def decodeLossy (bytes : List UInt8) : List Char :=
  (units bytes).map fun unit => unit.getD '\uFFFD'

def encode (s : List Char) : List UInt8 :=
  s.flatMap String.utf8EncodeChar

def toBytes (s : String) : List UInt8 :=
  encode s.toList

/-- How many bytes there are before the first ill-formed unit. -/
def wellFormedSize (bytes : List UInt8) : Nat :=
  (encode (((units bytes).takeWhile Option.isSome).filterMap id)).length

end DebugServer.Text
