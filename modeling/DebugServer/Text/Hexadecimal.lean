/-!
# Hexadecimal code points
-/

namespace DebugServer.Text

def isHexDigit (c : Char) : Bool :=
  ('0' ≤ c && c ≤ '9') || ('a' ≤ c && c ≤ 'f') || ('A' ≤ c && c ≤ 'F')

def hexDigitValue (c : Char) : Nat :=
  if c ≤ '9' then c.toNat - '0'.toNat
  else if 'a' ≤ c then c.toNat - 'a'.toNat + 10
  else c.toNat - 'A'.toNat + 10

/-- The character whose code point is written with exactly `n` digits, and the text after them. -/
def codePoint? (n : Nat) (s : List Char) : Option (Char × List Char) :=
  let ds := s.take n
  if ds.length = n && ds.all isHexDigit then
    let v := ds.foldl (fun v d => v * 16 + hexDigitValue d) 0
    if v < 0xD800 || (0xDFFF < v && v < 0x110000) then some (Char.ofNat v, s.drop n) else none
  else none

end DebugServer.Text
