import DebugServer.Json.Basic
import DebugServer.Decimal.Layout
import DebugServer.Text.Quoted

/-!
# JSON text

The compact form: no blanks, fields in the order of the object, only what has to be escaped is.
-/

namespace DebugServer.Json

/-- Doubles keep a fractional part; an exponent is written below `1e-5` and from `1e16` on. -/
def doubleLayout : Decimal.Layout where
  tie := .even
  least := -5
  limit := 16
  wholeSuffix := ".0"
  plus := true
  exponentDigits := 1
  nan := "null"
  infinity := "null"
  negativeInfinity := "null"

def escapedChar (c : Char) : List Char :=
  if c = '"' then ['\\', '"']
  else if c = '\\' then ['\\', '\\']
  else if c = '\x08' then ['\\', 'b']
  else if c = '\x0c' then ['\\', 'f']
  else if c = '\n' then ['\\', 'n']
  else if c = '\r' then ['\\', 'r']
  else if c = '\t' then ['\\', 't']
  else if c.val < 0x20 then ['\\', 'u'] ++ Text.hexPadded 4 c.toNat
  else [c]

def writeString (s : String) : String :=
  String.ofList ('"' :: s.toList.flatMap escapedChar ++ ['"'])

def writeNumber : Number → String
  | .int n => toString n
  | .double bits => doubleLayout.write bits

mutual

def write : Json → String
  | .null => "null"
  | .bool true => "true"
  | .bool false => "false"
  | .num n => writeNumber n
  | .str s => writeString s
  | .arr items => "[" ++ ",".intercalate (writeItems items) ++ "]"
  | .obj fields => "\x7b" ++ ",".intercalate (writeFields fields) ++ "\x7d"

def writeItems : List Json → List String
  | [] => []
  | item :: rest => write item :: writeItems rest

def writeFields : List (String × Json) → List String
  | [] => []
  | (key, value) :: rest => (writeString key ++ ":" ++ write value) :: writeFields rest

end

end DebugServer.Json
