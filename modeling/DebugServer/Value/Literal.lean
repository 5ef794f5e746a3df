import DebugServer.Text.Quoted

/-!
# String literals of the debuggee's language

A string value is shown as a literal on one line: between double quotes, controls as escapes,
every other character as it is.
-/

namespace DebugServer.Value

def isControl (c : Char) : Bool :=
  c.val < 0x20 || (0x7F ≤ c.val && c.val ≤ 0x9F)

/-- A control is shown by a letter or by its code point, which never needs more than four digits. -/
def literalChar (c : Char) : List Char :=
  if c = '"' then ['\\', '"']
  else if c = '\\' then ['\\', '\\']
  else if c = '\n' then ['\\', 'n']
  else if c = '\r' then ['\\', 'r']
  else if c = '\t' then ['\\', 't']
  else if c = '\x07' then ['\\', 'a']
  else if c = '\x08' then ['\\', 'b']
  else if c = '\x0c' then ['\\', 'f']
  else if c = '\x0b' then ['\\', 'v']
  else if isControl c then
    if c.val < 0x80 then ['\\', 'x'] ++ Text.hexPadded 2 c.toNat
    else ['\\', 'u'] ++ Text.hexPadded 4 c.toNat
  else [c]

def literal (s : String) : String :=
  String.ofList ('"' :: s.toList.flatMap literalChar ++ ['"'])

end DebugServer.Value
