import DebugServer.Text.Printable

/-!
# Quoted diagnostic text

How a string is shown inside an error message or a log field: between double quotes, with short
escapes for the usual controls and `\u{hex}` for everything that would not be visible as itself.
-/

namespace DebugServer.Text

/-- Lower-case hexadecimal digits, without padding. -/
def hex (n : Nat) : List Char :=
  Nat.toDigits 16 n

def hexPadded (width n : Nat) : List Char :=
  List.leftpad width '0' (hex n)

def quotedChar (c : Char) : List Char :=
  if c = '"' then ['\\', '"']
  else if c = '\\' then ['\\', '\\']
  else if c = '\n' then ['\\', 'n']
  else if c = '\r' then ['\\', 'r']
  else if c = '\t' then ['\\', 't']
  else if c = '\x00' then ['\\', '0']
  else if isPrintable c && !extendsGrapheme c then [c]
  else ['\\', 'u', '\x7b'] ++ hex c.toNat ++ ['\x7d']

/-- The text between double quotes, on one line and with nothing invisible in it. -/
def quoted (s : String) : String :=
  String.ofList ('"' :: s.toList.flatMap quotedChar ++ ['"'])

end DebugServer.Text
