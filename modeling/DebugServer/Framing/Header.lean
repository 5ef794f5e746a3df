import DebugServer.Framing.Error
import DebugServer.Text.Blank
import DebugServer.Text.Split

/-!
# Header lines

A header is a sequence of lines up to an empty one. Of its fields only the length of the message
counts; if it is given more than once, the last one does.
-/

namespace DebugServer

inductive HeaderLine where
  | blank
  | length (n : Nat)
  | other
deriving DecidableEq, Repr

namespace HeaderLine

def lengthName : List Char := "content-length".toList

def ofText (s : List Char) : Except FramingError HeaderLine :=
  if s.isEmpty then .ok .blank
  else match Text.splitFirst ':' s with
    | none => .ok .other
    | some (name, value) =>
      if name.map Char.toLower = lengthName then
        match Decimal.readNatural (Text.trim value) with
        | .ok n => .ok (.length n)
        | .error fault => .error (.invalidLength (String.ofList (Text.trim value)) fault)
      else .ok .other

def isLineEnd (c : Char) : Bool :=
  c = '\r' || c = '\n'

def ofBytes (bytes : List UInt8) : Except FramingError HeaderLine :=
  match Text.decode? bytes with
  | none => .error .lineNotText
  | some s => ofText (Text.trimEnd isLineEnd s)

end HeaderLine

end DebugServer
