import DebugServer.Json.Writer
import DebugServer.Text.Utf8

/-!
# Writing framed messages
-/

namespace DebugServer

def frameHeader (n : Nat) : String :=
  "Content-Length: " ++ toString n ++ "\r\n\r\n"

def frame (bytes : List UInt8) : List UInt8 :=
  Text.toBytes (frameHeader bytes.length) ++ bytes

def frameJson (j : Json) : List UInt8 :=
  frame (Text.toBytes j.write)

end DebugServer
