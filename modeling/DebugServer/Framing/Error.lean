import DebugServer.Decimal.Natural
import DebugServer.Json.Reader
import DebugServer.Protocol.Request

/-!
# What can be wrong with a stream of messages
-/

namespace DebugServer

/-- The most bytes of a header line, with its line feed. -/
def headerLimit : Nat := 8192

def messageLimit : Nat := 16 * 1024 * 1024

inductive FramingError where
  | lineTooLong
  | lineNotText
  | invalidLength (value : String) (fault : Decimal.NaturalFault)
  | missingLength
  | messageTooLarge (length : Nat)
  | headerCut
  | messageCut
deriving DecidableEq, Repr

namespace FramingError

/-- Whether the stream ended too early, rather than broke the protocol. -/
def isCut : FramingError → Bool
  | .headerCut | .messageCut => true
  | _ => false

def detail : FramingError → String
  | .lineTooLong =>
    "DAP header line exceeds maximum size (" ++ toString headerLimit ++ " bytes)"
  | .lineNotText => "DAP header line is not UTF-8"
  | .invalidLength value fault =>
    "invalid Content-Length " ++ Text.quoted value ++ ": " ++ fault.message
  | .missingLength => "missing Content-Length header"
  | .messageTooLarge length =>
    "DAP message Content-Length " ++ toString length ++ " exceeds maximum allowed size " ++
      toString messageLimit
  | .headerCut => "EOF while reading DAP headers"
  | .messageCut => "early eof"

def message (e : FramingError) : String :=
  (if e.isCut then "io error: " else "dap protocol error: ") ++ e.detail

end FramingError

def invalidJson (detail : String) : String :=
  "invalid json: " ++ detail

def Json.SyntaxError.redactedMessage (e : Json.SyntaxError) : String :=
  Text.redactMessage e.message

end DebugServer
