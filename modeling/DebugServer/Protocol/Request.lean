import DebugServer.Json.Decode
import DebugServer.Text.Redacted

/-!
# Requests

A message of type `request` asks for one response. Its arguments are decoded later, by the command
that takes them. No error text repeats what the client sent.
-/

namespace DebugServer

structure Request where
  seq : Int64
  type : String
  command : String
  arguments : Json
deriving Repr, Inhabited

def DecodeError.redactedMessage (e : DecodeError) : String :=
  Text.redactMessage e.message

namespace Request

def format : RecordFormat Request :=
  messageRecord "Request" <|
    mk <$> .required "seq" .int64 <*> .required "type" .text <*> .required "command" .text
      <*> .defaulting "arguments" .null .json

def toJson (r : Request) : Json :=
  .obj [("arguments", r.arguments), ("command", .str r.command), ("seq", Json.int r.seq.toInt),
    ("type", .str r.type)]

/-- Reads a message as a request; messages of any other type are none. -/
def ofMessage? (message : Json) : Except DecodeError (Option Request) :=
  match message.field? "type" with
  | some (.str "request") => (format.decode message).map some
  | _ => .ok none

/-- Decodes the arguments; arguments that are left out are those of an empty object. -/
def decodeArguments (r : Request) (format : RecordFormat α) : Except DecodeError α :=
  match r.arguments with
  | .null => format.decode (.obj [])
  | arguments => format.decode arguments

end Request

end DebugServer
