import DebugServer.Json.Writer
import DebugServer.Log.Record

/-!
# Log lines

A record is written as text or as JSON, without the time.
-/

namespace DebugServer.Log

def FieldValue.shown : FieldValue → String
  | .number n => toString n
  | .text s => Text.quoted s
  | .plain s => s

def FieldValue.toJson : FieldValue → Json
  | .number n => Json.int n
  | .text s => .str s
  | .plain s => .str s

namespace Record

def text (r : Record) : String :=
  r.level.label ++ " " ++ r.target ++ ": " ++ r.message ++
    String.join (r.fields.map fun (name, value) => " " ++ name ++ "=" ++ value.shown)

def toJson (r : Record) : Json :=
  .obj [("fields", Json.object (("message", .str r.message) ::
      r.fields.map fun (name, value) => (name, value.toJson))),
    ("level", .str r.level.label), ("target", .str r.target)]

def line (json : Bool) (r : Record) : String :=
  if json then r.toJson.write else r.text

end Record

end DebugServer.Log
