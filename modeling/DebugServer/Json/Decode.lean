import DebugServer.Json.Writer

/-!
# Decoding JSON values into records

A shape names the members of a record in their order and says how each one is read. One function
reads every shape, from an object by name or from a list by position, and reports the first fault
it meets: members of an object are visited in the order of the object, members of a list in the
order of the shape, and only then are missing members looked for.
-/

namespace DebugServer

inductive Found where
  | null
  | bool (value : Bool)
  | integer (value : Int)
  | double (bits : UInt64)
  | text (value : String)
  | sequence
  | map
deriving DecidableEq, Repr

def Json.found : Json → Found
  | .null => .null
  | .bool b => .bool b
  | .num (.int n) => .integer n
  | .num (.double bits) => .double bits
  | .str s => .text s
  | .arr _ => .sequence
  | .obj _ => .map

def Found.message : Found → String
  | .null => "null"
  | .bool true => "boolean `true`"
  | .bool false => "boolean `false`"
  | .integer n => "integer `" ++ toString n ++ "`"
  | .double bits => "floating point `" ++ Json.doubleLayout.write bits ++ "`"
  | .text s => "string " ++ Text.quoted s
  | .sequence => "sequence"
  | .map => "map"

inductive DecodeError where
  | invalidType (found : Found) (expected : String)
  | invalidValue (found : Found) (expected : String)
  | missingField (name : String)
  | unknownField (name : String) (known : List String)
  /-- A list of `length` items ends before a required member of a record. -/
  | tooShort (length : Nat) (record : String) (members : Nat)
  /-- A list of `length` items goes on after the last member of a record. -/
  | tooLong (length : Nat)
deriving DecidableEq, Repr

def alternatives : List String → String
  | [] => "there are no fields"
  | [a] => "expected `" ++ a ++ "`"
  | [a, b] => "expected `" ++ a ++ "` or `" ++ b ++ "`"
  | names => "expected one of " ++ ", ".intercalate (names.map fun name => "`" ++ name ++ "`")

def DecodeError.message : DecodeError → String
  | .invalidType found expected => "invalid type: " ++ found.message ++ ", expected " ++ expected
  | .invalidValue found expected => "invalid value: " ++ found.message ++ ", expected " ++ expected
  | .missingField name => "missing field `" ++ name ++ "`"
  | .unknownField name known => "unknown field `" ++ name ++ "`, " ++ alternatives known
  | .tooShort length record members =>
    "invalid length " ++ toString length ++ ", expected struct " ++ record ++ " with " ++
      toString members ++ (if members = 1 then " element" else " elements")
  | .tooLong length =>
    "invalid length " ++ toString length ++ ", expected fewer elements in array"

abbrev Decoder (α : Type) := Json → Except DecodeError α

namespace Decoder

def bool : Decoder Bool
  | .bool b => .ok b
  | j => .error (.invalidType j.found "a boolean")

def text : Decoder String
  | .str s => .ok s
  | j => .error (.invalidType j.found "a string")

def integer : Decoder Int
  | .num (.int n) =>
    if Int64.minValue.toInt ≤ n && n ≤ Int64.maxValue.toInt then .ok n
    else .error (.invalidValue (.integer n) "i64")
  | j => .error (.invalidType j.found "i64")

def int64 : Decoder Int64 := fun j =>
  (integer j).map Int64.ofInt

/-- An unsigned 64-bit integer, under the name that its field calls it by. -/
def natural (name : String) : Decoder Nat
  | .num (.int n) => if 0 ≤ n then .ok n.toNat else .error (.invalidValue (.integer n) name)
  | j => .error (.invalidType j.found name)

def json : Decoder Json :=
  .ok

def optional (decoder : Decoder α) : Decoder (Option α)
  | .null => .ok none
  | j => (decoder j).map some

def list (decoder : Decoder α) : Decoder (List α)
  | .arr items => items.mapM decoder
  | j => .error (.invalidType j.found "a sequence")

end Decoder

structure Shape (α : Type) where
  /-- The members in order, each with a test of its value. -/
  members : List (String × (Json → Except DecodeError Unit))
  /-- The record made of the members that a source has. -/
  build : (String → Option Json) → Except DecodeError α

namespace Shape

variable {α β : Type}

instance : Functor Shape where
  map f shape := ⟨shape.members, fun source => (shape.build source).map f⟩

instance : Seq Shape where
  seq f shape :=
    ⟨f.members ++ (shape ()).members, fun source =>
      match f.build source with
      | .error e => .error e
      | .ok f => ((shape ()).build source).map f⟩

def test (decoder : Decoder α) (j : Json) : Except DecodeError Unit :=
  (decoder j).map fun _ => ()

def required (name : String) (decoder : Decoder α) : Shape α where
  members := [(name, test decoder)]
  build source :=
    match source name with
    | some j => decoder j
    | none => .error (.missingField name)

/-- A member that stands for `fallback` when it is left out. -/
def defaulting (name : String) (fallback : α) (decoder : Decoder α) : Shape α where
  members := [(name, test decoder)]
  build source :=
    match source name with
    | some j => decoder j
    | none => .ok fallback

def optional (name : String) (decoder : Decoder α) : Shape (Option α) :=
  defaulting name none (Decoder.optional decoder)

def names (shape : Shape α) : List String :=
  shape.members.map Prod.fst

end Shape

structure RecordFormat (α : Type) where
  name : String
  shape : Shape α
  /-- Whether members outside the shape are faults rather than ignored. -/
  closed : Bool
  /-- Whether items after the last member of a list are faults rather than ignored. -/
  exact : Bool

namespace RecordFormat

variable {α : Type}

def testField (format : RecordFormat α) (field : String × Json) : Except DecodeError Unit :=
  match format.shape.members.lookup field.1 with
  | some test => test field.2
  | none =>
    if format.closed then .error (.unknownField field.1 format.shape.names) else .ok ()

def ofFields (format : RecordFormat α) (fields : List (String × Json)) : Except DecodeError α := do
  fields.forM format.testField
  format.shape.build fun name => fields.lookup name

def ofItems (format : RecordFormat α) (items : List Json) : Except DecodeError α := do
  (format.shape.members.zip items).forM fun (member, item) => member.2 item
  match format.shape.build (fun name => (format.shape.names.zip items).lookup name) with
  | .ok record =>
    if format.exact && format.shape.members.length < items.length then
      .error (.tooLong items.length)
    else .ok record
  | .error (.missingField name) =>
    .error (.tooShort (format.shape.names.idxOf name) format.name format.shape.members.length)
  | .error e => .error e

def decode (format : RecordFormat α) : Decoder α
  | .obj fields => format.ofFields fields
  | .arr items => format.ofItems items
  | j => .error (.invalidType j.found ("struct " ++ format.name))

end RecordFormat

/-- A record of a message: what it does not know is ignored, but a list has to end with it. -/
def messageRecord (name : String) (shape : Shape α) : RecordFormat α :=
  ⟨name, shape, false, true⟩

end DebugServer
