/-!
# JSON values

Objects hold their fields in a list. The objects that this library builds or reads are sorted by
key and hold each key once, so two objects with the same fields are the same value.
-/

namespace DebugServer

/-- An integer, or a double given by its bits. -/
inductive Number where
  | int (value : Int)
  | double (bits : UInt64)
deriving DecidableEq, Repr, Inhabited

inductive Json where
  | null
  | bool (value : Bool)
  | num (value : Number)
  | str (value : String)
  | arr (items : List Json)
  | obj (fields : List (String × Json))
deriving Repr, Inhabited

namespace Json

def int (n : Int) : Json :=
  .num (.int n)

/-- Puts a field in its place; a field of the same key is replaced. -/
def insertField (key : String) (value : Json) : List (String × Json) → List (String × Json)
  | [] => [(key, value)]
  | (k, v) :: rest =>
    if key = k then (key, value) :: rest
    else if key < k then (key, value) :: (k, v) :: rest
    else (k, v) :: insertField key value rest

/-- The object of the given fields; of two fields with one key the later stays. -/
def object (fields : List (String × Json)) : Json :=
  .obj (fields.foldl (fun sorted (key, value) => insertField key value sorted) [])

def field? (key : String) : Json → Option Json
  | .obj fields => fields.lookup key
  | _ => none

def text? : Json → Option String
  | .str s => some s
  | _ => none

def optional (key : String) : Option Json → List (String × Json)
  | some value => [(key, value)]
  | none => []

def orNull : Option Json → Json
  | some value => value
  | none => .null

end Json

end DebugServer
