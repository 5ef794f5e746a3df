import DebugServer.Json.Basic

/-!
# Tables of a configuration text

A document builds one tree of tables. A table is defined by its own header or braces, or implied
by a longer key; each can be defined once, and what is defined cannot be implied again by a dotted
key. Keys keep the order in which they were written.
-/

namespace DebugServer.Toml

mutual

inductive Item where
  | value (value : Json)
  | table (table : Table)
  /-- An array of tables, of which the last is the current one; the others are held last first. -/
  | tables (current : Table) (before : List Table)

/-- `defined` holds of a table with a header of its own, `dotted` of one that is only implied by
dotted keys. -/
inductive Table where
  | mk (defined dotted : Bool) (entries : List (String × Item))

end

namespace Table

def entries : Table → List (String × Item)
  | .mk _ _ entries => entries

def isDefined : Table → Bool
  | .mk defined _ _ => defined

def isDotted : Table → Bool
  | .mk _ dotted _ => dotted

def empty : Table :=
  .mk true false []

def implied (dotted : Bool) : Table :=
  .mk false dotted []

def get? (t : Table) (key : String) : Option Item :=
  t.entries.lookup key

def append (t : Table) (key : String) (item : Item) : Table :=
  .mk t.isDefined t.isDotted (t.entries ++ [(key, item)])

def replace (t : Table) (key : String) (item : Item) : Table :=
  .mk t.isDefined t.isDotted
    (t.entries.map fun entry => if entry.1 = key then (key, item) else entry)

def remove (t : Table) (key : String) : Table :=
  .mk t.isDefined t.isDotted (t.entries.filter (·.1 ≠ key))

/-- Changes the table at a path, which is implied where it is not there yet. The keys of a dotted
path must not lead through a defined table. -/
def change (dotted : Bool) (f : Table → Option Table) : List String → Table → Option Table
  | [], t => f t
  | key :: path, t =>
    match t.get? key with
    | none => (change dotted f path (implied dotted)).map fun child => t.append key (.table child)
    | some (.value _) => none
    | some (.tables current before) =>
      (change dotted f path current).map fun current => t.replace key (.tables current before)
    | some (.table child) =>
      if dotted && child.isDefined then none
      else (change dotted f path child).map fun child => t.replace key (.table child)

/-- Adds a value under a key that is not there yet; a dotted key must not lead into a table that
is there for another reason. -/
def insertValue (path : List String) (key : String) (value : Json) : Table → Option Table :=
  change true
    (fun t =>
      if t.isDotted = path.isEmpty || (t.get? key).isSome then none
      else some (t.append key (.value value)))
    path

/-- Opens the table of a header. A table that was only implied by other headers is defined now,
and comes after what is there. -/
def openTable (path : List String) (key : String) : Table → Option Table :=
  change false
    (fun t =>
      match t.get? key with
      | none => some (t.append key (.table empty))
      | some (.table child) =>
        if child.isDefined || child.isDotted then none
        else some ((t.remove key).append key (.table (.mk true false child.entries)))
      | some _ => none)
    path

def openArray (path : List String) (key : String) : Table → Option Table :=
  change false
    (fun t =>
      match t.get? key with
      | none => some (t.append key (.tables empty []))
      | some (.tables current before) => some (t.replace key (.tables empty (current :: before)))
      | some _ => none)
    path

/-- Adds a value below the header that was opened last. -/
def insertBelow (header path : List String) (key : String) (value : Json) : Table → Option Table :=
  change false (insertValue path key value) header

end Table

mutual

/-- The value that an item stands for, with the keys of a table in order. -/
def Item.toJson : Item → Json
  | .value j => j
  | .table t => t.toJson
  | .tables current before => .arr ((current.toJson :: tablesToJson before).reverse)

def Table.toJson : Table → Json
  | .mk _ _ entries => .obj (entriesToJson entries)

def tablesToJson : List Table → List Json
  | [] => []
  | t :: rest => t.toJson :: tablesToJson rest

def entriesToJson : List (String × Item) → List (String × Json)
  | [] => []
  | (key, item) :: rest => (key, item.toJson) :: entriesToJson rest

end

end DebugServer.Toml
