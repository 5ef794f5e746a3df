import DebugServer.Toml.Table
import DebugServer.Toml.Text

/-!
# Reading a configuration text

The values, keys and headers of a text, and the tree that they build. Only whether a text is well
formed is decided here, not what is wrong with it. The fuel of a reader is more than the number of
characters that are left.
-/

namespace DebugServer.Toml

/-- Values and keys nest less deep than this. -/
def depthLimit : Nat := 80

def isBare (c : Char) : Bool :=
  Decimal.isDigit c || ('a' ≤ c && c ≤ 'z') || ('A' ≤ c && c ≤ 'Z') || c = '-' || c = '_'

def simpleKey (fuel : Nat) (s : List Char) : Option (String × List Char) :=
  match s with
  | '"' :: _ | '\'' :: _ => (lineString fuel s).map fun (key, rest) => (String.ofList key, rest)
  | _ =>
    let (key, rest) := s.span isBare
    if key.isEmpty then none else some (String.ofList key, rest)

def keyParts : (fuel : Nat) → List Char → Option (List String × List Char)
  | 0, _ => none
  | fuel + 1, s =>
    match simpleKey fuel (skipSpaces s) with
    | none => none
    | some (part, s) =>
      match skipSpaces s with
      | '.' :: rest => (keyParts fuel rest).map fun (parts, rest) => (part :: parts, rest)
      | rest => some ([part], rest)

/-- A key as the path that leads to its last part. -/
def key (fuel : Nat) (s : List Char) : Option ((List String × String) × List Char) :=
  match keyParts fuel s with
  | none => none
  | some (parts, rest) =>
    match parts.getLast? with
    | none => none
    | some last => if parts.length < depthLimit then some ((parts.dropLast, last), rest) else none

def skipTrivia : (fuel : Nat) → List Char → Option (List Char)
  | 0, _ => none
  | fuel + 1, s =>
    match skipBlankLines s with
    | '#' :: rest =>
      match newline (rest.dropWhile isPlain) with
      | some rest => skipTrivia fuel rest
      | none => none
    | rest => some rest

mutual

def value : (fuel depth : Nat) → List Char → Option (Json × List Char)
  | 0, _, _ => none
  | fuel + 1, depth, s =>
    match s with
    | '"' :: _ | '\'' :: _ =>
      (string fuel s).map fun (text, rest) => (.str (String.ofList text), rest)
    | '[' :: rest => if depth ≤ 1 then none else array fuel (depth - 1) [] rest
    | '\x7b' :: rest => if depth ≤ 1 then none else inlineTable fuel (depth - 1) rest
    | 't' :: 'r' :: 'u' :: 'e' :: rest => some (.bool true, rest)
    | 'f' :: 'a' :: 'l' :: 's' :: 'e' :: rest => some (.bool false, rest)
    | _ => numberOrDate s

/-- Reads the values of an array; `taken` are read, last first. -/
def array : (fuel depth : Nat) → (taken : List Json) → List Char → Option (Json × List Char)
  | 0, _, _, _ => none
  | fuel + 1, depth, taken, s =>
    match skipTrivia fuel s with
    | none => none
    | some (']' :: rest) => some (.arr taken.reverse, rest)
    | some s =>
      match value fuel depth s with
      | none => none
      | some (j, s) =>
        match skipTrivia fuel s with
        | some (',' :: rest) => array fuel depth (j :: taken) rest
        | some (']' :: rest) => some (.arr (j :: taken).reverse, rest)
        | _ => none

def inlineTable : (fuel depth : Nat) → List Char → Option (Json × List Char)
  | 0, _, _ => none
  | fuel + 1, depth, s =>
    match skipSpaces s with
    | '\x7d' :: rest => some (.obj [], rest)
    | s => inlineEntries fuel depth .empty s

/-- Reads the entries of an inline table, of which there is at least one more. -/
def inlineEntries : (fuel depth : Nat) → Table → List Char → Option (Json × List Char)
  | 0, _, _, _ => none
  | fuel + 1, depth, t, s =>
    match key fuel s with
    | some ((path, k), '=' :: s) =>
      match value fuel depth (skipSpaces s) with
      | none => none
      | some (j, s) =>
        match t.insertValue path k j, skipSpaces s with
        | some t, ',' :: rest => inlineEntries fuel depth t rest
        | some t, '\x7d' :: rest => some (t.toJson, rest)
        | _, _ => none
    | _ => none

end

/-- The text after the end of an expression: blanks, a comment and a line end. -/
def lineEnd (s : List Char) : Option (List Char) :=
  match commentRest (skipSpaces s) with
  | [] => some []
  | s => newline s

/-- A text that is being read: the tree so far, and the header that values belong to. -/
structure Reading where
  root : Table
  header : List String

def header (fuel : Nat) (isArray : Bool) (r : Reading) (s : List Char) :
    Option (Reading × List Char) :=
  match key fuel s with
  | none => none
  | some ((path, k), s) =>
    let close := if isArray then [']', ']'] else [']']
    if close.isPrefixOf s then
      (if isArray then r.root.openArray path k else r.root.openTable path k).map fun root =>
        (⟨root, path ++ [k]⟩, s.drop close.length)
    else none

def expression (fuel : Nat) (r : Reading) (s : List Char) : Option (Reading × List Char) :=
  match s with
  | '#' :: _ => some (r, s)
  | '\r' :: _ | '\n' :: _ => some (r, s)
  | '[' :: '[' :: rest => header fuel true r rest
  | '[' :: rest => header fuel false r rest
  | _ =>
    match key fuel s with
    | some ((path, k), '=' :: s) =>
      match value (2 * fuel) depthLimit (skipSpaces s) with
      | none => none
      | some (j, s) =>
        (r.root.insertBelow r.header path k j).map fun root => (⟨root, r.header⟩, s)
    | _ => none

def expressions : (fuel : Nat) → Reading → List Char → Option Table
  | 0, _, _ => none
  | fuel + 1, r, s =>
    match skipSpaces s with
    | [] => some r.root
    | s =>
      match expression (fuel + 1) r s with
      | none => none
      | some (r, s) => (lineEnd s).bind (expressions fuel r)

/-- The tree of a well-formed text, which may start with a byte order mark. -/
def parse? (s : String) : Option Json :=
  let s := match s.toList with
    | '\uFEFF' :: rest => rest
    | s => s
  (expressions (s.length + 1) ⟨.empty, []⟩ s).map Table.toJson

end DebugServer.Toml
