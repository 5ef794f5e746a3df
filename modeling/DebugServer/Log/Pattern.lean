import DebugServer.Text.Alphanumeric
import DebugServer.Text.Hexadecimal

/-!
# Patterns of values

Whether a text is a regular expression that can be matched by a finite automaton: groups,
alternatives, repetitions and classes, but no counted repetition, look-around, back reference or
word boundary. What a pattern matches is not defined here.
-/

namespace DebugServer.Log.Pattern

/-- What an escape stands for: a character, a set of characters, or a place in the text. -/
inductive Escape where
  | char (c : Char)
  | set
  | place
deriving DecidableEq, Repr

def categories : List Char :=
  ['c', 'l', 'm', 'n', 'p', 's', 'z']

def escape? : List Char → Option (Escape × List Char)
  | [] => none
  | 'p' :: c :: rest | 'P' :: c :: rest =>
    if categories.contains c.toLower then some (.set, rest) else none
  | c :: rest =>
    if c = 'x' then (Text.codePoint? 2 rest).map fun (d, rest) => (.char d, rest)
    else if c = 'u' then (Text.codePoint? 4 rest).map fun (d, rest) => (.char d, rest)
    else if c = 'U' then (Text.codePoint? 8 rest).map fun (d, rest) => (.char d, rest)
    else if ['d', 's', 'w', 'D', 'S', 'W'].contains c then some (.set, rest)
    else if c = 'A' || c = 'z' then some (.place, rest)
    else if c = 'a' then some (.char '\x07', rest)
    else if c = 'f' then some (.char '\x0c', rest)
    else if c = 't' then some (.char '\t', rest)
    else if c = 'n' then some (.char '\n', rest)
    else if c = 'r' then some (.char '\r', rest)
    else if c = 'v' then some (.char '\x0b', rest)
    else if c.isAlphanum || c = '<' || c = '>' || 0x80 ≤ c.val then none
    else some (.char c, rest)

/-! ### Classes -/

/-- A character of a class, or `none` for a set. -/
def classChar? : List Char → Option (Option Char × List Char)
  | [] => none
  | '\\' :: rest =>
    match escape? rest with
    | some (.char c, rest) => some (some c, rest)
    | some (.set, rest) => some (none, rest)
    | _ => none
  | c :: rest => some (some c, rest)

/-- Reads a range, or a character that starts none: one before a closing bracket, another hyphen
or anything but a hyphen. -/
def classRange? (s : List Char) : Option (List Char) :=
  match classChar? s with
  | none => none
  | some (first, '-' :: c :: rest) =>
    if c = ']' || c = '-' then some ('-' :: c :: rest)
    else match first, classChar? (c :: rest) with
      | some a, some (some b, rest) => if a ≤ b then some rest else none
      | _, _ => none
  | some (_, rest) => some rest

/-- The text after the start of a class: a caret, hyphens that stand for themselves, or else a
closing bracket that does. -/
def afterClassStart (s : List Char) : List Char :=
  let s := match s with
    | '^' :: rest => rest
    | s => s
  match s with
  | '-' :: rest => rest.dropWhile (· = '-')
  | ']' :: rest => rest
  | s => s

def classNames : List String :=
  ["alnum", "alpha", "ascii", "blank", "cntrl", "digit", "graph", "lower", "print", "punct",
    "space", "upper", "word", "xdigit"]

def afterNamedClass? : List Char → Option (List Char)
  | ':' :: rest =>
    let name := match rest with
      | '^' :: rest => rest
      | rest => rest
    match name.dropWhile (· ≠ ':') with
    | ':' :: ']' :: rest =>
      if classNames.contains (String.ofList (name.takeWhile (· ≠ ':'))) then some rest else none
    | _ => none
  | _ => none

/-- The text after a class of which `depth` brackets are open. -/
def afterClass? : (fuel depth : Nat) → List Char → Option (List Char)
  | 0, _, _ => none
  | fuel + 1, depth, s =>
    match s with
    | ']' :: rest => if depth ≤ 1 then some rest else afterClass? fuel (depth - 1) rest
    | '[' :: rest =>
      match afterNamedClass? rest with
      | some rest => afterClass? fuel depth rest
      | none => afterClass? fuel (depth + 1) (afterClassStart rest)
    | '&' :: '&' :: rest | '-' :: '-' :: rest | '~' :: '~' :: rest => afterClass? fuel depth rest
    | s => (classRange? s).bind (afterClass? fuel depth)

/-! ### Groups -/

/-- What an opening parenthesis starts: a group, which may have a name, or flags for what
follows. -/
inductive Opening where
  | group (name : Option String)
  | flags
deriving DecidableEq, Repr

def flagNames : List Char :=
  ['i', 'm', 's', 'U', 'u', 'x', 'R', '-']

/-- Whether flags can be set: each is known and there once, and a hyphen has one behind it. -/
def areFlags (s : List Char) : Bool :=
  s.all flagNames.contains && s.Nodup && s.getLast? ≠ some '-'

def isNameStart (c : Char) : Bool :=
  c = '_' || (Text.isAlphanumeric c && !c.isDigit)

def isNameChar (c : Char) : Bool :=
  c = '_' || c = '.' || c = '[' || c = ']' || Text.isAlphanumeric c

def groupName? (s : List Char) : Option (Opening × List Char) :=
  match s.takeWhile isNameChar, s.dropWhile isNameChar with
  | c :: name, '>' :: rest =>
    if isNameStart c then some (.group (some (String.ofList (c :: name))), rest) else none
  | _, _ => none

def opening? : List Char → Option (Opening × List Char)
  | '?' :: 'P' :: '<' :: rest => groupName? rest
  | '?' :: '<' :: rest => groupName? rest
  | '?' :: rest =>
    let flags := rest.takeWhile fun c => c ≠ ':' && c ≠ ')'
    match rest.dropWhile fun c => c ≠ ':' && c ≠ ')' with
    | ':' :: rest => if areFlags flags then some (.group none, rest) else none
    | ')' :: rest => if areFlags flags && !flags.isEmpty then some (.flags, rest) else none
    | _ => none
  | s => some (.group none, s)

/-! ### Patterns -/

/-- What has been read of a pattern: how many groups are open, whether a repetition can follow, and
the names of groups. -/
structure Progress where
  groups : Nat
  repeatable : Bool
  names : List String
deriving Repr

def Progress.item (p : Progress) : Progress :=
  { p with repeatable := true }

def Progress.fresh (p : Progress) : Progress :=
  { p with repeatable := false }

/-- Goes on after the start of a group; no name is given twice. -/
def Progress.opened (p : Progress) : Opening → Option Progress
  | .flags => some p.fresh
  | .group none => some { p.fresh with groups := p.groups + 1 }
  | .group (some name) =>
    if p.names.contains name then none
    else some { p.fresh with groups := p.groups + 1, names := name :: p.names }

def Progress.closed (p : Progress) : Option Progress :=
  if p.groups = 0 then none else some { p.item with groups := p.groups - 1 }

def step? (fuel : Nat) (p : Progress) (c : Char) (rest : List Char) :
    Option (Progress × List Char) :=
  if c = '(' then
    (opening? rest).bind fun (o, rest) => (p.opened o).map fun p => (p, rest)
  else if c = ')' then p.closed.map fun p => (p, rest)
  else if c = '|' then some (p.fresh, rest)
  else if c = '[' then (afterClass? fuel 1 (afterClassStart rest)).map fun rest => (p.item, rest)
  else if c = '?' || c = '*' || c = '+' then
    if p.repeatable then
      some (p, match rest with
        | '?' :: rest => rest
        | rest => rest)
    else none
  else if c = '\x7b' then none
  else if c = '\\' then (escape? rest).map fun (_, rest) => (p.item, rest)
  else some (p.item, rest)

/-- Whether the rest of a pattern can be read; `fuel` is more than its length. -/
def isPattern : (fuel : Nat) → Progress → List Char → Bool
  | 0, _, _ => false
  | _, p, [] => p.groups = 0
  | fuel + 1, p, c :: rest =>
    match step? fuel p c rest with
    | none => false
    | some (p, rest) => isPattern fuel p rest

def isWellFormed (s : List Char) : Bool :=
  isPattern (s.length + 1) ⟨0, false, []⟩ s

end DebugServer.Log.Pattern
