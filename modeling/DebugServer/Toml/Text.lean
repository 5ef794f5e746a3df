import DebugServer.Toml.Scalar

/-!
# Strings and comments of a configuration text
-/

namespace DebugServer.Toml

/-- Characters that stand for themselves in a line of text: no controls but the tab. -/
def isPlain (c : Char) : Bool :=
  c = '\t' || (0x20 ≤ c.val && c.val ≠ 0x7F)

def isSpace (c : Char) : Bool :=
  c = ' ' || c = '\t'

def skipSpaces (s : List Char) : List Char :=
  s.dropWhile isSpace

def newline : List Char → Option (List Char)
  | '\n' :: rest => some rest
  | '\r' :: '\n' :: rest => some rest
  | _ => none

def commentRest : List Char → List Char
  | '#' :: rest => rest.dropWhile isPlain
  | s => s

def skipBlankLines : List Char → List Char
  | [] => []
  | '\r' :: '\n' :: rest => skipBlankLines rest
  | c :: rest => if isSpace c || c = '\n' then skipBlankLines rest else c :: rest

def escape : List Char → Option (Char × List Char)
  | 'b' :: rest => some ('\x08', rest)
  | 't' :: rest => some ('\t', rest)
  | 'n' :: rest => some ('\n', rest)
  | 'f' :: rest => some ('\x0c', rest)
  | 'r' :: rest => some ('\r', rest)
  | '"' :: rest => some ('"', rest)
  | '\\' :: rest => some ('\\', rest)
  | 'u' :: rest => Text.codePoint? 4 rest
  | 'U' :: rest => Text.codePoint? 8 rest
  | _ => none

/-- Reads a string of one line after its opening quote; `taken` is read, last first. -/
def basicLine : (fuel : Nat) → (taken : List Char) → List Char → Option (List Char × List Char)
  | 0, _, _ => none
  | _, _, [] => none
  | fuel + 1, taken, c :: rest =>
    if c = '"' then some (taken.reverse, rest)
    else if c = '\\' then
      match escape rest with
      | some (d, rest) => basicLine fuel (d :: taken) rest
      | none => none
    else if isPlain c then basicLine fuel (c :: taken) rest
    else none

def literalLine (s : List Char) : Option (List Char × List Char) :=
  let (text, rest) := s.span fun c => isPlain c && c ≠ '\''
  match rest with
  | '\'' :: rest => some (text, rest)
  | _ => none

/-- The text after a backslash at the end of a line and the blanks behind it. -/
def lineContinuation (s : List Char) : Option (List Char) :=
  (newline (skipSpaces s)).map skipBlankLines

/-- Reads a string of several lines after its opening quotes. Up to two quotes can stand before
the closing ones. -/
def manyLines (quote : Char) (escapes : Bool) :
    (fuel : Nat) → (taken : List Char) → List Char → Option (List Char × List Char)
  | 0, _, _ => none
  | _, _, [] => none
  | fuel + 1, taken, c :: rest =>
    if c = quote then
      let run := (c :: rest).takeWhile (· = quote)
      if run.length < 3 then manyLines quote escapes fuel (c :: taken) rest
      else
        let extra := min (run.length - 3) 2
        some (taken.reverse ++ List.replicate extra quote, (c :: rest).drop (extra + 3))
    else if escapes && c = '\\' then
      match lineContinuation rest with
      | some rest => manyLines quote escapes fuel taken rest
      | none =>
        match escape rest with
        | some (d, rest) => manyLines quote escapes fuel (d :: taken) rest
        | none => none
    else
      match newline (c :: rest) with
      | some rest => manyLines quote escapes fuel ('\n' :: taken) rest
      | none => if isPlain c then manyLines quote escapes fuel (c :: taken) rest else none

/-- A line end directly behind the opening quotes does not count. -/
def afterOpening (s : List Char) : List Char :=
  (newline s).getD s

def lineString (fuel : Nat) : List Char → Option (List Char × List Char)
  | '"' :: rest => basicLine fuel [] rest
  | '\'' :: rest => literalLine rest
  | _ => none

def string (fuel : Nat) : List Char → Option (List Char × List Char)
  | '"' :: '"' :: '"' :: rest => manyLines '"' true fuel [] (afterOpening rest)
  | '\'' :: '\'' :: '\'' :: rest => manyLines '\'' false fuel [] (afterOpening rest)
  | s => lineString fuel s

end DebugServer.Toml
