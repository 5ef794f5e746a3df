import DebugServer.Json.Basic
import DebugServer.Text.Utf8

/-!
# Reading JSON text

A recursive descent over bytes that keeps the position, so that an error says where it was found.
A position is a line, from 1, and the number of bytes of that line already passed.
-/

namespace DebugServer.Json

inductive Fault where
  | endInList
  | endInObject
  | endInString
  | endInValue
  | expectedColon
  | expectedCommaOrBracket
  | expectedCommaOrBrace
  | expectedWord
  | expectedValue
  | badEscape
  | badNumber
  | numberOutOfRange
  | badCodePoint
  | controlInString
  | keyNotText
  | loneSurrogate
  | trailingComma
  | trailingText
  | cutSurrogate
  | tooDeep
deriving DecidableEq, Repr

def Fault.message : Fault → String
  | .endInList => "EOF while parsing a list"
  | .endInObject => "EOF while parsing an object"
  | .endInString => "EOF while parsing a string"
  | .endInValue => "EOF while parsing a value"
  | .expectedColon => "expected `:`"
  | .expectedCommaOrBracket => "expected `,` or `]`"
  | .expectedCommaOrBrace => "expected `,` or `\x7d`"
  | .expectedWord => "expected ident"
  | .expectedValue => "expected value"
  | .badEscape => "invalid escape"
  | .badNumber => "invalid number"
  | .numberOutOfRange => "number out of range"
  | .badCodePoint => "invalid unicode code point"
  | .controlInString => "control character (\\u0000-\\u001F) found while parsing a string"
  | .keyNotText => "key must be a string"
  | .loneSurrogate => "lone leading surrogate in hex escape"
  | .trailingComma => "trailing comma"
  | .trailingText => "trailing characters"
  | .cutSurrogate => "unexpected end of hex escape"
  | .tooDeep => "recursion limit exceeded"

structure SyntaxError where
  fault : Fault
  line : Nat
  column : Nat
deriving DecidableEq, Repr

def SyntaxError.message (e : SyntaxError) : String :=
  e.fault.message ++ " at line " ++ toString e.line ++ " column " ++ toString e.column

/-- The bytes not yet read, and where the first of them stands. -/
structure Cursor where
  rest : List UInt8
  line : Nat
  column : Nat

namespace Cursor

def start (bytes : List UInt8) : Cursor :=
  ⟨bytes, 1, 0⟩

def past (c : Cursor) (b : UInt8) (rest : List UInt8) : Cursor :=
  if b = 0x0A then ⟨rest, c.line + 1, 0⟩ else ⟨rest, c.line, c.column + 1⟩

def next? (c : Cursor) : Option (UInt8 × Cursor) :=
  match c.rest with
  | [] => none
  | b :: rest => some (b, c.past b rest)

def skip (c : Cursor) : Cursor :=
  match c.rest with
  | [] => c
  | b :: rest => c.past b rest

/-- An error at what has been read. -/
def behind (c : Cursor) (fault : Fault) : Except SyntaxError α :=
  .error ⟨fault, c.line, c.column⟩

/-- An error at the byte that comes next. -/
def ahead (c : Cursor) (fault : Fault) : Except SyntaxError α :=
  c.skip.behind fault

def skipBlanks (c : Cursor) : Cursor :=
  go c.rest c
where
  go : List UInt8 → Cursor → Cursor
    | [], c => c
    | b :: rest, c =>
      if b = 0x20 || b = 0x0A || b = 0x09 || b = 0x0D then go rest (c.past b rest) else c

def digits (c : Cursor) : List Nat × Cursor :=
  go c.rest c []
where
  go : List UInt8 → Cursor → List Nat → List Nat × Cursor
    | [], c, taken => (taken.reverse, c)
    | b :: rest, c, taken =>
      if 0x30 ≤ b && b ≤ 0x39 then go rest (c.past b rest) ((b.toNat - 0x30) :: taken)
      else (taken.reverse, c)

end Cursor

def readWord (value : Json) : List UInt8 → Cursor → Except SyntaxError (Json × Cursor)
  | [], c => .ok (value, c)
  | expected :: word, c =>
    match c.next? with
    | none => c.behind .endInValue
    | some (b, c) => if b = expected then readWord value word c else c.behind .expectedWord

/-! ### Numbers -/

def significandLimit : Nat := 0xFFFFFFFFFFFFFFFF

/-- Appends digits to a significand while it stays exact; the rest is counted, not kept. -/
def accumulate (significand : Nat) : List Nat → Nat × Nat
  | [] => (significand, 0)
  | d :: ds =>
    if significandLimit < significand * 10 + d then (significand, ds.length + 1)
    else accumulate (significand * 10 + d) ds

/-- Scales by a power of ten in steps that a double can hold; `none` when it would be infinite. -/
def scale (fuel : Nat) (f : Float) (exponent : Int) : Option Float :=
  if exponent.natAbs ≤ 308 then
    let power := Float.ofScientific 1 false exponent.natAbs
    if 0 ≤ exponent then
      let product := f * power
      if product.isInf then none else some product
    else some (f / power)
  else if f == 0 then some f
  else if 0 ≤ exponent then none
  else match fuel with
    | 0 => some 0
    | fuel + 1 => scale fuel (f / Float.ofScientific 1 false 308) (exponent + 308)

def double (negative : Bool) (significand : Nat) (exponent : Int) (c : Cursor) :
    Except SyntaxError (Number × Cursor) :=
  match scale 4 (UInt64.ofNat significand).toFloat exponent with
  | none => c.behind .numberOutOfRange
  | some f => .ok (.double (if negative then -f else f).toBits, c)

/-- An exponent that no longer fits 32 bits makes the number zero or out of range. -/
def exponentLimit : Nat := 0x7FFFFFFF

/-- Reads the digits of an exponent; `none` once they exceed the limit. -/
def readExponentDigits : List UInt8 → Cursor → Nat → Option Nat × Cursor
  | [], c, n => (some n, c)
  | b :: rest, c, n =>
    if 0x30 ≤ b && b ≤ 0x39 then
      let m := n * 10 + (b.toNat - 0x30)
      if exponentLimit < m then (none, c.past b rest)
      else readExponentDigits rest (c.past b rest) m
    else (some n, c)

def readExponent (negative : Bool) (significand : Nat) (exponent : Int) (c : Cursor) :
    Except SyntaxError (Number × Cursor) :=
  let (minus, c) := match c.rest with
    | 0x2B :: rest => (false, c.past 0x2B rest)
    | 0x2D :: rest => (true, c.past 0x2D rest)
    | _ => (false, c)
  match c.next? with
  | none => c.behind .endInValue
  | some (b, after) =>
    if 0x30 ≤ b && b ≤ 0x39 then
      match readExponentDigits after.rest after (b.toNat - 0x30) with
      | (some e, c) => double negative significand (if minus then exponent - e else exponent + e) c
      | (none, c) =>
        if significand ≠ 0 && !minus then c.behind .numberOutOfRange
        else .ok (.double (if negative then (-0.0 : Float) else 0.0).toBits, c.digits.2)
    else after.behind .badNumber

def readFraction (negative : Bool) (significand : Nat) (exponent : Int) (c : Cursor) :
    Except SyntaxError (Number × Cursor) :=
  let (ds, after) := c.digits
  if ds.isEmpty then
    if c.rest.isEmpty then c.ahead .endInValue else c.ahead .badNumber
  else
    let (significand, dropped) := accumulate significand ds
    let exponent := exponent - (ds.length - dropped : Nat)
    match after.rest with
    | b :: rest =>
      if b = 0x65 || b = 0x45 then readExponent negative significand exponent (after.past b rest)
      else double negative significand exponent after
    | [] => double negative significand exponent after

def readNumberTail (negative : Bool) (significand dropped : Nat) (c : Cursor) :
    Except SyntaxError (Number × Cursor) :=
  let whole : Except SyntaxError (Number × Cursor) :=
    if 0 < dropped then double negative significand dropped c
    else if !negative then .ok (.int significand, c)
    else if significand = 0 || 0x8000000000000000 < significand then double negative significand 0 c
    else .ok (.int (-significand), c)
  match c.rest with
  | b :: rest =>
    if b = 0x2E then readFraction negative significand dropped (c.past b rest)
    else if b = 0x65 || b = 0x45 then readExponent negative significand dropped (c.past b rest)
    else whole
  | [] => whole

def readNumber (negative : Bool) (c : Cursor) : Except SyntaxError (Number × Cursor) :=
  match c.next? with
  | none => c.behind .endInValue
  | some (b, after) =>
    if b = 0x30 then
      match after.rest with
      | d :: _ =>
        if 0x30 ≤ d && d ≤ 0x39 then after.ahead .badNumber else readNumberTail negative 0 0 after
      | [] => readNumberTail negative 0 0 after
    else if 0x31 ≤ b && b ≤ 0x39 then
      let (ds, after) := c.digits
      let (significand, dropped) := accumulate 0 ds
      readNumberTail negative significand dropped after
    else after.behind .badNumber

/-! ### Strings -/

def hexValue? (b : UInt8) : Option Nat :=
  if 0x30 ≤ b && b ≤ 0x39 then some (b.toNat - 0x30)
  else if 0x41 ≤ b && b ≤ 0x46 then some (b.toNat - 0x37)
  else if 0x61 ≤ b && b ≤ 0x66 then some (b.toNat - 0x57)
  else none

def readUnit (c : Cursor) : Except SyntaxError (Nat × Cursor) :=
  match c.rest with
  | p :: q :: r :: s :: rest =>
    let c := (((c.past p []).past q []).past r []).past s rest
    match hexValue? p, hexValue? q, hexValue? r, hexValue? s with
    | some p, some q, some r, some s => .ok (((p * 16 + q) * 16 + r) * 16 + s, c)
    | _, _, _, _ => c.behind .badEscape
  | short => (short.foldl (fun c b => c.past b []) c).behind .endInString

/-- One byte of the fixed text between the two units of a surrogate pair. -/
def readPairByte (expected : UInt8) (c : Cursor) : Except SyntaxError Cursor :=
  match c.next? with
  | none => c.behind .endInString
  | some (b, after) => if b = expected then .ok after else after.behind .cutSurrogate

/-- The character of a `\u` escape, of which surrogates take two. -/
def readEscapedUnit (c : Cursor) : Except SyntaxError (Char × Cursor) := do
  let (n, c) ← readUnit c
  if 0xDC00 ≤ n && n ≤ 0xDFFF then c.behind .loneSurrogate
  else if n < 0xD800 || 0xDBFF < n then pure (Char.ofNat n, c)
  else
    let c ← readPairByte 0x5C c
    let c ← readPairByte 0x75 c
    let (m, c) ← readUnit c
    if m < 0xDC00 || 0xDFFF < m then c.behind .loneSurrogate
    else pure (Char.ofNat ((n - 0xD800) * 1024 + (m - 0xDC00) + 0x10000), c)

def readEscape (c : Cursor) : Except SyntaxError (List UInt8 × Cursor) :=
  match c.next? with
  | none => c.behind .endInString
  | some (b, c) =>
    if b = 0x22 || b = 0x5C || b = 0x2F then .ok ([b], c)
    else if b = 0x62 then .ok ([0x08], c)
    else if b = 0x66 then .ok ([0x0C], c)
    else if b = 0x6E then .ok ([0x0A], c)
    else if b = 0x72 then .ok ([0x0D], c)
    else if b = 0x74 then .ok ([0x09], c)
    else if b = 0x75 then do
      let (char, c) ← readEscapedUnit c
      pure (String.utf8EncodeChar char, c)
    else c.behind .badEscape

/-- The bytes of a string after its opening quote, and the cursor behind its closing quote; `taken`
holds the bytes so far, last first. -/
def readStringBytes : Nat → Cursor → List UInt8 → Except SyntaxError (List UInt8 × Cursor)
  | 0, c, _ => c.behind .endInString
  | fuel + 1, c, taken =>
    match c.next? with
    | none => c.behind .endInString
    | some (b, after) =>
      if b = 0x22 then .ok (taken.reverse, after)
      else if b = 0x5C then
        match readEscape after with
        | .ok (bytes, after) => readStringBytes fuel after (bytes.reverse ++ taken)
        | .error e => .error e
      else if b < 0x20 then after.behind .controlInString
      else readStringBytes fuel after (b :: taken)

/-- Reads a string of fewer than `fuel` bytes after its opening quote. That its bytes are ill-formed
shows at its end, from where the ill-formed unit is counted back, each escape as the bytes that it
stands for. -/
def readString (fuel : Nat) (c : Cursor) : Except SyntaxError (String × Cursor) :=
  match readStringBytes fuel c [] with
  | .error e => .error e
  | .ok (bytes, after) =>
    match Text.decode? bytes with
    | some chars => .ok (String.ofList chars, after)
    | none =>
      let back := bytes.length - Text.wellFormedSize bytes
      .error ⟨.badCodePoint, after.line, after.column - back⟩

/-! ### Values -/

mutual

/-- Reads one value that may still nest `depth` levels; `fuel` bounds the steps, and is more than
the number of bytes that are left. -/
def readValue : (fuel depth : Nat) → Cursor → Except SyntaxError (Json × Cursor)
  | 0, _, c => c.ahead .endInValue
  | fuel + 1, depth, c =>
    let c := c.skipBlanks
    match c.next? with
    | none => c.ahead .endInValue
    | some (b, after) =>
      if b = 0x6E then readWord .null [0x75, 0x6C, 0x6C] after
      else if b = 0x74 then readWord (.bool true) [0x72, 0x75, 0x65] after
      else if b = 0x66 then readWord (.bool false) [0x61, 0x6C, 0x73, 0x65] after
      else if b = 0x2D then (readNumber true after).map fun (n, c) => (.num n, c)
      else if 0x30 ≤ b && b ≤ 0x39 then (readNumber false c).map fun (n, c) => (.num n, c)
      else if b = 0x22 then
        (readString fuel after).map fun (s, c) => (.str s, c)
      else if b = 0x5B then
        if depth ≤ 1 then c.ahead .tooDeep else readItems fuel (depth - 1) true after []
      else if b = 0x7B then
        if depth ≤ 1 then c.ahead .tooDeep else readMembers fuel (depth - 1) true after []
      else c.ahead .expectedValue

/-- Reads the items of a list up to its bracket; `taken` holds the items so far, last first. -/
def readItems : (fuel depth : Nat) → (first : Bool) → Cursor → List Json →
    Except SyntaxError (Json × Cursor)
  | 0, _, _, c, _ => c.ahead .endInList
  | fuel + 1, depth, first, c, taken =>
    let c := c.skipBlanks
    match c.next? with
    | none => c.ahead .endInList
    | some (b, after) =>
      if b = 0x5D then .ok (.arr taken.reverse, after)
      else if first then
        match readValue fuel depth c with
        | .ok (item, c) => readItems fuel depth false c (item :: taken)
        | .error e => .error e
      else if b = 0x2C then
        let c := after.skipBlanks
        match c.next? with
        | none => c.ahead .endInValue
        | some (b, _) =>
          if b = 0x5D then c.ahead .trailingComma
          else match readValue fuel depth c with
            | .ok (item, c) => readItems fuel depth false c (item :: taken)
            | .error e => .error e
      else c.ahead .expectedCommaOrBracket

def readMembers : (fuel depth : Nat) → (first : Bool) → Cursor → List (String × Json) →
    Except SyntaxError (Json × Cursor)
  | 0, _, _, c, _ => c.ahead .endInObject
  | fuel + 1, depth, first, c, taken =>
    let c := c.skipBlanks
    match c.next? with
    | none => c.ahead .endInObject
    | some (b, after) =>
      if b = 0x7D then .ok (.obj taken, after)
      else if first then
        if b = 0x22 then
          match readMember fuel depth after taken with
          | .ok (taken, c) => readMembers fuel depth false c taken
          | .error e => .error e
        else c.ahead .keyNotText
      else if b = 0x2C then
        let c := after.skipBlanks
        match c.next? with
        | none => c.ahead .endInValue
        | some (b, after) =>
          if b = 0x22 then
            match readMember fuel depth after taken with
            | .ok (taken, c) => readMembers fuel depth false c taken
            | .error e => .error e
          else if b = 0x7D then c.ahead .trailingComma
          else c.ahead .keyNotText
      else c.ahead .expectedCommaOrBrace

def readMember : (fuel depth : Nat) → Cursor → List (String × Json) →
    Except SyntaxError (List (String × Json) × Cursor)
  | 0, _, c, _ => c.ahead .endInObject
  | fuel + 1, depth, c, taken =>
    match readString fuel c with
    | .error e => .error e
    | .ok (key, c) =>
      let c := c.skipBlanks
      match c.next? with
      | none => c.ahead .endInObject
      | some (b, after) =>
        if b = 0x3A then
          match readValue fuel depth after with
          | .ok (value, c) => .ok (insertField key value taken, c)
          | .error e => .error e
        else c.ahead .expectedColon

end

def parse (limit : Nat) (bytes : List UInt8) : Except SyntaxError Json :=
  match readValue (3 * bytes.length + 3) limit (Cursor.start bytes) with
  | .error e => .error e
  | .ok (value, c) =>
    let c := c.skipBlanks
    if c.rest.isEmpty then .ok value else c.ahead .trailingText

/-- Messages nest at most 127 levels deep. -/
def nestingLimit : Nat := 128

end DebugServer.Json
