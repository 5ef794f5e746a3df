import DebugServer.Log.Condition
import DebugServer.Log.Record
import DebugServer.Text.Alphanumeric
import DebugServer.Text.Blank
import DebugServer.Text.Slice

/-!
# Log directives

A directive says up to which level records are let through, and which records it speaks about:
those of some targets, with some fields, within some span. It is written
`target[span\x7bfield\x7d]=level`, where every part may be left out.
-/

namespace DebugServer.Log

/-- What is let through: nothing, or every record up to a level. -/
inductive Threshold where
  | off
  | upTo (level : Level)
deriving DecidableEq, Repr, Inhabited

namespace Threshold

/-- All thresholds; a threshold can also be written as its position in this list. -/
def all : List Threshold :=
  [.off, .upTo .error, .upTo .warn, .upTo .info, .upTo .debug, .upTo .trace]

def everything : Threshold :=
  .upTo .trace

def name : Threshold → String
  | .off => "off"
  | .upTo level => level.name

def ofText? (s : List Char) : Option Threshold :=
  match Decimal.readNatural s with
  | .ok n => all[n]?
  | .error _ => all.find? fun t => t.name = Text.lowered (String.ofList s)

def admits : Threshold → Level → Bool
  | .off, _ => false
  | .upTo limit, level => level.rank ≤ limit.rank

end Threshold

structure Directive where
  /-- How the targets that this is about begin; without it every target is meant. -/
  target : Option String
  span : Option String
  fields : List Condition
  threshold : Threshold
deriving DecidableEq, Repr, Inhabited

namespace Directive

def ofThreshold (t : Threshold) : Directive :=
  ⟨none, none, [], t⟩

def fieldNames (d : Directive) : List String :=
  d.fields.map (·.name)

def isDynamic (d : Directive) : Bool :=
  d.span.isSome || !d.fields.isEmpty

/-- Whether the directive can be decided without looking at spans or at values. -/
def isStatic (d : Directive) : Bool :=
  d.span.isNone && d.fields.all (·.value.isNone)

def sameSubject (d e : Directive) : Bool :=
  d.target = e.target && d.span = e.span && d.fields = e.fields

def scopeText (d : Directive) : String :=
  let conditions :=
    if d.fields.isEmpty then ""
    else "\x7b" ++ ",".intercalate (d.fields.map (·.text)) ++ "\x7d"
  if d.isDynamic then "[" ++ d.span.getD "" ++ conditions ++ "]" else ""

def text (d : Directive) : String :=
  let subject := d.target.getD "" ++ d.scopeText
  if d.target.isSome || d.isDynamic then subject ++ "=" ++ d.threshold.name else d.threshold.name

/-- Whether a static directive is about a record; the message counts as a field. -/
def covers (d : Directive) (r : Record) : Bool :=
  let names := "message" :: r.fields.map (·.1)
  (d.target.getD "").toList.isPrefixOf r.target.toList && d.fieldNames.all names.contains

def targetLength (d : Directive) : Nat :=
  match d.target with
  | none => 0
  | some start => start.length + 1

/-- Of two directives that cover a record, the one with less of the target is weaker; then the one
with fewer fields; then the one whose fields come first in order. -/
def isWeaker (d e : Directive) : Bool :=
  if d.targetLength ≠ e.targetLength then d.targetLength < e.targetLength
  else if d.fields.length ≠ e.fields.length then d.fields.length < e.fields.length
  else List.lex d.fieldNames e.fieldNames fun a b => decide (a < b)

/-! ### Reading -/

/-- A directive without an equals sign: a threshold, or a target that is let through wholly. -/
def ofWord (s : List Char) : Directive :=
  match Threshold.ofText? s with
  | some t => ofThreshold t
  | none => ⟨some (String.ofList s), none, [], .everything⟩

/-- A directive without brackets starts with a letter, a number or one of these. -/
def startsWith (c : Char) : Bool :=
  c = '-' || c = ':' || c = '_' || Text.isAlphanumeric c

/-- What is being read; the numbers say where it began. -/
inductive Part where
  | start
  | word
  | span (first : Nat)
  | field (first : Nat)
  | afterField
  | afterSpan
  | threshold (first : Nat)
deriving DecidableEq, Repr

/-- What has been read of a directive, up to the byte `offset`. -/
structure Reading where
  part : Part
  offset : Nat
  directive : Directive

def Reading.start : Reading :=
  ⟨.start, 0, ⟨none, none, [], .everything⟩⟩

def Reading.cut? (text : List Char) (first : Nat) (r : Reading) : Option String :=
  (Text.slice? first r.offset text).map String.ofList

def Reading.step? (text : List Char) (r : Reading) (c : Char) : Option Reading :=
  let d := r.directive
  let next := r.offset + c.utf8Size
  match r.part with
  | .start =>
    if c = '[' then some ⟨.span next, next, d⟩
    else if startsWith c then some ⟨.word, next, d⟩
    else none
  | .word =>
    if c = '=' then
      (r.cut? text 0).map fun target => ⟨.threshold next, next, { d with target }⟩
    else if c = '[' then
      (r.cut? text 0).map fun target => ⟨.span next, next, { d with target }⟩
    else some ⟨.word, next, d⟩
  | .span first =>
    if c = ']' then
      (r.cut? text first).map fun span => ⟨.afterSpan, next, { d with span }⟩
    else if c = '\x7b' then
      (r.cut? text first).map fun span =>
        ⟨.field next, next, if span = "" then d else { d with span }⟩
    else some ⟨.span first, next, d⟩
  | .field first =>
    if c = '\x7d' then
      match r.cut? text first with
      | none | some "" => none
      | some field =>
        (Condition.ofText? field.toList).map fun condition =>
          ⟨.afterField, next, { d with fields := d.fields ++ [condition] }⟩
    else some ⟨.field first, next, d⟩
  | .afterField => if c = ']' then some ⟨.afterSpan, next, d⟩ else none
  | .afterSpan => if c = '=' then some ⟨.threshold next, next, d⟩ else none
  | .threshold first => some ⟨.threshold first, next, d⟩

/-- The directive at the end of `text`, where no part may be left open. -/
def Reading.finish? (text : List Char) (r : Reading) : Option Directive :=
  match r.part with
  | .word => some (ofWord text)
  | .afterSpan => some r.directive
  | .threshold first =>
    match Text.dropBytes? first text with
    | none => none
    | some [] => some r.directive
    | some name => (Threshold.ofText? name).map fun t => { r.directive with threshold := t }
  | _ => none

/-- Reads one directive. The parts are found in the text without white space at its ends, but they
are cut out of the whole text by their offsets; white space in front therefore shifts the cuts. -/
def ofText? (s : List Char) : Option Directive :=
  ((Text.trim s).foldlM (Reading.step? s) .start).bind (·.finish? s)

end Directive

end DebugServer.Log
