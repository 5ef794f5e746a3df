import DebugServer.Config.Basic
import DebugServer.Text.Split

/-!
# Command line arguments

A program to debug, or its text, and what overrides the configuration. An option takes its value
behind an equals sign or as the next argument. The value of an argument is only looked at when the
argument after it has been recognised, so of two faults the one in the later argument can win.
-/

namespace DebugServer

inductive ValueOption where
  | config
  | sourceAlias
  | eval
deriving DecidableEq, Repr

inductive Flag where
  | value (option : ValueOption)
  | stopAtEntry
  | help
  | version
deriving DecidableEq, Repr

namespace Flag

def ofLong? : List Char → Option Flag := fun s =>
  match String.ofList s with
  | "config" => some (.value .config)
  | "source-alias" => some (.value .sourceAlias)
  | "eval" => some (.value .eval)
  | "stop-at-entry" => some .stopAtEntry
  | "help" => some .help
  | "version" => some .version
  | _ => none

def ofShort? (c : Char) : Option Flag :=
  if c = 'h' then some .help
  else if c = 'V' then some .version
  else none

end Flag

/-- Why arguments are not taken; asking for help or for the version is one of the reasons. -/
inductive ArgumentError where
  | help
  | version
  | unknown
  | conflict
  /-- A value is missing, or empty where it must not be. -/
  | value
  /-- A flag without a value is given one. -/
  | surplusValue
deriving DecidableEq, Repr

namespace ArgumentError

def exitCode : ArgumentError → Nat
  | .help | .version => 0
  | _ => 2

def message : ArgumentError → String
  | .help =>
    "Usage: debug-server [--config PATH] [--stop-at-entry] [--source-alias PATH] " ++
      "[--eval SOURCE | PROGRAM]"
  | .version => "debug-server 0.1.0"
  | .unknown => "error: unknown argument"
  | .conflict => "error: arguments that cannot be used together"
  | .value => "error: missing or invalid value"
  | .surplusValue => "error: value for a flag that takes none"

end ArgumentError

structure Arguments where
  config : Option String
  stopAtEntry : Bool
  sourceAlias : Option String
  eval : Option String
  program : Option String
deriving DecidableEq, Repr, Inhabited

inductive PendingArgument where
  | none
  | option (option : ValueOption) (value : Option String)
  | program (path : String)
deriving DecidableEq, Repr

structure ArgumentReader where
  arguments : Arguments
  pending : PendingArgument
  named : Bool

namespace ArgumentReader

abbrev Result := Except ArgumentError ArgumentReader

def start : ArgumentReader :=
  ⟨⟨none, false, none, none, none⟩, .none, false⟩

/-- Paths must not be empty. -/
def nonempty (s : String) : Except ArgumentError String :=
  if s = "" then .error .value else .ok s

/-- Gives an option its value, which it can have once. -/
def setOption (a : Arguments) (option : ValueOption) (value : String) :
    Except ArgumentError Arguments :=
  match option with
  | .config =>
    if a.config.isSome then .error .conflict
    else (nonempty value).map fun path => { a with config := some path }
  | .sourceAlias =>
    if a.sourceAlias.isSome then .error .conflict else .ok { a with sourceAlias := some value }
  | .eval => if a.eval.isSome then .error .conflict else .ok { a with eval := some value }

def settle (r : ArgumentReader) : Result :=
  match r.pending with
  | .none => .ok r
  | .option _ none => .error .value
  | .option option (some value) =>
    (setOption r.arguments option value).map fun a => ⟨a, .none, r.named⟩
  | .program path =>
    (nonempty path).map fun path => ⟨{ r.arguments with program := some path }, .none, r.named⟩

def takeFlag (r : ArgumentReader) (flag : Flag) (value : Option String) : Result :=
  match flag, value with
  | .value option, none => r.settle.map fun r => { r with pending := .option option none }
  | .value option, some value => do
    let r ← r.settle
    return { r with arguments := ← setOption r.arguments option value }
  | _, some _ => .error .surplusValue
  | .stopAtEntry, none => do
    let r ← r.settle
    if r.arguments.stopAtEntry then .error .conflict
    else return { r with arguments := { r.arguments with stopAtEntry := true } }
  | .help, none => do
    let _ ← r.settle
    .error .help
  | .version, none => do
    let _ ← r.settle
    .error .version

/-- Takes a word that is no flag as the name of the program, of which there is one at most. -/
def takeProgram (r : ArgumentReader) (word : String) : Result :=
  if r.named then .error .unknown
  else r.settle.map fun r => { r with pending := .program word, named := true }

def takeWord (r : ArgumentReader) (word : String) : Result :=
  match r.pending with
  | .option option none => .ok { r with pending := .option option (some word) }
  | _ => r.takeProgram word

/-- Takes what follows two hyphens: a name, and a value behind the first equals sign. -/
def takeLong (r : ArgumentReader) (s : List Char) : Result :=
  let (name, value) := match Text.splitFirst '=' s with
    | some (name, value) => (name, some (String.ofList value))
    | none => (s, none)
  match Flag.ofLong? name with
  | some flag => r.takeFlag flag value
  | none => .error .unknown

def take (r : ArgumentReader) (word : String) : Result :=
  match word.toList with
  | '-' :: '-' :: rest => r.takeLong rest
  | '-' :: c :: _ =>
    match Flag.ofShort? c with
    | some flag => r.takeFlag flag none
    | none => .error .unknown
  | _ => r.takeWord word

/-- Takes all arguments; behind a `--` none of them is a flag or a value. -/
def takeAll (r : ArgumentReader) : List String → Result
  | [] => .ok r
  | "--" :: rest => rest.foldlM takeProgram r
  | word :: rest => do takeAll (← r.take word) rest

end ArgumentReader

namespace Arguments

/-- A program can be named or given as text, but not both. -/
def ofWords (words : List String) : Except ArgumentError Arguments := do
  let r ← ArgumentReader.start.takeAll words
  let r ← r.settle
  if r.arguments.eval.isSome && r.arguments.program.isSome then .error .conflict
  else return r.arguments

def source (a : Arguments) : Option ProgramSource :=
  match a.eval with
  | some text => some (.text text)
  | none => a.program.map .path

/-- The arguments take precedence over the configuration. -/
def override (a : Arguments) (c : SessionConfig) : SessionConfig :=
  { c with
    stopAtEntry := a.stopAtEntry || c.stopAtEntry
    sourceAlias := a.sourceAlias.or c.sourceAlias }

end Arguments

end DebugServer
