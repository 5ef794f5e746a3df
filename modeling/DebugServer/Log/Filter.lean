import DebugServer.Log.Directive

/-!
# Log filters

A filter is written as directives between commas. Of several directives that cover a record the
most specific one decides; a record that none covers is not let through. Directives about spans
are kept, but decide about no record: nothing is logged within a span.
-/

namespace DebugServer.Log

structure Filter where
  statics : List Directive
  dynamics : List Directive
deriving DecidableEq, Repr, Inhabited

namespace Filter

def empty : Filter :=
  ⟨[], []⟩

/-- A later directive about the same records replaces an earlier one. -/
def replace (d : Directive) (ds : List Directive) : List Directive :=
  ds.filter (fun e => !e.sameSubject d) ++ [d]

/-- A directive about fields without values is of both kinds. -/
def add (f : Filter) (d : Directive) : Filter where
  statics := if d.isStatic then replace d f.statics else f.statics
  dynamics := if d.isDynamic then replace d f.dynamics else f.dynamics

def ofDirectives (ds : List Directive) : Filter :=
  ds.foldl add empty

/-- All directives; those of both kinds are there twice. -/
def directives (f : Filter) : List Directive :=
  f.statics ++ f.dynamics

/-- The written form; a filter without directives is the empty text. -/
def text (f : Filter) : String :=
  ",".intercalate (f.directives.map (·.text))

/-- Reads a filter; empty directives are skipped, and one that cannot be read spoils the whole. -/
def ofText? (s : String) : Option Filter :=
  (((Text.splitAll ',' s.toList).filter (!·.isEmpty)).mapM Directive.ofText?).map ofDirectives

def moreSpecific (d e : Directive) : Directive :=
  if d.isWeaker e then e else d

def threshold (f : Filter) (r : Record) : Threshold :=
  match f.statics.filter (·.covers r) with
  | [] => .off
  | d :: rest => (rest.foldl moreSpecific d).threshold

def admits (f : Filter) (r : Record) : Bool :=
  (f.threshold r).admits r.level

def defaultLevel : Level := .info

/-- The directives that a setting stands for; the names of levels may be written in any case, and
one of them has a second name. -/
def settingText (setting : String) : String :=
  let s := Text.trimmed setting
  let lowered := Text.lowered s
  if s = "" then defaultLevel.name
  else if ["trace", "debug", "info", "warn", "error"].contains lowered then lowered
  else if lowered = "warning" then "warn"
  else s

def ofSetting (setting : String) : Filter :=
  (ofText? (settingText setting)).getD (ofDirectives [.ofThreshold (.upTo defaultLevel)])

/-- Directives from the environment are added to those of the setting; if the two cannot be read
together they replace the setting, and if they cannot be read at all they are ignored. -/
def ofSettings (setting : String) (environment : Option String) : Filter :=
  match environment.map Text.trimmed with
  | none | some "" => ofSetting setting
  | some extra =>
    ((ofText? (settingText setting ++ "," ++ extra)).or (ofText? extra)).getD (ofSetting setting)

end Filter

end DebugServer.Log
