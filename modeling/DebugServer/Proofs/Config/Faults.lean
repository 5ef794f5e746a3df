import Mathlib
import DebugServer.Config.Read
import DebugServer.Proofs.Config.Messages

/-!
# What a faulty configuration shows

A configuration with one fault is rejected with a message about that fault. If a field has a value
of a wrong type, the message is the same for all values of one kind. If a key is not known, the
message is the same for all keys, but for those that look like the rest of the message themselves.
-/

namespace DebugServer

theorem map_eq_error_iff {ε α β : Type} {x : Except ε α} {f : α → β} {e : ε} :
    x.map f = .error e ↔ x = .error e := by
  cases x with
  | ok x => exact ⟨nofun, nofun⟩
  | error e' =>
    constructor
    all_goals intro h; cases h; rfl

/-! ### Values of a wrong type -/

/-- Two scalars of one kind. -/
inductive Json.SameKind : Json → Json → Prop where
  | text (a b : String) : SameKind (.str a) (.str b)
  | integer (m n : Int) : SameKind (.num (.int m)) (.num (.int n))
  | double (a b : UInt64) : SameKind (.num (.double a)) (.num (.double b))
  | bool (a b : Bool) : SameKind (.bool a) (.bool b)

theorem Json.SameKind.symm {v w : Json} (h : v.SameKind w) : w.SameKind v := by
  cases h with
  | text a b => exact .text b a
  | integer m n => exact .integer n m
  | double a b => exact .double b a
  | bool a b => exact .bool b a

/-- The decoder complains about scalars of one kind in one way, and says nothing in it that
redaction could take for something else. -/
def Decoder.Steady {α : Type} (decoder : Decoder α) : Prop :=
  ∀ {v w : Json} {e e' : DecodeError},
    v.SameKind w → decoder v = .error e → decoder w = .error e' →
      e.redacted = e'.redacted ∧ Text.redactConfigMessage e.message = e.redacted

namespace Decoder

variable {α β : Type} {decoder : Decoder α}

theorem steady_of_wording (expected : String) (hexpected : Text.Quiet expected.toList)
    (h : ∀ {v w : Json} {e e' : DecodeError}, v.SameKind w → decoder v = .error e →
      decoder w = .error e' →
        e = .invalidType v.found expected ∧ e' = .invalidType w.found expected ∨
        e = .invalidValue v.found expected ∧ e' = .invalidValue w.found expected) :
    decoder.Steady := by
  intro v w e e' hkind hv hw
  have hfound : v.found.redacted = w.found.redacted := by
    cases hkind <;> rfl
  rcases h hkind hv hw with ⟨rfl, rfl⟩ | ⟨rfl, rfl⟩
  · rw [DecodeError.redacted_invalidType, DecodeError.redacted_invalidType, ← hfound]
    exact ⟨rfl, Text.redactConfigMessage_found (by decide) hexpected v.found⟩
  · rw [DecodeError.redacted_invalidValue, DecodeError.redacted_invalidValue, ← hfound]
    exact ⟨rfl, Text.redactConfigMessage_found (by decide) hexpected v.found⟩

theorem steady_bool : bool.Steady := by
  apply steady_of_wording "a boolean" (by decide)
  intro v w e e' hkind hv hw
  cases hkind <;> cases hv
  all_goals cases hw; exact .inl ⟨rfl, rfl⟩

theorem steady_text : text.Steady := by
  apply steady_of_wording "a string" (by decide)
  intro v w e e' hkind hv hw
  cases hkind <;> cases hv
  all_goals cases hw; exact .inl ⟨rfl, rfl⟩

theorem steady_path : path.Steady := by
  apply steady_of_wording "path string" (by decide)
  intro v w e e' hkind hv hw
  cases hkind <;> cases hv
  all_goals cases hw; exact .inl ⟨rfl, rfl⟩

theorem steady_natural {name : String} (hname : Text.Quiet name.toList) :
    (natural name).Steady := by
  apply steady_of_wording _ hname
  intro v w e e' hkind hv hw
  cases hkind with
  | text => cases hv; cases hw; exact .inl ⟨rfl, rfl⟩
  | integer m n =>
    have herror {n : Int} {e : DecodeError} (h : natural name (.num (.int n)) = .error e) :
        e = .invalidValue (.integer n) name := by
      simp only [natural] at h
      split at h
      · cases h
      · cases h
        rfl
    exact .inr ⟨herror hv, herror hw⟩
  | double => cases hv; cases hw; exact .inl ⟨rfl, rfl⟩
  | bool => cases hv; cases hw; exact .inl ⟨rfl, rfl⟩

theorem Steady.optional (h : decoder.Steady) : (optional decoder).Steady := by
  have herror {j : Json} {e : DecodeError} (hnull : j ≠ .null)
      (he : Decoder.optional decoder j = .error e) : decoder j = .error e := by
    have hmap : (decoder j).map some = .error e := by
      rwa [Decoder.optional.eq_2 _ _ hnull] at he
    exact map_eq_error_iff.mp hmap
  intro v w e e' hkind hv hw
  have hnull : v ≠ .null ∧ w ≠ .null := by
    cases hkind <;> exact ⟨Json.noConfusion, Json.noConfusion⟩
  exact h hkind (herror hnull.1 hv) (herror hnull.2 hw)

theorem steady_record {format : RecordFormat α}
    (hname : Text.Quiet ("struct " ++ format.name).toList) : Steady format.decode := by
  apply steady_of_wording _ hname
  intro v w e e' hkind hv hw
  cases hkind <;> cases hv
  all_goals cases hw; exact .inl ⟨rfl, rfl⟩

end Decoder

namespace Shape

variable {α β : Type}

theorem test_eq_error_iff {decoder : Decoder α} {j : Json} {e : DecodeError} :
    test decoder j = .error e ↔ decoder j = .error e :=
  map_eq_error_iff

/-- Every member of the shape is steady about the values that it rejects. -/
def Steady (shape : Shape α) : Prop :=
  ∀ member ∈ shape.members, Decoder.Steady member.2

theorem Steady.map {shape : Shape α} (h : shape.Steady) (f : α → β) : (f <$> shape).Steady :=
  h

theorem Steady.seq {functions : Shape (α → β)} {shape : Shape α} (hf : functions.Steady)
    (h : shape.Steady) : (functions <*> shape).Steady := by
  intro member hmember
  rcases List.mem_append.mp hmember with hmember | hmember
  · exact hf member hmember
  · exact h member hmember

theorem steady_defaulting {name : String} {fallback : α} {decoder : Decoder α}
    (h : decoder.Steady) : (defaulting name fallback decoder).Steady := by
  intro member hmember v w e e' hkind hv hw
  rw [List.mem_singleton.mp hmember] at hv hw
  exact h hkind (test_eq_error_iff.mp hv) (test_eq_error_iff.mp hw)

theorem steady_optional {name : String} {decoder : Decoder α} (h : decoder.Steady) :
    (optional name decoder).Steady :=
  steady_defaulting h.optional

end Shape

theorem LoggingConfig.steady_format : format.shape.Steady := by
  apply Shape.Steady.seq _ (Shape.steady_defaulting Decoder.steady_bool)
  apply Shape.Steady.seq _ (Shape.steady_optional Decoder.steady_path)
  apply Shape.Steady.seq _ (Shape.steady_defaulting Decoder.steady_bool)
  apply Shape.Steady.seq _ (Shape.steady_defaulting Decoder.steady_bool)
  apply Shape.Steady.map
  exact Shape.steady_defaulting Decoder.steady_text

theorem SessionConfig.steady_format : format.shape.Steady := by
  have husize : (Decoder.natural "usize").Steady := Decoder.steady_natural (by decide)
  apply Shape.Steady.seq _ (Shape.steady_defaulting (Decoder.steady_natural (by decide)))
  apply Shape.Steady.seq _ (Shape.steady_defaulting husize)
  apply Shape.Steady.seq _ (Shape.steady_defaulting husize)
  apply Shape.Steady.seq _ (Shape.steady_defaulting husize)
  apply Shape.Steady.seq _ (Shape.steady_optional Decoder.steady_text)
  apply Shape.Steady.map
  exact Shape.steady_defaulting Decoder.steady_bool

theorem Config.steady_format : format.shape.Steady := by
  apply Shape.Steady.seq _ (Shape.steady_defaulting (Decoder.steady_record (by decide)))
  apply Shape.Steady.map
  exact Shape.steady_defaulting (Decoder.steady_record (by decide))

/-! ### One entry among others -/

/-- Entries of a table with room for more among them. -/
structure Gap where
  before : List (String × Json)
  after : List (String × Json)

def Gap.fill (gap : Gap) (entries : List (String × Json)) : Json :=
  .obj (gap.before ++ entries ++ gap.after)

theorem forM_append_eq_ok {β ε : Type} {xs ys : List β} {f : β → Except ε Unit} :
    (xs ++ ys).forM f = .ok () ↔ xs.forM f = .ok () ∧ ys.forM f = .ok () := by
  have happend : (xs ++ ys).forM f = xs.forM f >>= fun _ => ys.forM f := List.forM_append
  rw [happend]
  cases xs.forM f with
  | error e =>
    constructor
    · intro h
      cases h
    · rintro ⟨h, -⟩
      cases h
  | ok => exact ⟨fun h => ⟨rfl, h⟩, fun h => h.2⟩

namespace RecordFormat

variable {α : Type} {format : RecordFormat α} {gap : Gap} {entries : List (String × Json)}
  {entry : String × Json} {record : α} {e : DecodeError}

theorem decode_of_tests
    (h : (gap.before ++ entries ++ gap.after).forM format.testField = .error e) :
    format.decode (gap.fill entries) = .error e := by
  simp only [decode, Gap.fill, ofFields, h]
  rfl

theorem tests_of_decode (h : format.decode (gap.fill entries) = .ok record) :
    gap.before.forM format.testField = .ok () ∧ entries.forM format.testField = .ok () := by
  have htests : (gap.before ++ entries ++ gap.after).forM format.testField = .ok () := by
    cases htests : (gap.before ++ entries ++ gap.after).forM format.testField with
    | ok => rfl
    | error e => cases (decode_of_tests htests).symm.trans h
  exact forM_append_eq_ok.mp (forM_append_eq_ok.mp htests).1

/-- A fault of an entry is the fault of the table, if there is none before it. -/
theorem decode_of_testField (hbefore : gap.before.forM format.testField = .ok ())
    (hentry : format.testField entry = .error e) :
    format.decode (gap.fill [entry]) = .error e := by
  apply decode_of_tests
  have happend : (gap.before ++ [entry] ++ gap.after).forM format.testField =
      gap.before.forM format.testField >>= fun _ =>
        format.testField entry >>= fun _ => gap.after.forM format.testField := by
    rw [List.append_assoc]
    exact List.forM_append
  rw [happend, hbefore, hentry]
  rfl

theorem lookup_eq_none_iff {name : String} :
    format.shape.members.lookup name = none ↔ name ∉ format.shape.names := by
  simp only [List.lookup_eq_none_iff, Shape.names, List.mem_map, not_exists, not_and]
  refine forall₂_congr fun member _ => ?_
  rw [bne_iff_ne]
  exact ⟨Ne.symm, Ne.symm⟩

theorem testField_steady (h : format.shape.Steady) {name : String} {v w : Json}
    {e e' : DecodeError} (hname : name ∈ format.shape.names) (hkind : v.SameKind w)
    (hv : format.testField (name, v) = .error e) (hw : format.testField (name, w) = .error e') :
    e.redacted = e'.redacted ∧ Text.redactConfigMessage e.message = e.redacted := by
  unfold testField at hv hw
  cases hlookup : format.shape.members.lookup name with
  | none => exact absurd hname (lookup_eq_none_iff.mp hlookup)
  | some test =>
    obtain ⟨before, after, hmembers, -⟩ := List.lookup_eq_some_iff.mp hlookup
    simp only [hlookup] at hv hw
    exact h (name, test) (by simp [hmembers]) hkind hv hw

theorem testField_unknown {key : String} (hclosed : format.closed = true)
    (hkey : key ∉ format.shape.names) (value : Json) :
    format.testField (key, value) = .error (.unknownField key format.shape.names) := by
  simp only [testField, lookup_eq_none_iff.mpr hkey, hclosed, if_true]

end RecordFormat

/-! ### One fault in a configuration -/

namespace Config

/-- A table of a configuration, with room for more entries. -/
inductive Place where
  | top (entries : Gap)
  | logging (tables entries : Gap)
  | session (tables entries : Gap)

namespace Place

def fill : Place → List (String × Json) → Json
  | top gap, entries => gap.fill entries
  | logging tables gap, entries => tables.fill [("logging", gap.fill entries)]
  | session tables gap, entries => tables.fill [("adapter", gap.fill entries)]

/-- The fields that the table knows. -/
def names : Place → List String
  | top _ => format.shape.names
  | logging _ _ => LoggingConfig.format.shape.names
  | session _ _ => SessionConfig.format.shape.names

def testField : Place → String × Json → Except DecodeError Unit
  | top _ => format.testField
  | logging _ _ => LoggingConfig.format.testField
  | session _ _ => SessionConfig.format.testField

/-- With some entries in the place, there is no fault. -/
def Sound (place : Place) : Prop :=
  ∃ entries config, format.decode (place.fill entries) = .ok config

variable {place : Place} {entry : String × Json} {e : DecodeError}

/-- The fault of an entry of an inner table is the fault of the configuration. -/
theorem decode_table {α : Type} {inner : RecordFormat α} {name : String} {tables gap : Gap}
    (htable : ∀ j, format.testField (name, j) = Shape.test inner.decode j)
    (hsound : ∃ entries config, format.decode (tables.fill [(name, gap.fill entries)]) = .ok config)
    (hentry : inner.testField entry = .error e) :
    format.decode (tables.fill [(name, gap.fill [entry])]) = .error e := by
  obtain ⟨entries, config, hconfig⟩ := hsound
  obtain ⟨hbefore, htest⟩ := RecordFormat.tests_of_decode hconfig
  obtain ⟨record, hrecord⟩ : ∃ record, inner.decode (gap.fill entries) = .ok record := by
    cases hrecord : inner.decode (gap.fill entries) with
    | ok record => exact ⟨record, rfl⟩
    | error e' =>
      rw [← Shape.test_eq_error_iff, ← htable] at hrecord
      replace htest : (format.testField (name, gap.fill entries) >>= fun _ => pure ()) = .ok () :=
        htest
      rw [hrecord] at htest
      cases htest
  have hinner := RecordFormat.decode_of_testField (RecordFormat.tests_of_decode hrecord).1 hentry
  apply RecordFormat.decode_of_testField hbefore
  rw [htable, Shape.test_eq_error_iff, hinner]

/-- If there is no fault elsewhere, the fault of an entry is the fault of the configuration. -/
theorem decode_fill (hsound : place.Sound) (hentry : place.testField entry = .error e) :
    format.decode (place.fill [entry]) = .error e := by
  cases place with
  | top gap =>
    obtain ⟨entries, config, hconfig⟩ := hsound
    exact RecordFormat.decode_of_testField (RecordFormat.tests_of_decode hconfig).1 hentry
  | logging tables gap => exact decode_table (fun _ => rfl) hsound hentry
  | session tables gap => exact decode_table (fun _ => rfl) hsound hentry

end Place

variable {place : Place} {e : DecodeError} {s t : String}

theorem ofText_fill {entry : String × Json} (hsound : place.Sound)
    (hentry : place.testField entry = .error e) (hs : Toml.parse? s = some (place.fill [entry])) :
    ofText s = .error (.decode e) := by
  simp only [ofText, hs, place.decode_fill hsound hentry]
  rfl

theorem testField_steady {name : String} {v w : Json} {e' : DecodeError}
    (hname : name ∈ place.names) (hkind : v.SameKind w) (hv : place.testField (name, v) = .error e)
    (hw : place.testField (name, w) = .error e') :
    e.redacted = e'.redacted ∧ Text.redactConfigMessage e.message = e.redacted := by
  cases place with
  | top => exact RecordFormat.testField_steady steady_format hname hkind hv hw
  | logging => exact RecordFormat.testField_steady LoggingConfig.steady_format hname hkind hv hw
  | session => exact RecordFormat.testField_steady SessionConfig.steady_format hname hkind hv hw

/-- Two values of one kind that a field rejects are reported with the same message, which shows
neither of them. -/
theorem ofText_hides_value {name : String} {v w : Json} {e' : DecodeError} (hsound : place.Sound)
    (hname : name ∈ place.names) (hkind : v.SameKind w)
    (hv : place.testField (name, v) = .error e) (hw : place.testField (name, w) = .error e')
    (hs : Toml.parse? s = some (place.fill [(name, v)]))
    (ht : Toml.parse? t = some (place.fill [(name, w)])) :
    ∃ error error', ofText s = .error error ∧ ofText t = .error error' ∧
      error.message = error'.message ∧
      error.message = "failed to parse toml config: " ++ e.redacted := by
  obtain ⟨hsame, hmessage⟩ := testField_steady hname hkind hv hw
  obtain ⟨-, hmessage'⟩ := testField_steady hname hkind.symm hw hv
  have hshown {e : DecodeError} (he : Text.redactConfigMessage e.message = e.redacted) :
      (ConfigError.decode e).message = "failed to parse toml config: " ++ e.redacted :=
    congrArg ("failed to parse toml config: " ++ ·) he
  refine ⟨_, _, ofText_fill hsound hv hs, ofText_fill hsound hw ht, ?_, hshown hmessage⟩
  rw [hshown hmessage, hshown hmessage', hsame]

theorem ofText_hides_value_flag :
    let place : Place := .logging ⟨[], []⟩ ⟨[], []⟩
    let v : Json := .str "me"
    let w : Json := .str "\"\x60, expected"
    let e : DecodeError := .invalidType v.found "a boolean"
    let e' : DecodeError := .invalidType w.found "a boolean"
    let s := "[logging]\njson = \"me\""
    let t := "[logging]\njson = '\"\x60, expected'"
    (place.Sound ∧ "json" ∈ place.names ∧ v.SameKind w ∧
      place.testField ("json", v) = .error e ∧ place.testField ("json", w) = .error e' ∧
      Toml.parse? s = some (place.fill [("json", v)]) ∧
      Toml.parse? t = some (place.fill [("json", w)])) ∧
    ∃ error error', ofText s = .error error ∧ ofText t = .error error' ∧
      error.message = error'.message ∧
      error.message = "failed to parse toml config: " ++ e.redacted := by
  intro place v w e e' s t
  have hsound : place.Sound := ⟨[], _, rfl⟩
  have hname : "json" ∈ place.names := by decide
  have hs : Toml.parse? s = some (place.fill [("json", v)]) := by cbv
  have ht : Toml.parse? t = some (place.fill [("json", w)]) := by cbv
  exact ⟨⟨hsound, hname, .text _ _, rfl, rfl, hs, ht⟩,
    ofText_hides_value hsound hname (.text _ _) rfl rfl hs ht⟩

/-! ### Keys that are not known -/

theorem announces_names (place : Place) : Text.Announces place.names := by
  cases place with
  | top => exact show Text.Announces format.shape.names by decide
  | logging => exact show Text.Announces LoggingConfig.format.shape.names by decide
  | session => exact show Text.Announces SessionConfig.format.shape.names by decide +kernel

theorem testField_unknown {key : String} (hkey : key ∉ place.names) (value : Json) :
    place.testField (key, value) = .error (.unknownField key place.names) := by
  cases place with
  | top => exact RecordFormat.testField_unknown rfl hkey value
  | logging => exact RecordFormat.testField_unknown rfl hkey value
  | session => exact RecordFormat.testField_unknown rfl hkey value

/-- What the message about a key that is not known says. -/
theorem ofText_unknown {key : String} {value : Json} (hsound : place.Sound)
    (hkey : key ∉ place.names) (hs : Toml.parse? s = some (place.fill [(key, value)])) :
    ∃ error, ofText s = .error error ∧
      error.message = "failed to parse toml config: " ++
        ("unknown field \x60<redacted>" ++ Text.uncovered key ++ "\x60, " ++
          alternatives place.names) := by
  refine ⟨_, ofText_fill hsound (testField_unknown hkey value) hs, ?_⟩
  change "failed to parse toml config: " ++ _ = _
  rw [Text.redactConfigMessage_unknown (announces_names place)]

/-- Two keys that a table does not know are reported with the same message exactly if redaction
leaves the same of both; if it leaves nothing, the message shows no key. -/
theorem ofText_hides_key_iff {key key' : String} {value value' : Json} (hsound : place.Sound)
    (hkey : key ∉ place.names) (hkey' : key' ∉ place.names)
    (hs : Toml.parse? s = some (place.fill [(key, value)]))
    (ht : Toml.parse? t = some (place.fill [(key', value')])) :
    ∃ error error', ofText s = .error error ∧ ofText t = .error error' ∧
      (error.message = error'.message ↔ Text.uncovered key = Text.uncovered key') ∧
      (Text.uncovered key = "" → error.message = "failed to parse toml config: " ++
        (DecodeError.unknownField key place.names).redacted) := by
  obtain ⟨error, hfails, hmessage⟩ := ofText_unknown hsound hkey hs
  obtain ⟨error', hfails', hmessage'⟩ := ofText_unknown hsound hkey' ht
  refine ⟨error, error', hfails, hfails', ?_, fun hnothing => ?_⟩
  · rw [hmessage, hmessage', ← String.toList_inj, ← String.toList_inj]
    simp only [String.toList_append, List.append_assoc, List.append_cancel_left_eq,
      List.append_cancel_right_eq]
  · rw [hmessage, hnothing, String.append_empty, DecodeError.redacted_unknownField]

theorem ofText_hides_key_iff_quotes :
    let place : Place := .top ⟨[], []⟩
    let key := "it's \"me"
    let s := "me = 1"
    let t := "\"it's \\\"me\" = 1"
    (place.Sound ∧ "me" ∉ place.names ∧ key ∉ place.names ∧
      Toml.parse? s = some (place.fill [("me", Json.int 1)]) ∧
      Toml.parse? t = some (place.fill [(key, Json.int 1)])) ∧
    ∃ error error', ofText s = .error error ∧ ofText t = .error error' ∧
      (error.message = error'.message ↔ Text.uncovered "me" = Text.uncovered key) ∧
      (Text.uncovered "me" = "" → error.message = "failed to parse toml config: " ++
        (DecodeError.unknownField "me" place.names).redacted) := by
  intro place key s t
  have hsound : place.Sound := ⟨[], _, rfl⟩
  have hme : "me" ∉ place.names := by decide
  have hkey : key ∉ place.names := by decide
  have hs : Toml.parse? s = some (place.fill [("me", Json.int 1)]) := by cbv
  have ht : Toml.parse? t = some (place.fill [(key, Json.int 1)]) := by cbv
  exact ⟨⟨hsound, hme, hkey, hs, ht⟩, ofText_hides_key_iff hsound hme hkey hs ht⟩

/-- A key that looks like the rest of the message is shown from there on. -/
theorem ofText_shows_end_of_key :
    let known := SessionConfig.format.shape.names
    ∃ error error', ofText "[adapter]\nsecret = 1" = .error error ∧
      ofText "[adapter]\n\"x\x60, expected hunter2\" = 1" = .error error' ∧
      error.message =
        "failed to parse toml config: unknown field \x60<redacted>\x60, " ++ alternatives known ∧
      error'.message =
        "failed to parse toml config: unknown field \x60<redacted>\x60, expected hunter2\x60, " ++
          alternatives known ∧
      error.message ≠ error'.message := by
  intro known
  let place : Place := .session ⟨[], []⟩ ⟨[], []⟩
  have hsound : place.Sound := ⟨[], _, rfl⟩
  have hs : Toml.parse? "[adapter]\nsecret = 1" =
      some (place.fill [("secret", Json.int 1)]) := by cbv
  have ht : Toml.parse? "[adapter]\n\"x\x60, expected hunter2\" = 1" =
      some (place.fill [("x\x60, expected hunter2", Json.int 1)]) := by cbv
  obtain ⟨error, hfails, hmessage⟩ := ofText_unknown hsound (by decide +kernel) hs
  obtain ⟨error', hfails', hmessage'⟩ := ofText_unknown hsound (by decide +kernel) ht
  have hcovered : Text.uncovered "secret" = "" := Text.uncovered_eq_empty (by decide +kernel)
  have hsplit : Text.splitWord "\x60, expected".toList "x\x60, expected hunter2".toList =
      some (['x'], " hunter2".toList) := rfl
  have huncovered := Text.uncovered_of_notMem (by decide) (by decide) hsplit
  have hshort : "failed to parse toml config: " ++
        ("unknown field \x60<redacted>" ++ "" ++ "\x60, ") =
      "failed to parse toml config: unknown field \x60<redacted>\x60, " := by decide +kernel
  have hlong : "failed to parse toml config: " ++ ("unknown field \x60<redacted>" ++
        String.ofList ("\x60, expected".toList ++ " hunter2".toList) ++ "\x60, ") =
      "failed to parse toml config: unknown field \x60<redacted>\x60, expected hunter2\x60, " := by
    decide +kernel
  rw [hcovered, ← String.append_assoc, hshort] at hmessage
  rw [huncovered, ← String.append_assoc, hlong] at hmessage'
  refine ⟨error, error', hfails, hfails', hmessage, hmessage', ?_⟩
  rw [hmessage, hmessage', ne_eq, ← String.toList_inj, String.toList_append, String.toList_append]
  intro hsame
  have hlead := List.append_cancel_right hsame
  exact absurd hlead (by decide +kernel)

end Config

end DebugServer
