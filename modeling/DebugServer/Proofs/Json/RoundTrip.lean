import Mathlib.Data.List.Basic
import DebugServer.Protocol.Arguments

/-!
# Records are read as they were written

A record is written member by member. It is read back if every member is: the members that have a
value as that value, those that have none because they were left out or because they are `null`.
-/

namespace DebugServer

theorem forM_eq_ok {β ε : Type} {xs : List β} {f : β → Except ε Unit}
    (h : ∀ x ∈ xs, f x = .ok ()) : xs.forM f = .ok () := by
  induction xs with
  | nil => rfl
  | cons x xs ih =>
    change (f x >>= fun _ => xs.forM f) = .ok ()
    rw [h x List.mem_cons_self]
    exact ih fun y hy => h y (List.mem_cons_of_mem x hy)

namespace Json

theorem lookup_field (name key : String) (value : Json) (rest : List (String × Json)) :
    ((key, value) :: rest).lookup name = if name = key then some value else rest.lookup name := by
  by_cases h : name = key
  · simp [h]
  · simp [List.lookup_cons, h, beq_false_of_ne h]

theorem lookup_optional (name key : String) (value : Option Json) :
    (optional key value).lookup name = if name = key then value else none := by
  cases value with
  | none => simp [optional]
  | some j => exact lookup_field name key j []

theorem lookup_insertField (name key : String) (value : Json) (fields : List (String × Json)) :
    (insertField key value fields).lookup name =
      if name = key then some value else fields.lookup name := by
  induction fields with
  | nil => exact lookup_field name key value []
  | cons field rest ih =>
    obtain ⟨k, v⟩ := field
    unfold insertField
    split
    · rename_i hk
      subst hk
      rw [lookup_field, lookup_field]
      split <;> rfl
    · rename_i hk
      split
      · exact lookup_field name key value _
      · rw [lookup_field, lookup_field, ih]
        by_cases hname : name = k
        · rw [if_pos hname, if_pos hname, if_neg (hname.trans_ne (Ne.symm hk))]
        · rw [if_neg hname, if_neg hname]

/-- Of the fields that an object is made of, the last with a key is found. -/
theorem field?_object (name : String) (fields : List (String × Json)) :
    (object fields).field? name = fields.reverse.lookup name := by
  have hfold : ∀ sorted : List (String × Json),
      (fields.foldl (fun sorted field => insertField field.1 field.2 sorted) sorted).lookup name =
        (fields.reverse.lookup name).or (sorted.lookup name) := by
    induction fields with
    | nil => exact fun _ => rfl
    | cons field rest ih =>
      intro sorted
      rw [List.foldl_cons, ih, lookup_insertField, List.reverse_cons, List.lookup_append,
        Option.or_assoc, lookup_field]
      split <;> rfl
  exact (hfold []).trans Option.or_none

/-- A field of an object without repeated keys is found under its key. -/
theorem lookup_of_mem {fields : List (String × Json)} {field : String × Json}
    (hkeys : (fields.map Prod.fst).Nodup) (h : field ∈ fields) :
    fields.lookup field.1 = some field.2 := by
  obtain ⟨before, after, rfl⟩ := List.append_of_mem h
  rw [List.map_append, List.map_cons, List.nodup_append] at hkeys
  refine List.lookup_eq_some_iff.mpr ⟨before, after, rfl, ?_⟩
  intro other hother
  have hne := hkeys.2.2 other.1 (List.mem_map_of_mem hother) field.1 List.mem_cons_self
  exact bne_iff_ne.mpr (Ne.symm hne)

/-- The keys of the fields are some of these, in their order. -/
def KeysIn (fields : List (String × Json)) (keys : List String) : Prop :=
  (fields.map Prod.fst).Sublist keys

theorem keysIn_nil : KeysIn [] [] :=
  List.nil_sublist _

theorem KeysIn.field {fields : List (String × Json)} {keys : List String} {key : String}
    {value : Json} (h : KeysIn fields keys) : KeysIn ((key, value) :: fields) (key :: keys) :=
  List.Sublist.cons_cons key h

theorem keysIn_optional {key : String} {value : Option Json} :
    KeysIn (optional key value) [key] := by
  cases value with
  | none => exact List.nil_sublist _
  | some j => exact keysIn_nil.field

theorem KeysIn.append {fields fields' : List (String × Json)} {keys keys' : List String}
    (h : KeysIn fields keys) (h' : KeysIn fields' keys') :
    KeysIn (fields ++ fields') (keys ++ keys') := by
  rw [KeysIn, List.map_append]
  exact List.Sublist.append h h'

end Json

/-- What has been written is read as what it was written for. -/
def Decoder.Reads {α : Type} (decoder : Decoder α) (write : α → Json) : Prop :=
  ∀ x, decoder (write x) = .ok x

namespace Decoder

variable {α : Type} {decoder : Decoder α} {write : α → Json}

theorem reads_bool : bool.Reads Json.bool := fun _ => rfl

theorem reads_text : text.Reads Json.str := fun _ => rfl

/-- Integers of 64 bits are read as they were written. -/
theorem integer_int {n : Int} (h : Int64.minValue.toInt ≤ n ∧ n ≤ Int64.maxValue.toInt) :
    integer (Json.int n) = .ok n := by
  simp only [integer, Json.int, h.1, h.2, decide_true, Bool.and_self, if_true]

theorem reads_int64 : int64.Reads Json.int64 := by
  intro n
  have hinteger : integer (Json.int64 n) = .ok n.toInt :=
    integer_int ⟨n.minValue_le_toInt, n.toInt_le⟩
  simp only [int64, hinteger, Except.map, Int64.ofInt_toInt]

theorem list_map {xs : List α} (h : ∀ x ∈ xs, decoder (write x) = .ok x) :
    list decoder (.arr (xs.map write)) = .ok xs := by
  change (xs.map write).mapM decoder = .ok xs
  induction xs with
  | nil => rfl
  | cons x xs ih =>
    rw [List.map_cons, List.mapM_cons, h x List.mem_cons_self,
      ih fun y hy => h y (List.mem_cons_of_mem x hy)]
    rfl

theorem Reads.list (h : decoder.Reads write) :
    (list decoder).Reads fun xs => .arr (xs.map write) :=
  fun _ => list_map fun x _ => h x

/-- Only an absent value is written as `null`. -/
theorem optional_eq_ok {x : α} (h : decoder (write x) = .ok x) (hnull : write x ≠ .null) :
    optional decoder (write x) = .ok (some x) := by
  unfold optional
  split
  · rename_i hx
    exact absurd hx hnull
  · rw [h]
    rfl

end Decoder

namespace Shape

variable {α β : Type} {source : String → Option Json} {x : α}

/-- The members of a source are all in order, and the record made of them is `x`. -/
structure Gives (shape : Shape α) (source : String → Option Json) (x : α) : Prop where
  tests : ∀ member ∈ shape.members, ∀ j, source member.1 = some j → member.2 j = .ok ()
  build : shape.build source = .ok x

theorem Gives.map {shape : Shape α} (h : shape.Gives source x) (f : α → β) :
    (f <$> shape).Gives source (f x) :=
  ⟨h.tests, congrArg (Except.map f) h.build⟩

theorem Gives.seq {functions : Shape (α → β)} {shape : Shape α} {f : α → β}
    (hf : functions.Gives source f) (h : shape.Gives source x) :
    (functions <*> shape).Gives source (f x) := by
  constructor
  · intro member hmember
    rcases List.mem_append.mp hmember with hmember | hmember
    · exact hf.tests member hmember
    · exact h.tests member hmember
  · simp only [Seq.seq, hf.build, h.build, Except.map]

theorem gives_required {name : String} {decoder : Decoder α} {j : Json}
    (hread : decoder j = .ok x) (hsource : source name = some j) :
    (required name decoder).Gives source x := by
  constructor
  · intro member hmember j' hj'
    obtain rfl := List.mem_singleton.mp hmember
    obtain rfl := Option.some.inj (hsource.symm.trans hj')
    simp only [test, hread, Except.map]
  · simp only [required, hsource, hread]

theorem gives_defaulting {name : String} {fallback : α} {decoder : Decoder α} {j : Json}
    (hread : decoder j = .ok x) (hsource : source name = some j) :
    (defaulting name fallback decoder).Gives source x := by
  constructor
  · exact (gives_required hread hsource).tests
  · simp only [defaulting, hsource, hread]

theorem gives_fallback {name : String} {decoder : Decoder α} (hsource : source name = none) :
    (defaulting name x decoder).Gives source x := by
  constructor
  · intro member hmember j hj
    obtain rfl := List.mem_singleton.mp hmember
    cases hsource.symm.trans hj
  · simp only [defaulting, hsource]

section

variable {name : String} {decoder : Decoder α} {write : α → Json} {value : Option α}

/-- An absent member may be left out. -/
theorem gives_omitted_of (hread : ∀ x ∈ value, decoder (write x) = .ok x ∧ write x ≠ .null)
    (hsource : source name = value.map write) : (optional name decoder).Gives source value := by
  cases value with
  | none => exact gives_fallback hsource
  | some x =>
    obtain ⟨hx, hnull⟩ := hread x rfl
    exact gives_defaulting (Decoder.optional_eq_ok hx hnull) hsource

theorem gives_omitted (hread : decoder.Reads write) (hnull : ∀ x, write x ≠ .null)
    (hsource : source name = value.map write) : (optional name decoder).Gives source value :=
  gives_omitted_of (fun x _ => ⟨hread x, hnull x⟩) hsource

/-- An absent member may be written as `null`. -/
theorem gives_nullable (hread : decoder.Reads write) (hnull : ∀ x, write x ≠ .null)
    (hsource : source name = some (Json.orNull (value.map write))) :
    (optional name decoder).Gives source value := by
  cases value with
  | none => exact gives_defaulting rfl hsource
  | some x => exact gives_defaulting (Decoder.optional_eq_ok (hread x) (hnull x)) hsource

end

end Shape

namespace RecordFormat

variable {α : Type} {format : RecordFormat α} {x : α}

theorem testField_of_gives {fields : List (String × Json)} {field : String × Json}
    (h : format.shape.Gives (fun name => fields.lookup name) x) (hopen : format.closed = false)
    (hkeys : (fields.map Prod.fst).Nodup) (hfield : field ∈ fields) :
    format.testField field = .ok () := by
  unfold testField
  cases hlookup : format.shape.members.lookup field.1 with
  | none => simp [hopen]
  | some test =>
    obtain ⟨before, after, hmembers, -⟩ := List.lookup_eq_some_iff.mp hlookup
    exact h.tests (field.1, test) (by simp [hmembers]) field.2 (Json.lookup_of_mem hkeys hfield)

/-- An object without repeated keys is read as the record that its members give. -/
theorem decode_of_gives {fields : List (String × Json)} {keys : List String}
    (hkeys : Json.KeysIn fields keys) (hnodup : keys.Nodup) (hopen : format.closed = false)
    (h : format.shape.Gives (fun name => fields.lookup name) x) :
    format.decode (.obj fields) = .ok x := by
  have htests := forM_eq_ok fun _ => testField_of_gives h hopen (hnodup.sublist hkeys)
  simp only [decode, ofFields, htests]
  exact h.build

end RecordFormat

end DebugServer
