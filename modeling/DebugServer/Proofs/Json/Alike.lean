import Mathlib.Data.List.Forall2
import DebugServer.Json.Decode
import DebugServer.Proofs.Text.Redacted

/-!
# Decoding values that differ in one text

Decoders look at the form of what they read, not at its texts. So two values that differ in a text
are both decoded or fail for the same reason, which is that text itself if it stands where something
else is expected.
-/

namespace DebugServer

theorem forall₂_zip {α β γ : Type} {R : β → γ → Prop} {S : α × β → α × γ → Prop} {as : List α}
    {xs : List β} {ys : List γ} (h : List.Forall₂ R xs ys)
    (hS : ∀ a ∈ as, ∀ x y, R x y → S (a, x) (a, y)) : List.Forall₂ S (as.zip xs) (as.zip ys) := by
  induction h generalizing as with
  | nil => simp
  | cons hhead _ ih =>
    cases as with
    | nil => exact .nil
    | cons a as =>
      refine .cons (hS a List.mem_cons_self _ _ hhead) (ih ?_)
      intro a' ha'
      exact hS a' (List.mem_cons_of_mem a ha')

namespace Json

/-- A place for a text in a value. -/
inductive Place where
  | here
  | item (before : List Json) (place : Place) (after : List Json)
  | member (before : List (String × Json)) (name : String) (place : Place)
      (after : List (String × Json))

def Place.fill (s : String) : Place → Json
  | here => .str s
  | item before place after => .arr (before ++ place.fill s :: after)
  | member before name place after => .obj (before ++ (name, place.fill s) :: after)

/-- The same value, or one text in place of another. -/
def Alike (a b : String) (j j' : Json) : Prop :=
  j = j' ∨ ∃ place : Place, j = place.fill a ∧ j' = place.fill b

def AlikeFields (a b : String) : List (String × Json) → List (String × Json) → Prop :=
  List.Forall₂ fun f g => f.1 = g.1 ∧ Alike a b f.2 g.2

variable {a b : String} {j j' : Json}

theorem Alike.refl (j : Json) : Alike a b j j :=
  .inl rfl

theorem AlikeFields.refl (fields : List (String × Json)) : AlikeFields a b fields fields :=
  List.forall₂_same.mpr fun _ _ => ⟨rfl, .refl _⟩

theorem alike_fill (a b : String) (place : Place) : Alike a b (place.fill a) (place.fill b) :=
  .inr ⟨place, rfl, rfl⟩

/-- What values that are alike look like. -/
theorem Alike.cases (h : Alike a b j j') :
    j = j' ∨ (j = .str a ∧ j' = .str b) ∨
      (∃ xs ys, j = .arr xs ∧ j' = .arr ys ∧ List.Forall₂ (Alike a b) xs ys) ∨
      ∃ fs gs, j = .obj fs ∧ j' = .obj gs ∧ AlikeFields a b fs gs := by
  rcases h with h | ⟨place, rfl, rfl⟩
  · exact .inl h
  · right
    cases place with
    | here => exact .inl ⟨rfl, rfl⟩
    | item before place after =>
      refine .inr (.inl ⟨_, _, rfl, rfl, ?_⟩)
      apply List.rel_append (List.forall₂_same.mpr fun _ _ => .refl _)
      exact .cons (alike_fill a b place) (List.forall₂_same.mpr fun _ _ => .refl _)
    | member before name place after =>
      refine .inr (.inr ⟨_, _, rfl, rfl, ?_⟩)
      apply List.rel_append (AlikeFields.refl before)
      exact .cons ⟨rfl, alike_fill a b place⟩ (AlikeFields.refl after)

theorem AlikeFields.lookup {fs gs : List (String × Json)} (h : AlikeFields a b fs gs)
    (name : String) : Option.Rel (Alike a b) (fs.lookup name) (gs.lookup name) := by
  induction h with
  | nil => exact .none
  | @cons f g fs gs hfield _ ih =>
    obtain ⟨key, x⟩ := f
    obtain ⟨key', y⟩ := g
    obtain ⟨rfl, halike⟩ := hfield
    simp only [List.lookup_cons]
    split
    · exact .some halike
    · exact ih

theorem alikeFields_zip {xs ys : List Json} (names : List String)
    (h : List.Forall₂ (Alike a b) xs ys) : AlikeFields a b (names.zip xs) (names.zip ys) :=
  forall₂_zip h fun _ _ _ _ hitem => ⟨rfl, hitem⟩

end Json

/-- What comes of decoding two values that are alike. -/
inductive DecodedAlike (a b : String) {α : Type} :
    Except DecodeError α → Except DecodeError α → Prop where
  | decoded (x y : α) : DecodedAlike a b (.ok x) (.ok y)
  | same (e : DecodeError) : DecodedAlike a b (.error e) (.error e)
  | text {expected : String} (h : Text.Plain expected) :
      DecodedAlike a b (.error (.invalidType (.text a) expected))
        (.error (.invalidType (.text b) expected))

namespace DecodedAlike

variable {a b : String} {α β γ : Type} {r r' : Except DecodeError α}

theorem refl (r : Except DecodeError α) : DecodedAlike a b r r := by
  cases r with
  | ok x => exact .decoded x x
  | error e => exact .same e

theorem map (h : DecodedAlike a b r r') (f g : α → β) :
    DecodedAlike a b (r.map f) (r'.map g) := by
  cases h with
  | decoded x y => exact .decoded (f x) (g y)
  | same e => exact .same e
  | text h => exact .text h

theorem bind {f g : α → Except DecodeError β} (h : DecodedAlike a b r r')
    (hrest : ∀ x y, DecodedAlike a b (f x) (g y)) : DecodedAlike a b (r >>= f) (r' >>= g) := by
  cases h with
  | decoded x y => exact hrest x y
  | same e => exact .same e
  | text h => exact .text h

theorem forM {xs : List β} {ys : List γ} {f : β → Except DecodeError Unit}
    {g : γ → Except DecodeError Unit}
    (h : List.Forall₂ (fun x y => DecodedAlike a b (f x) (g y)) xs ys) :
    DecodedAlike a b (xs.forM f) (ys.forM g) := by
  induction h with
  | nil => exact .decoded () ()
  | cons hhead _ ih => exact hhead.bind fun _ _ => ih

theorem mapM {xs : List β} {ys : List γ} {f : β → Except DecodeError α}
    {g : γ → Except DecodeError α}
    (h : List.Forall₂ (fun x y => DecodedAlike a b (f x) (g y)) xs ys) :
    DecodedAlike a b (xs.mapM f) (ys.mapM g) := by
  induction h with
  | nil => exact .decoded [] []
  | cons hhead _ ih =>
    rw [List.mapM_cons, List.mapM_cons]
    exact hhead.bind fun x y => ih.bind fun xs ys => .decoded (x :: xs) (y :: ys)

end DecodedAlike

/-- Values that are alike decode alike. -/
def Decoder.Respects {α : Type} (decoder : Decoder α) : Prop :=
  ∀ {a b j j'}, Json.Alike a b j j' → DecodedAlike a b (decoder j) (decoder j')

namespace Decoder

variable {α : Type} {decoder : Decoder α}

/-- A decoder that takes no texts, lists or objects. -/
theorem respects_scalar {expected : String} (hexpected : Text.Plain expected)
    (htext : ∀ s, decoder (.str s) = .error (.invalidType (.text s) expected))
    (hlist : ∀ xs, decoder (.arr xs) = .error (.invalidType .sequence expected))
    (hmap : ∀ fs, decoder (.obj fs) = .error (.invalidType .map expected)) : decoder.Respects := by
  intro a b j j' h
  rcases h.cases with rfl | ⟨rfl, rfl⟩ | ⟨xs, ys, rfl, rfl, -⟩ | ⟨fs, gs, rfl, rfl, -⟩
  · exact .refl _
  · rw [htext, htext]
    exact .text hexpected
  · rw [hlist, hlist]
    exact .same _
  · rw [hmap, hmap]
    exact .same _

theorem respects_bool : Respects bool :=
  respects_scalar (by decide) (fun _ => rfl) (fun _ => rfl) (fun _ => rfl)

theorem respects_int64 : Respects int64 :=
  respects_scalar (by decide) (fun _ => rfl) (fun _ => rfl) (fun _ => rfl)

theorem respects_text : Respects text := by
  intro a b j j' h
  rcases h.cases with rfl | ⟨rfl, rfl⟩ | ⟨xs, ys, rfl, rfl, -⟩ | ⟨fs, gs, rfl, rfl, -⟩
  · exact .refl _
  · exact .decoded a b
  · exact .same _
  · exact .same _

theorem Respects.optional (h : decoder.Respects) : (optional decoder).Respects := by
  intro a b j j' hj
  rcases hj.cases with rfl | ⟨rfl, rfl⟩ | ⟨xs, ys, rfl, rfl, -⟩ | ⟨fs, gs, rfl, rfl, -⟩
  · exact .refl _
  all_goals exact (h hj).map some some

theorem Respects.list (h : decoder.Respects) : (list decoder).Respects := by
  intro a b j j' hj
  rcases hj.cases with rfl | ⟨rfl, rfl⟩ | ⟨xs, ys, rfl, rfl, hitems⟩ | ⟨fs, gs, rfl, rfl, -⟩
  · exact .refl _
  · exact .text (by decide)
  · exact .mapM (hitems.imp fun _ _ => h)
  · exact .same _

end Decoder

namespace Shape

variable {α β : Type}

structure Respects (shape : Shape α) : Prop where
  tests : ∀ member ∈ shape.members, Decoder.Respects member.2
  build : ∀ {a b} {source source' : String → Option Json},
    (∀ name, Option.Rel (Json.Alike a b) (source name) (source' name)) →
      DecodedAlike a b (shape.build source) (shape.build source')

theorem Respects.map {shape : Shape α} (h : shape.Respects) (f : α → β) :
    (f <$> shape).Respects :=
  ⟨h.tests, fun hsource => (h.build hsource).map f f⟩

theorem build_seq (functions : Shape (α → β)) (shape : Shape α) (source : String → Option Json) :
    (functions <*> shape).build source =
      functions.build source >>= fun f => (shape.build source).map f := by
  cases h : functions.build source with
  | error e => simp only [Seq.seq, h, bind, Except.bind]
  | ok f => simp only [Seq.seq, h, bind, Except.bind]

theorem Respects.seq {functions : Shape (α → β)} {shape : Shape α} (hf : functions.Respects)
    (h : shape.Respects) : (functions <*> shape).Respects := by
  constructor
  · intro member hmember
    rcases List.mem_append.mp hmember with hmember | hmember
    · exact hf.tests member hmember
    · exact h.tests member hmember
  · intro a b source source' hsource
    rw [build_seq, build_seq]
    exact (hf.build hsource).bind fun f g => (h.build hsource).map f g

theorem respects_test {decoder : Decoder α} (h : decoder.Respects) :
    Decoder.Respects (test decoder) :=
  fun hj => (h hj).map _ _

theorem respects_member {name : String} {decoder : Decoder α} (h : decoder.Respects)
    {shape : Shape α} {missing : Except DecodeError α}
    (hmembers : shape.members = [(name, test decoder)])
    (hbuild : ∀ source, shape.build source = (source name).elim missing decoder) :
    shape.Respects := by
  constructor
  · intro member hmember
    rw [hmembers] at hmember
    rw [List.mem_singleton.mp hmember]
    exact respects_test h
  · intro a b source source' hsource
    have hmember := hsource name
    rw [hbuild, hbuild]
    generalize source name = x, source' name = y at hmember
    cases hmember with
    | some hj => exact h hj
    | none => exact .refl missing

theorem respects_required (name : String) {decoder : Decoder α} (h : decoder.Respects) :
    (required name decoder).Respects := by
  apply respects_member h rfl
  intro source
  simp only [required]
  cases source name <;> rfl

theorem respects_defaulting (name : String) (fallback : α) {decoder : Decoder α}
    (h : decoder.Respects) : (defaulting name fallback decoder).Respects := by
  apply respects_member h rfl
  intro source
  simp only [defaulting]
  cases source name <;> rfl

theorem respects_optional (name : String) {decoder : Decoder α} (h : decoder.Respects) :
    (optional name decoder).Respects :=
  respects_defaulting name none h.optional

end Shape

namespace RecordFormat

variable {α : Type} {format : RecordFormat α} {a b : String}

theorem testField_alike (h : format.shape.Respects) {f g : String × Json} (hname : f.1 = g.1)
    (hvalue : Json.Alike a b f.2 g.2) :
    DecodedAlike a b (format.testField f) (format.testField g) := by
  unfold testField
  rw [hname]
  cases hlookup : format.shape.members.lookup g.1 with
  | none => exact .refl _
  | some test =>
    obtain ⟨before, after, hmembers, -⟩ := List.lookup_eq_some_iff.mp hlookup
    exact h.tests (g.1, test) (by simp [hmembers]) hvalue

theorem ofFields_alike (h : format.shape.Respects) {fs gs : List (String × Json)}
    (hfields : Json.AlikeFields a b fs gs) :
    DecodedAlike a b (format.ofFields fs) (format.ofFields gs) := by
  have htests : DecodedAlike a b (fs.forM format.testField) (gs.forM format.testField) :=
    .forM (hfields.imp fun _ _ hfield => testField_alike h hfield.1 hfield.2)
  exact htests.bind fun _ _ => h.build hfields.lookup

theorem ofItems_alike (h : format.shape.Respects) {xs ys : List Json}
    (hitems : List.Forall₂ (Json.Alike a b) xs ys) :
    DecodedAlike a b (format.ofItems xs) (format.ofItems ys) := by
  have htests : List.Forall₂ (fun p q => DecodedAlike a b (p.1.2 p.2) (q.1.2 q.2))
      (format.shape.members.zip xs) (format.shape.members.zip ys) :=
    forall₂_zip hitems fun member hmember _ _ hitem => h.tests member hmember hitem
  have hbuild := h.build fun name =>
    (Json.alikeFields_zip format.shape.names hitems).lookup name
  unfold ofItems
  apply (DecodedAlike.forM htests).bind
  intro _ _
  rw [hitems.length_eq]
  generalize format.shape.build (fun name => (format.shape.names.zip xs).lookup name) = r,
    format.shape.build (fun name => (format.shape.names.zip ys).lookup name) = r' at hbuild
  cases hbuild with
  | decoded x y =>
    dsimp only
    split
    · exact .same _
    · exact .decoded x y
  | same e => exact .refl _
  | text hexpected => exact .text hexpected

/-- Records decode alike from values that are alike. -/
theorem respects_decode (h : format.shape.Respects)
    (hname : Text.Plain ("struct " ++ format.name)) : Decoder.Respects format.decode := by
  intro a b j j' hj
  rcases hj.cases with rfl | ⟨rfl, rfl⟩ | ⟨xs, ys, rfl, rfl, hitems⟩ | ⟨fs, gs, rfl, rfl, hfields⟩
  · exact .refl _
  · exact .text hname
  · exact ofItems_alike h hitems
  · exact ofFields_alike h hfields

end RecordFormat

end DebugServer
