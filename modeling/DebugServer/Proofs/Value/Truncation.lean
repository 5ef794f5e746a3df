import Mathlib.Data.List.Basic
import DebugServer.Proofs.Decimal.Layout
import DebugServer.Proofs.Value.Printer

/-!
# What a budget leaves of a text

A value has a text in full, but for what is nested too deep in it. A printer writes as much of this
text as its budget allows and notes whether that was all. It tests for a full budget before a value,
before an item and before a piece of text; the tests only make a difference where the rest of the
text is empty.
-/

namespace DebugServer.Value

variable {m : Memory}

/-- The values one level below a value that its text is made of. -/
def children (m : Memory) (v : Value) : List Value :=
  match v.kind with
  | .pointer target | .interface target => [m.read target]
  | .array elements | .slice elements => elements
  | .struct fields => fields.map Prod.snd
  | .map entries => entries.flatMap fun (key, value) => [key, value]
  | _ => []

def bracedText (typeName : String) (items : List String) : String :=
  typeName ++ "\x7b" ++ ",".intercalate items ++ "\x7d"

/-- The text of a value; what is `depth` levels below it has no part in it. -/
def textWithin (m : Memory) : (depth : Nat) → Value → String
  | 0, _ => ""
  | depth + 1, v =>
    match v.kind with
    | .bool b => if b then "true" else "false"
    | .int n => toString n
    | .uint n => toString n
    | .float bits => floatText bits
    | .complex re im => complexText re im
    | .string s => literal s
    | .timestamp t => v.typeName ++ " " ++ t.text
    | .nilPointer => v.typeName ++ " nil"
    | .pointer target => "*" ++ textWithin m depth (m.read target)
    | .nilInterface => "nil"
    | .interface target => textWithin m depth (m.read target)
    | .array elements | .slice elements =>
      bracedText v.typeName (elements.map (textWithin m depth))
    | .nilSlice | .nilMap => bracedText v.typeName []
    | .struct fields =>
      bracedText v.typeName <| fields.map fun (name, value) =>
        fieldName name value ++ ":" ++ textWithin m depth value
    | .map entries =>
      bracedText v.typeName <| entries.map fun (key, value) =>
        textWithin m depth key ++ ":" ++ textWithin m depth value
    | .chan _ | .func _ => v.typeName
    | .other text => v.typeName ++ " " ++ text

/-- `Nested m k v w`: the value `w` is `k` levels below `v`. -/
inductive Nested (m : Memory) : Nat → Value → Value → Prop where
  | self (v : Value) : Nested m 0 v v
  | deeper {k : Nat} {v u w : Value} (hu : u ∈ children m v) (hw : Nested m k u w) :
    Nested m (k + 1) v w

/-- Pointers and interfaces lead from a value to a channel or function whose type has no name. -/
inductive EndsUnnamed (m : Memory) : Value → Prop where
  | chan (isNil : Bool) : EndsUnnamed m (.mk "" (.chan isNil))
  | func (isNil : Bool) : EndsUnnamed m (.mk "" (.func isNil))
  | pointer (typeName : String) {target : Cell} (h : EndsUnnamed m (m.read target)) :
    EndsUnnamed m (.mk typeName (.pointer target))
  | interface (typeName : String) {target : Cell} (h : EndsUnnamed m (m.read target)) :
    EndsUnnamed m (.mk typeName (.interface target))

/-- Whether some value is `depth` levels below this one. -/
def reaches (m : Memory) : (depth : Nat) → Value → Bool
  | 0, _ => true
  | depth + 1, v => (children m v).any (reaches m depth)

/-- Whether fewer than `depth` pointers and interfaces lead to a channel or function whose type has
no name. -/
def endsUnnamed (m : Memory) : (depth : Nat) → Value → Bool
  | 0, _ => false
  | depth + 1, v =>
    match v.kind with
    | .pointer target | .interface target => endsUnnamed m depth (m.read target)
    | .chan _ | .func _ => v.typeName = ""
    | _ => false

namespace Printer

/-- The printer with its overflow noted, if `dropped` says that there was one. -/
def mark (p : Printer) (dropped : Bool) : Printer :=
  { p with overflowed := p.overflowed || dropped }

def remaining (p : Printer) : Nat :=
  p.budget - p.written

variable (p : Printer) (s t : String) (b c : Bool)

@[simp] theorem mark_false : p.mark false = p := by simp [mark]

@[simp] theorem mark_mark : (p.mark b).mark c = p.mark (b || c) := by simp [mark, Bool.or_assoc]

@[simp] theorem remaining_mark : (p.mark b).remaining = p.remaining := rfl

theorem overflow_eq_mark : p.overflow = p.mark true := by simp [overflow, mark]

theorem isFull_iff : p.isFull = true ↔ p.remaining = 0 := by
  simp [isFull, remaining, Nat.sub_eq_zero_iff_le]

@[simp] theorem write_empty : p.write "" = p := rfl

/-- Writing takes what fits and notes whether that was all. -/
theorem write_eq : p.write s =
    { p with
      text := p.text ++ String.ofList (s.toList.take p.remaining)
      written := p.written + min s.length p.remaining
      overflowed := p.overflowed || decide (p.remaining < s.length) } := by
  by_cases hs : s = ""
  · simp [write, hs]
  have hpos : 0 < s.length := by
    rw [Nat.pos_iff_ne_zero, ne_eq, String.length_eq_zero_iff]
    exact hs
  have hwrite : p.write s =
      if p.remaining = 0 then p.overflow
      else if s.length ≤ p.remaining then
        { p with text := p.text ++ s, written := p.written + s.length }
      else
        { p with
          text := p.text ++ String.ofList (s.toList.take p.remaining)
          written := p.budget
          overflowed := true } := if_neg hs
  rw [hwrite]
  by_cases hnone : p.remaining = 0
  · rw [if_pos hnone, overflow]
    simp [hnone, hpos]
  rw [if_neg hnone]
  by_cases hfits : s.length ≤ p.remaining
  · have hall : s.toList.take p.remaining = s.toList :=
      List.take_of_length_le (by rwa [String.length_toList])
    rw [if_pos hfits, hall, Nat.min_eq_left hfits, decide_eq_false (by omega)]
    simp
  · have hend : p.written + min s.length p.remaining = p.budget := by
      have : p.remaining = p.budget - p.written := rfl
      omega
    rw [if_neg hfits, hend, decide_eq_true (by omega)]
    simp [remaining]

theorem remaining_write : (p.write s).remaining = p.remaining - s.length := by
  rw [write_eq]
  simp only [remaining]
  omega

theorem write_mark : (p.mark b).write s = (p.write s).mark b := by
  rw [write_eq, write_eq, remaining_mark]
  simp only [mark, Bool.or_right_comm]

theorem write_write : (p.write s).write t = p.write (s ++ t) := by
  rw [write_eq, remaining_write, write_eq, write_eq]
  simp only [String.toList_append, List.take_append, String.length_append, String.length_toList,
    mk.injEq]
  refine ⟨trivial, ?_, ?_, ?_⟩
  · simp [String.append_assoc]
  · omega
  · have hover : p.remaining < s.length ∨ p.remaining - s.length < t.length ↔
        p.remaining < s.length + t.length := by omega
    rw [Bool.or_assoc, ← Bool.decide_or, decide_eq_decide.mpr hover]

theorem mark_write_of_lt (h : p.remaining < s.length) : (p.write s).mark b = p.write s := by
  simp [write_eq, mark, h]

theorem write_of_isFull (h : p.isFull = true) (hs : s ≠ "") : p.write s = p.overflow := by
  have hnone : p.budget - p.written = 0 := p.isFull_iff.mp h
  simp [write, hs, hnone]

end Printer

/-! ### The texts of items -/

/-- Texts with a comma between any two, and before the first one unless it is the first of all. -/
def separated : (first : Bool) → List String → String
  | _, [] => ""
  | first, text :: rest => (if first then text else "," ++ text) ++ separated false rest

theorem intercalate_eq_separated (texts : List String) :
    ",".intercalate texts = separated true texts := by
  cases texts with
  | nil => rfl
  | cons text rest =>
    induction rest generalizing text with
    | nil => simp [separated]
    | cons next rest ih =>
      rw [String.intercalate_cons_cons, ih next]
      simp [separated, String.append_assoc]

namespace Printer

/-- Printing a value means to write `text` and, if `cut`, to note that something was dropped. That
much is certain when more is to be written. -/
def Writes (print : Printer → Printer) (text : String) (cut : Bool) : Prop :=
  ∀ p s, s ≠ "" → (print p).write s = (p.write (text ++ s)).mark cut

theorem write_items {α : Type} {print : α → Printer → Printer} {text : α → String} {cut : α → Bool}
    {xs : List α} (hprint : ∀ x ∈ xs, Writes (print x) (text x) (cut x)) (first : Bool) :
    Writes (items print first xs) (separated first (xs.map text)) (xs.any cut) := by
  induction xs generalizing first with
  | nil =>
    intro p s hs
    simp [items, separated]
  | cons x rest ih =>
    intro p s hs
    have hmore : ∀ start : String, start ++ s ≠ "" := by
      intro start h
      exact hs (String.append_eq_empty_iff.mp h).2
    unfold items
    split
    · rename_i hfull
      rw [write_of_isFull p _ hfull (hmore _), overflow_eq_mark, write_mark,
        write_of_isFull p _ hfull hs, overflow_eq_mark]
      simp
    · rw [ih (fun x hx => hprint x (List.mem_cons_of_mem _ hx)) false _ s hs,
        hprint x List.mem_cons_self _ _ (hmore _)]
      cases first with
      | false => simp [separated, write_write, String.append_assoc]
      | true => simp [separated, String.append_assoc]

theorem braced_eq {α : Type} {print : α → Printer → Printer} {text : α → String} {cut : α → Bool}
    {xs : List α} (hprint : ∀ x ∈ xs, Writes (print x) (text x) (cut x)) (p : Printer)
    (typeName : String) :
    p.braced typeName print xs =
      (p.write (bracedText typeName (xs.map text))).mark (xs.any cut) := by
  rw [braced, write_items hprint true _ _ (by decide), write_write, write_write,
    ← intercalate_eq_separated]
  simp [bracedText, String.append_assoc]

theorem Writes.after {print : Printer → Printer} {text : String} {cut : Bool}
    (h : Writes print text cut) (start : String) :
    Writes (fun p => print (p.write start)) (start ++ text) cut := by
  intro p s hs
  rw [h _ s hs, write_write, String.append_assoc]

theorem Writes.then {print next : Printer → Printer} {text more sep : String} {cut cutNext : Bool}
    (h : Writes print text cut) (hnext : Writes next more cutNext) (hsep : sep ≠ "") :
    Writes (fun p => next ((print p).write sep)) (text ++ sep ++ more) (cut || cutNext) := by
  intro p s hs
  have hmore : sep ++ (more ++ s) ≠ "" := fun h => hsep (String.append_eq_empty_iff.mp h).1
  rw [hnext _ s hs, write_write, h p _ hmore, mark_mark]
  simp [String.append_assoc]

theorem Writes.of_eq {print : Printer → Printer} {text : String} {cut last : Bool}
    (h : ∀ p, print p = (p.write text).mark (cut || last && p.remaining == text.length)) :
    Writes print text cut := by
  intro p s hs
  have hpos : 0 < s.length := Nat.pos_of_ne_zero (mt String.length_eq_zero_iff.mp hs)
  have hlast : (p.write (text ++ s)).mark (last && p.remaining == text.length) =
      p.write (text ++ s) := by
    by_cases hend : p.remaining = text.length
    · exact mark_write_of_lt p _ _ (by rw [String.length_append]; omega)
    · simp [beq_eq_false_iff_ne.mpr hend]
  rw [h, write_mark, write_write, Bool.or_comm, ← mark_mark, hlast]

end Printer

/-! ### The text of a value -/

theorem bracedText_ne_empty (typeName : String) (items : List String) :
    bracedText typeName items ≠ "" := by
  simp [bracedText]

/-- A text is empty only if it was cut off or if a name is missing. -/
theorem reaches_or_endsUnnamed_of_text_empty {depth : Nat} {v : Value}
    (h : textWithin m depth v = "") : (reaches m depth v || endsUnnamed m depth v) = true := by
  induction depth generalizing v with
  | zero => rfl
  | succ depth ih =>
    obtain ⟨typeName, kind⟩ := v
    cases kind with
    | interface target => simpa [reaches, children, endsUnnamed, kind] using ih h
    | chan | func =>
      have hname : typeName = "" := h
      simp [endsUnnamed, kind, Value.typeName, hname]
    | bool b => cases b <;> simp [textWithin, kind] at h
    | int n => cases n <;> simp [textWithin, kind, Int.repr] at h
    | float bits => exact absurd h (Decimal.Layout.write_ne_empty (by decide) bits)
    | array | nilSlice | slice | struct | nilMap | map =>
      exact absurd h (bracedText_ne_empty _ _)
    | uint | complex | string | timestamp | nilPointer | pointer | nilInterface | other =>
      simp [textWithin, kind, complexText, literal] at h

namespace Printer

/-- A printer writes the text of a value as far as it fits. It also counts as an overflow if the
printer is full where the text is cut off or where a name is missing. -/
theorem printWithin_eq (depth : Nat) (v : Value) (p : Printer) :
    printWithin m depth v p = (p.write (textWithin m depth v)).mark
      (reaches m depth v ||
        endsUnnamed m depth v && p.remaining == (textWithin m depth v).length) := by
  induction depth generalizing v p with
  | zero => simp [printWithin, textWithin, reaches, overflow_eq_mark]
  | succ depth ih =>
    have hprint (v : Value) :
        Writes (printWithin m depth v) (textWithin m depth v) (reaches m depth v) :=
      Writes.of_eq (ih v)
    unfold printWithin
    split
    -- The full printer notes an overflow whether or not there is text left, so an empty text has
    -- to be one of the two exceptions.
    · rename_i hfull
      by_cases htext : textWithin m (depth + 1) v = ""
      · have hdropped := reaches_or_endsUnnamed_of_text_empty htext
        rw [htext, p.isFull_iff.mp hfull, overflow_eq_mark]
        simp [hdropped]
      · rw [write_of_isFull p _ hfull htext, overflow_eq_mark, mark_mark, Bool.true_or]
    rename_i hfull
    have hroom : p.remaining ≠ 0 := fun hnone => hfull (p.isFull_iff.mpr hnone)
    obtain ⟨typeName, kind⟩ := v
    simp only [textWithin, reaches, children, endsUnnamed]
    cases kind with
    | pointer target =>
      have hstar : (p.remaining - "*".length == (textWithin m depth (m.read target)).length) =
          (p.remaining == ("*" ++ textWithin m depth (m.read target)).length) := by
        have hone : "*".length = 1 := rfl
        rw [String.length_append, Bool.eq_iff_iff, beq_iff_eq, beq_iff_eq]
        omega
      simp [kind, ih, write_write, remaining_write, hstar]
    | interface target => simp [kind, ih]
    | chan | func =>
      by_cases hname : typeName = ""
      · simp [kind, Value.typeName, hname, beq_eq_false_iff_ne.mpr hroom]
      · simp [kind, Value.typeName, hname]
    | array | slice | nilSlice | nilMap => simp [kind, braced_eq fun x _ => hprint x]
    | struct fields =>
      have hfield : ∀ field ∈ fields,
          Writes (fun p =>
              printWithin m depth field.2 ((p.write (fieldName field.1 field.2)).write ":"))
            (fieldName field.1 field.2 ++ ":" ++ textWithin m depth field.2)
            (reaches m depth field.2) := by
        intro field _
        simpa [write_write] using (hprint field.2).after (fieldName field.1 field.2 ++ ":")
      simp [kind, braced_eq hfield, Function.comp_def]
    | map entries =>
      have hentry : ∀ entry ∈ entries,
          Writes (fun p => printWithin m depth entry.2 ((printWithin m depth entry.1 p).write ":"))
            (textWithin m depth entry.1 ++ ":" ++ textWithin m depth entry.2)
            (reaches m depth entry.1 || reaches m depth entry.2) :=
        fun entry _ => (hprint entry.1).then (hprint entry.2) (by decide)
      simp [kind, braced_eq hentry]
    | bool | int | float | uint | complex | string | timestamp | nilPointer | nilInterface
    | other =>
      simp [kind, Value.typeName, write_write, String.append_assoc]

theorem finish_write_new (budget : Nat) (s : String) (dropped : Bool) :
    (((new budget).write s).mark dropped).finish = String.ofList (s.toList.take budget) ++
      if decide (budget < s.length) || dropped then ellipsis else "" := by
  have htext : (((new budget).write s).mark dropped).text =
      String.ofList (s.toList.take budget) := by
    rw [write_eq]
    exact String.empty_append
  have hoverflowed : (((new budget).write s).mark dropped).overflowed =
      (decide (budget < s.length) || dropped) := by
    rw [write_eq]
    rfl
  rw [finish, hoverflowed, htext]
  cases decide (budget < s.length) || dropped <;> simp

end Printer

/-! ### What is dropped -/

theorem reaches_iff {depth : Nat} {v : Value} :
    reaches m depth v = true ↔ ∃ w, Nested m depth v w := by
  induction depth generalizing v with
  | zero => exact ⟨fun _ => ⟨v, .self v⟩, fun _ => rfl⟩
  | succ depth ih =>
    simp only [reaches, List.any_eq_true, ih]
    constructor
    · rintro ⟨u, hu, w, hw⟩
      exact ⟨w, .deeper hu hw⟩
    · rintro ⟨w, _ | ⟨hu, hw⟩⟩
      exact ⟨_, hu, w, hw⟩

theorem Nested.exists_of_le {k depth : Nat} {v w : Value} (h : Nested m k v w)
    (hdepth : depth ≤ k) : ∃ u, Nested m depth v u := by
  induction h generalizing depth with
  | self v =>
    obtain rfl := Nat.le_zero.mp hdepth
    exact ⟨v, .self v⟩
  | deeper hu _ ih =>
    cases depth with
    | zero => exact ⟨_, .self _⟩
    | succ depth =>
      obtain ⟨w, hw⟩ := ih (Nat.le_of_succ_le_succ hdepth)
      exact ⟨w, .deeper hu hw⟩

theorem endsUnnamed_sound {depth : Nat} {v : Value} (h : endsUnnamed m depth v = true) :
    EndsUnnamed m v := by
  induction depth generalizing v with
  | zero => cases h
  | succ depth ih =>
    obtain ⟨typeName, kind⟩ := v
    cases kind with
    | pointer target => exact .pointer typeName (ih h)
    | interface target => exact .interface typeName (ih h)
    | chan isNil =>
      obtain rfl : typeName = "" := of_decide_eq_true h
      exact .chan isNil
    | func isNil =>
      obtain rfl : typeName = "" := of_decide_eq_true h
      exact .func isNil
    | _ => cases h

theorem EndsUnnamed.reaches_or {v : Value} (h : EndsUnnamed m v) (depth : Nat) :
    reaches m depth v = true ∨ endsUnnamed m depth v = true := by
  induction h generalizing depth with
  | chan | func =>
    cases depth with
    | zero => exact .inl rfl
    | succ depth => exact .inr rfl
  | pointer _ _ ih | interface _ _ ih =>
    cases depth with
    | zero => exact .inl rfl
    | succ depth => simpa [reaches, children, endsUnnamed, kind] using ih depth

/-- The text of a value in full, but for what is nested too deep. -/
def fullText (m : Memory) (v : Value) : String :=
  textWithin m (depthLimit + 1) v

/-- A budget is not enough for the text of a value: the text is longer, or something in the value is
nested too deep, or the budget is used up where a name is missing. -/
def Exceeds (m : Memory) (v : Value) (budget : Nat) : Prop :=
  budget < (fullText m v).length ∨ (∃ k w, depthLimit < k ∧ Nested m k v w) ∨
    ((fullText m v).length = budget ∧ EndsUnnamed m v)

theorem exceeds_iff {v : Value} {budget : Nat} :
    Exceeds m v budget ↔ (decide (budget < (fullText m v).length) ||
      (reaches m (depthLimit + 1) v ||
        endsUnnamed m (depthLimit + 1) v && budget == (fullText m v).length)) = true := by
  have hdeep : (∃ k w, depthLimit < k ∧ Nested m k v w) ↔ reaches m (depthLimit + 1) v = true := by
    rw [reaches_iff]
    constructor
    · rintro ⟨k, w, hk, hw⟩
      exact hw.exists_of_le hk
    · rintro ⟨w, hw⟩
      exact ⟨_, w, Nat.lt_succ_self _, hw⟩
  simp only [Exceeds, hdeep, Bool.or_eq_true, Bool.and_eq_true, decide_eq_true_eq, beq_iff_eq]
  constructor
  · rintro (hlong | hdeep | ⟨hend, hname⟩)
    · exact .inl hlong
    · exact .inr (.inl hdeep)
    · exact .inr ((hname.reaches_or _).imp_right fun h => ⟨h, hend.symm⟩)
  · rintro (hlong | hdeep | ⟨hname, hend⟩)
    · exact .inl hlong
    · exact .inr (.inl hdeep)
    · exact .inr (.inr ⟨hend.symm, endsUnnamed_sound hname⟩)

/-- A value that is not nil is shown by the first characters of its text, as many as the budget
allows, with an ellipsis exactly if the budget is not enough; otherwise by its text. In any case
only the ellipsis exceeds the budget. -/
theorem render_truncates (m : Memory) (v : Value) (budget : Nat) :
    (v.isNil = false →
      (Exceeds m v budget →
        render m v budget = String.ofList ((fullText m v).toList.take budget) ++ ellipsis) ∧
      (¬ Exceeds m v budget → render m v budget = fullText m v)) ∧
    (render m v budget).length ≤ budget + 3 := by
  have hprint : ((Printer.new budget).print m v).finish =
      String.ofList ((fullText m v).toList.take budget) ++
        if decide (budget < (fullText m v).length) || (reaches m (depthLimit + 1) v ||
          endsUnnamed m (depthLimit + 1) v && budget == (fullText m v).length)
        then ellipsis else "" := by
    rw [Printer.print, Printer.printWithin_eq, Printer.finish_write_new]
    rfl
  refine ⟨fun hnil => ?_, ?_⟩
  · rw [render, hnil, if_neg Bool.false_ne_true, hprint, exceeds_iff]
    constructor
    · intro hexceeds
      rw [if_pos hexceeds]
    · intro hfits
      have hlong : (fullText m v).toList.length ≤ budget := by
        rw [String.length_toList]
        simp only [Bool.or_eq_true, decide_eq_true_eq, not_or] at hfits
        omega
      rw [if_neg hfits, List.take_of_length_le hlong]
      simp
  · rw [render]
    split
    · exact Nat.le_add_left 3 budget
    · rw [hprint, String.length_append, String.length_ofList, List.length_take]
      have hellipsis (b : Bool) : (if b then ellipsis else "").length ≤ 3 := by
        cases b <;> decide
      exact Nat.add_le_add (Nat.min_le_left _ _) (hellipsis _)

/-- A pointer to a channel whose type has no name has the text `*`. -/
theorem render_truncates_pointer :
    let m : Memory := ⟨#[.mk "" (.chan false)]⟩
    let v : Value := .mk "" (.pointer ⟨0⟩)
    v.isNil = false ∧ fullText m v = "*" ∧ Exceeds m v 1 ∧ render m v 1 = "*..." ∧
      ¬ Exceeds m v 2 ∧ render m v 2 = "*" := by
  intro m v
  have htext : fullText m v = "*" := by decide
  have hexceeds : Exceeds m v 1 := .inr (.inr ⟨by rw [htext]; rfl, .pointer _ (.chan _)⟩)
  have hfits : ¬ Exceeds m v 2 := by
    rw [exceeds_iff]
    decide
  refine ⟨rfl, htext, hexceeds, ?_, hfits, ?_⟩
  · rw [((render_truncates m v 1).1 rfl).1 hexceeds, htext]
    decide
  · rw [((render_truncates m v 2).1 rfl).2 hfits, htext]

/-- A pointer to itself. -/
example : render ⟨#[.mk "" (.pointer ⟨0⟩)]⟩ (.mk "" (.pointer ⟨0⟩)) 80 =
    String.ofList (List.replicate 65 '*') ++ "..." := by
  decide

end DebugServer.Value
