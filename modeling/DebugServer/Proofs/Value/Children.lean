import DebugServer.Proofs.Inspection.Expansion
import DebugServer.Proofs.Value.Truncation

/-!
# The line of a value and its children

A value that can be expanded is shown on one line, and its children are listed. Where the line holds
all of the value, it holds the text of each child, in the order of the list and under its name. A
child is printed one level deeper within the line than on its own, which makes no difference to a
text that nothing is missing from.
-/

namespace DebugServer.Value

variable {m : Memory} {v u : Value} {budget : Nat}

/-- The text of a value when `text` gives those of the values one level below. -/
def textFrom (m : Memory) (text : Value → String) (v : Value) : String :=
  match v.kind with
  | .pointer target => "*" ++ text (m.read target)
  | .interface target => text (m.read target)
  | .array elements | .slice elements => bracedText v.typeName (elements.map text)
  | .struct fields =>
    bracedText v.typeName <| fields.map fun (name, value) =>
      fieldName name value ++ ":" ++ text value
  | .map entries =>
    bracedText v.typeName <| entries.map fun (key, value) => text key ++ ":" ++ text value
  | _ => textWithin m 1 v

theorem textWithin_eq_textFrom (depth : Nat) (v : Value) :
    textWithin m (depth + 1) v = textFrom m (textWithin m depth) v := by
  obtain ⟨typeName, kind⟩ := v
  cases kind <;> rfl

theorem mem_children_map (m : Memory) (typeName : String) {entries : List (Value × Value)}
    {entry : Value × Value} (h : entry ∈ entries) :
    entry.1 ∈ children m (.mk typeName (.map entries)) ∧
      entry.2 ∈ children m (.mk typeName (.map entries)) := by
  constructor <;> refine List.mem_flatMap.mpr ⟨entry, h, ?_⟩ <;> simp

theorem textFrom_congr {text text' : Value → String} (h : ∀ u ∈ children m v, text u = text' u) :
    textFrom m text v = textFrom m text' v := by
  obtain ⟨typeName, kind⟩ := v
  cases kind with
  | pointer target => exact congrArg ("*" ++ ·) (h _ List.mem_cons_self)
  | interface target => exact h _ List.mem_cons_self
  | array elements | slice elements =>
    exact congrArg (bracedText typeName) (List.map_congr_left h)
  | struct fields =>
    apply congrArg (bracedText typeName)
    apply List.map_congr_left
    rintro ⟨name, value⟩ hfield
    simp only [h value (List.mem_map_of_mem hfield)]
  | map entries =>
    apply congrArg (bracedText typeName)
    apply List.map_congr_left
    rintro ⟨key, value⟩ hentry
    obtain ⟨hkey, hvalue⟩ := mem_children_map m typeName hentry
    simp only [h key hkey, h value hvalue]
  | bool | int | uint | float | complex | string | timestamp | nilPointer | nilInterface
  | nilSlice | nilMap | chan | func | other => rfl

/-- Nothing of a text is missing at a depth that the value does not reach. -/
theorem textWithin_succ {depth : Nat} (h : reaches m depth v = false) :
    textWithin m (depth + 1) v = textWithin m depth v := by
  induction depth generalizing v with
  | zero => cases h
  | succ depth ih =>
    rw [textWithin_eq_textFrom, textWithin_eq_textFrom]
    apply textFrom_congr
    intro u hu
    apply ih
    exact Bool.eq_false_iff.mpr (List.any_eq_false.mp h u hu)

/-! ### What fits with a value -/

theorem separated_eq_append {text : String} {texts : List String} (h : text ∈ texts)
    (first : Bool) : ∃ before after, separated first texts = before ++ text ++ after := by
  induction texts generalizing first with
  | nil => cases h
  | cons next rest ih =>
    rcases List.mem_cons.mp h with rfl | hrest
    · refine ⟨if first then "" else ",", separated false rest, ?_⟩
      cases first <;> simp [separated]
    · obtain ⟨before, after, htext⟩ := ih hrest false
      refine ⟨(if first then next else "," ++ next) ++ before, after, ?_⟩
      rw [separated, htext]
      simp only [String.append_assoc]

theorem bracedText_eq_append {lead part trail : String} {texts : List String}
    (h : lead ++ part ++ trail ∈ texts) (typeName : String) :
    ∃ before after, bracedText typeName texts = before ++ part ++ after ∧ before ≠ "" := by
  obtain ⟨before, after, htext⟩ := separated_eq_append h true
  refine ⟨typeName ++ "\x7b" ++ before ++ lead, trail ++ after ++ "\x7d", ?_, by simp⟩
  rw [bracedText, intercalate_eq_separated, htext]
  simp only [String.append_assoc]

/-- The text of a value holds the text of each value below it, and something in front of that unless
the value is an interface. -/
theorem textFrom_eq_append (hu : u ∈ children m v) (text : Value → String) :
    ∃ before after, textFrom m text v = before ++ text u ++ after ∧
      (before ≠ "" ∨
        ∃ typeName target, v = .mk typeName (.interface target) ∧ u = m.read target) := by
  obtain ⟨typeName, kind⟩ := v
  have hbraced (lead trail : String) {texts : List String}
      (hitem : lead ++ text u ++ trail ∈ texts) :
      ∃ before after, bracedText typeName texts = before ++ text u ++ after ∧
        (before ≠ "" ∨ ∃ name target, mk typeName kind = .mk name (.interface target) ∧
          u = m.read target) := by
    obtain ⟨before, after, htext, hbefore⟩ := bracedText_eq_append hitem typeName
    exact ⟨before, after, htext, .inl hbefore⟩
  cases kind with
  | pointer target =>
    obtain rfl : u = m.read target := List.mem_singleton.mp hu
    exact ⟨"*", "", by simp [textFrom, Value.kind], .inl (by decide)⟩
  | interface target =>
    obtain rfl : u = m.read target := List.mem_singleton.mp hu
    exact ⟨"", "", by simp [textFrom, Value.kind], .inr ⟨typeName, target, rfl, rfl⟩⟩
  | array elements | slice elements =>
    apply hbraced "" ""
    exact List.mem_map.mpr ⟨u, hu, by simp⟩
  | struct fields =>
    obtain ⟨field, hfield, rfl⟩ := List.mem_map.mp hu
    apply hbraced (fieldName field.1 field.2 ++ ":") ""
    exact List.mem_map.mpr ⟨field, hfield, by simp⟩
  | map entries =>
    obtain ⟨entry, hentry, hu⟩ := List.mem_flatMap.mp hu
    rcases List.mem_pair.mp hu with rfl | rfl
    · apply hbraced "" (":" ++ text entry.2)
      exact List.mem_map.mpr ⟨entry, hentry, by simp [String.append_assoc]⟩
    · apply hbraced (text entry.1 ++ ":") ""
      exact List.mem_map.mpr ⟨entry, hentry, by simp⟩
  | bool | int | uint | float | complex | string | timestamp | nilPointer | nilInterface
  | nilSlice | nilMap | chan | func | other => cases hu

/-- A value has more text than what is below it, but for an interface, which has its target's. -/
theorem length_lt_textFrom (hu : u ∈ children m v) (text : Value → String) :
    (text u).length < (textFrom m text v).length ∨
      ∃ typeName target, v = .mk typeName (.interface target) ∧ u = m.read target := by
  obtain ⟨before, after, htext, hbefore⟩ := textFrom_eq_append hu text
  rw [htext]
  apply hbefore.imp_left
  intro hbefore
  have hpos : 0 < before.length := Nat.pos_of_ne_zero (mt String.length_eq_zero_iff.mp hbefore)
  rw [String.length_append, String.length_append]
  omega

theorem Exceeds.of_le {more : Nat} (h : Exceeds m v more) (hle : budget ≤ more) :
    Exceeds m v budget := by
  rcases h with hlong | hdeep | ⟨hend, hname⟩
  · exact .inl (by omega)
  · exact .inr (.inl hdeep)
  · by_cases hsame : budget = more
    · exact .inr (.inr ⟨hend.trans hsame.symm, hname⟩)
    · exact .inl (by omega)

/-- Nothing is missing from a child of a complete value, not even at the depth it has within it. -/
theorem textWithin_child (hfits : ¬ Exceeds m v budget) (hu : u ∈ children m v) :
    textWithin m depthLimit u = fullText m u := by
  refine (textWithin_succ ?_).symm
  apply Bool.eq_false_iff.mpr
  intro hreaches
  obtain ⟨w, hw⟩ := reaches_iff.mp hreaches
  exact hfits (.inr (.inl ⟨_, w, Nat.lt_succ_self _, .deeper hu hw⟩))

theorem fullText_of_fits (hfits : ¬ Exceeds m v budget) :
    fullText m v = textFrom m (fullText m) v := by
  rw [fullText, textWithin_eq_textFrom]
  apply textFrom_congr
  intro u hu
  exact textWithin_child hfits hu

/-- A budget that is enough for a value is enough for each value below it. -/
theorem fits_child (hfits : ¬ Exceeds m v budget) (hu : u ∈ children m v) :
    ¬ Exceeds m u budget := by
  have htext := fullText_of_fits hfits
  have hlength : (fullText m u).length < (fullText m v).length ∨
      (fullText m u).length = (fullText m v).length ∧ (EndsUnnamed m u → EndsUnnamed m v) := by
    rw [htext]
    rcases length_lt_textFrom hu (fullText m) with hlt | ⟨typeName, target, rfl, rfl⟩
    · exact .inl hlt
    · exact .inr ⟨rfl, .interface typeName⟩
  intro hexceeds
  apply hfits
  rcases hexceeds with hlong | ⟨k, w, hk, hw⟩ | ⟨hend, hname⟩
  · left
    omega
  · exact .inr (.inl ⟨k + 1, w, by omega, .deeper hu hw⟩)
  · rcases hlength with hlt | ⟨heq, hnamed⟩
    · left
      omega
    · exact .inr (.inr ⟨by omega, hnamed hname⟩)

/-! ### What is printed -/

theorem overflowed_print_new :
    ((Printer.new budget).print m v).overflowed = true ↔ Exceeds m v budget := by
  rw [exceeds_iff, Printer.print, Printer.printWithin_eq, Printer.write_eq]
  rfl

/-- What is printed is a beginning of the text, and an ellipsis if something was dropped. -/
theorem finish_print_eq (m : Memory) (v : Value) (budget : Nat) :
    ((Printer.new budget).print m v).finish =
      String.ofList ((fullText m v).toList.take budget) ++
        if ((Printer.new budget).print m v).overflowed then ellipsis else "" := by
  have htext : ((Printer.new budget).print m v).text =
      String.ofList ((fullText m v).toList.take budget) := by
    rw [Printer.print, Printer.printWithin_eq, Printer.write_eq]
    exact String.empty_append
  rw [Printer.finish, htext]
  split
  · rfl
  · exact String.append_empty.symm

theorem finish_print_new (hfits : ¬ Exceeds m v budget) :
    ((Printer.new budget).print m v).finish = fullText m v := by
  have hkept : ((Printer.new budget).print m v).overflowed = false := by
    rw [← Bool.not_eq_true, overflowed_print_new]
    exact hfits
  have hshort : (fullText m v).toList.length ≤ budget := by
    rw [String.length_toList]
    exact Nat.le_of_not_lt fun hlong => hfits (.inl hlong)
  rw [finish_print_eq, hkept, if_neg Bool.false_ne_true, List.take_of_length_le hshort,
    String.ofList_toList, String.append_empty]

theorem render_of_fits (hnil : v.isNil = false) (hfits : ¬ Exceeds m v budget) :
    render m v budget = textFrom m (fullText m) v := by
  rw [render, hnil, if_neg Bool.false_ne_true, finish_print_new hfits, fullText_of_fits hfits]

/-- A child has the same text within its value as on its own, also in a greater budget. -/
theorem finish_print_child (hfits : ¬ Exceeds m v budget) {more : Nat} (hle : budget ≤ more)
    (hu : u ∈ children m v) : ((Printer.new more).print m u).finish = fullText m u :=
  finish_print_new fun hexceeds => fits_child hfits hu (hexceeds.of_le hle)

/-- Where the line of a value holds all of it, it is made of the texts of the children that are
listed, one after the other and each under its name if it has one in the line; so a client finds on
the line what it finds in the list. -/
theorem render_eq_children {scope : Scope} {keyBudget : Nat}
    (hscope : Scope.ofValue? v = some scope)
    (hfits : ((Printer.new budget).print m v).overflowed = false) (hkeys : budget ≤ keyBudget) :
    let listed := scope.children m keyBudget
    let text (child : NamedValue) : String := ((Printer.new budget).print m child.value).finish
    match v.kind with
    | .array _ | .slice _ => render m v budget = bracedText v.typeName (listed.map text)
    | .struct _ | .map _ =>
      render m v budget =
        bracedText v.typeName (listed.map fun child => child.name ++ ":" ++ text child)
    | .pointer _ => ∃ child, listed = [child] ∧ render m v budget = "*" ++ text child
    | .interface _ => ∃ child, listed = [child] ∧ render m v budget = text child
    | _ => False := by
  intro listed text
  have hnot : ¬ Exceeds m v budget := by
    rw [← overflowed_print_new, hfits]
    exact Bool.false_ne_true
  have hnil : v.isNil = false := by
    apply Bool.eq_false_iff.mpr
    intro hnil
    rw [Scope.ofValue?_eq_none_iff.mpr (.inl hnil)] at hscope
    cases hscope
  have htext : ∀ u ∈ children m v, fullText m u = ((Printer.new budget).print m u).finish :=
    fun u hu => (finish_print_child hnot (Nat.le_refl budget) hu).symm
  have hname : ∀ u ∈ children m v, fullText m u = ((Printer.new keyBudget).print m u).finish :=
    fun u hu => (finish_print_child hnot hkeys hu).symm
  have hlisted : listed = v.namedParts m keyBudget := Scope.children_of_ofValue? hscope m keyBudget
  have htexts : (v.namedParts m keyBudget).map text =
      (v.parts m).map fun u => ((Printer.new budget).print m u).finish := by
    rw [← map_value_namedParts m keyBudget, List.map_map]
    rfl
  rw [render_of_fits hnil hnot, hlisted]
  obtain ⟨typeName, kind⟩ := v
  cases kind with
  | pointer target =>
    exact ⟨⟨"", m.read target⟩, rfl, congrArg ("*" ++ ·) (htext _ List.mem_cons_self)⟩
  | interface target => exact ⟨⟨"", m.read target⟩, rfl, htext _ List.mem_cons_self⟩
  | array elements | slice elements =>
    exact congrArg (bracedText typeName) ((List.map_congr_left htext).trans htexts.symm)
  | struct fields =>
    apply congrArg (bracedText typeName)
    change _ = List.map _ (List.map _ fields)
    rw [List.map_map]
    apply List.map_congr_left
    rintro ⟨name, value⟩ hfield
    simp only [Function.comp, text, htext value (List.mem_map_of_mem hfield), fieldName]
  | map entries =>
    apply congrArg (bracedText typeName)
    change _ = List.map _ (List.map _ entries)
    rw [List.map_map]
    apply List.map_congr_left
    rintro ⟨key, value⟩ hentry
    obtain ⟨hkey, hvalue⟩ := mem_children_map m typeName hentry
    simp only [Function.comp, text, hname key hkey, htext value hvalue]
  | bool | int | uint | float | complex | string | timestamp | nilPointer | nilInterface
  | nilSlice | nilMap | chan | func | other => cases hscope

/-- A structure with a pointer and an embedded map. -/
theorem render_eq_children_embedded :
    let m : Memory := ⟨#[.mk "int" (.int 7)]⟩
    let tags : Value :=
      .mk "main.Tags" (.map [(.mk "string" (.string "a"), .mk "bool" (.bool true))])
    let v : Value := .mk "main.T" (.struct [("next", .mk "*int" (.pointer ⟨0⟩)), ("", tags)])
    let listed := (Scope.fields v).children m 64
    (Scope.ofValue? v = some (.fields v) ∧ ((Printer.new 48).print m v).overflowed = false ∧
      listed.map (·.name) = ["next", "main.Tags"] ∧
      render m v 48 = "main.T\x7bnext:*7,main.Tags:main.Tags\x7b\"a\":true\x7d\x7d") ∧
    render m v 48 = bracedText "main.T"
      (listed.map fun child =>
        child.name ++ ":" ++ ((Printer.new 48).print m child.value).finish) := by
  intro m tags v listed
  have hscope : Scope.ofValue? v = some (.fields v) := rfl
  have hfits : ((Printer.new 48).print m v).overflowed = false := by decide +kernel
  exact ⟨⟨hscope, hfits, by decide +kernel, by decide +kernel⟩,
    render_eq_children hscope hfits (by decide)⟩

end DebugServer.Value
