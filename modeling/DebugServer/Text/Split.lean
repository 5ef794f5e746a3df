/-!
# Splitting text at a character
-/

namespace DebugServer.Text

/-- The text before and after the first `sep`, which is in neither part. -/
def splitFirst (sep : Char) : List Char → Option (List Char × List Char)
  | [] => none
  | c :: rest =>
    if c = sep then some ([], rest)
    else (splitFirst sep rest).map fun (before, after) => (c :: before, after)

theorem eq_append_of_splitFirst {sep : Char} {s before after : List Char}
    (h : splitFirst sep s = some (before, after)) : s = before ++ sep :: after := by
  induction s generalizing before with
  | nil => simp [splitFirst] at h
  | cons c rest ih =>
    by_cases hc : c = sep
    · simp only [splitFirst, hc, if_true, Option.some.injEq, Prod.mk.injEq] at h
      obtain ⟨rfl, rfl⟩ := h
      simp [hc]
    · simp only [splitFirst, hc, if_false, Option.map_eq_some_iff, Prod.mk.injEq] at h
      obtain ⟨⟨before', after'⟩, hrest, rfl, rfl⟩ := h
      simp [ih hrest]

theorem length_lt_of_splitFirst {sep : Char} {s before after : List Char}
    (h : splitFirst sep s = some (before, after)) : after.length < s.length := by
  rw [eq_append_of_splitFirst h]
  simp
  omega

/-- The parts of a text between the separators; there is one more than there are separators. -/
def splitAll (sep : Char) (s : List Char) : List (List Char) :=
  match _h : splitFirst sep s with
  | none => [s]
  | some (before, after) => before :: splitAll sep after
termination_by s.length
decreasing_by exact length_lt_of_splitFirst _h

/-- The text before and after the first occurrence of a word. -/
def splitWord (word : List Char) : List Char → Option (List Char × List Char)
  | [] => if word.isEmpty then some ([], []) else none
  | c :: rest =>
    if word.isPrefixOf (c :: rest) then some ([], (c :: rest).drop word.length)
    else (splitWord word rest).map fun (before, after) => (c :: before, after)

def containsWord (word s : List Char) : Bool :=
  (splitWord word s).isSome

end DebugServer.Text
