import DebugServer.Text.Split

/-!
# Redacted error text

Error messages can quote what the other side sent. Before a message leaves the program, what
stands between quotes is replaced. The rules look at the text alone, so they also hold for
messages whose parts are no longer known.
-/

namespace DebugServer.Text

def mark : List Char :=
  "<redacted>".toList

/-- Replaces what stands between the first two quotes, the next two, and so on. The flag says
whether every quote had a partner; the text after one that has none is kept. -/
def redactQuotes (s : List Char) : List Char × Bool :=
  match _opening : splitFirst '"' s with
  | none => (s, true)
  | some (before, rest) =>
    match _closing : splitFirst '"' rest with
    | none => (before ++ '"' :: rest, false)
    | some (_, after) =>
      let (text, paired) := redactQuotes after
      (before ++ '"' :: mark ++ '"' :: text, paired)
termination_by s.length
decreasing_by
  exact Nat.lt_trans (length_lt_of_splitFirst _closing) (length_lt_of_splitFirst _opening)

/-- Replaces what stands between the first two backticks. -/
def redactFirstTicks (s : List Char) : List Char :=
  match splitFirst '\x60' s with
  | none => s
  | some (before, rest) =>
    match splitFirst '\x60' rest with
    | none => s
    | some (_, after) => before ++ '\x60' :: mark ++ '\x60' :: after

/-- Redacts the quoted parts of a message and then its first part between backticks, which is
left alone when a quote has no partner. -/
def redactMessage (s : String) : String :=
  let (text, paired) := redactQuotes s.toList
  String.ofList (if paired then redactFirstTicks text else text)

/-! ### Messages about configurations

The texts that these quote can hold quotes and backticks themselves, so the ends of what has to go
are found by the words around it. -/

/-- The text after a closing quote; a backslash keeps the next character from closing, unless that
is a line feed, which nothing in a quoted text can follow. -/
def afterQuoted (quote : Char) : List Char → Option (List Char)
  | [] => none
  | '\\' :: c :: rest => if c = '\n' then none else afterQuoted quote rest
  | c :: rest =>
    if c = quote then some rest
    else if c = '\\' then none
    else afterQuoted quote rest

theorem length_afterQuoted_le {quote : Char} {s rest : List Char}
    (h : afterQuoted quote s = some rest) : rest.length ≤ s.length := by
  fun_induction afterQuoted quote s with
  | case1 => simp at h
  | case2 => simp at h
  | case3 c more _ ih =>
    have := ih h
    simp only [List.length_cons]
    omega
  | case4 =>
    obtain rfl := Option.some.inj h
    simp
  | case5 => simp at h
  | case6 c more _ _ _ ih =>
    have := ih h
    simp only [List.length_cons]
    omega

/-- Replaces every text between quotes of one kind. -/
def redactQuoted (quote : Char) (s : List Char) : List Char :=
  match s with
  | [] => []
  | c :: rest =>
    if c = quote then
      match _closing : afterQuoted quote rest with
      | some after => quote :: mark ++ quote :: redactQuoted quote after
      | none => c :: redactQuoted quote rest
    else c :: redactQuoted quote rest
termination_by s.length
decreasing_by
  · exact Nat.lt_succ_of_le (length_afterQuoted_le _closing)
  · simp
  · simp

/-- Where a key that is not known is quoted: the text up to its backtick, and the rest. -/
def unknownName (s : List Char) : Option (List Char × List Char) :=
  let after (word : String) : Option (List Char × List Char) :=
    (splitWord word.toList s).map fun (before, rest) => (before ++ word.toList, rest)
  match after "unknown field \x60", after "unknown variant \x60" with
  | some a, some b => if a.1.length ≤ b.1.length then some a else some b
  | some a, none => some a
  | none, b => b

/-- Where a value of a wrong type is quoted: the text up to its backtick, which stands before what
was expected, and the rest. -/
def invalidScalar (s : List Char) : Option (List Char × List Char) :=
  if containsWord "invalid type:".toList s || containsWord "invalid value:".toList s then
    let head := match splitWord ", expected".toList s with
      | some (head, _) => head
      | none => s
    (splitFirst '\x60' head).map fun (before, _) =>
      (before ++ ['\x60'], s.drop (before.length + 1))
  else none

/-- The text from the closing backtick on, which is the one before what was expected, if any is. -/
def fromClosingTick (s : List Char) : Option (List Char) :=
  let closing := "\x60, expected".toList
  match splitWord closing s with
  | some (_, rest) => some (closing ++ rest)
  | none => (splitFirst '\x60' s).map fun (_, rest) => '\x60' :: rest

def redactName (s : List Char) : List Char :=
  match (unknownName s).or (invalidScalar s) with
  | none => s
  | some (before, rest) =>
    match fromClosingTick rest with
    | none => s
    | some rest => before ++ mark ++ rest

/-- Redacts the quoted texts of a message about a configuration, and then the key or value that it
complains about. -/
def redactConfigMessage (s : String) : String :=
  String.ofList (redactName (redactQuoted '\'' (redactQuoted '"' s.toList)))

end DebugServer.Text
