import Mathlib.Data.Bool.AllAny
import DebugServer.Proofs.Text.Redacted

/-!
# What redaction hides in messages about configurations

A quoted text disappears whatever it holds, because redaction reads the escapes as they were
written, and so does a number between backticks. A key that is not known is quoted as it stands: it
disappears up to the first words in it that look like the end of the quotation.
-/

namespace DebugServer.Text

section

variable {word s t before after : List Char} {c : Char}

theorem splitWord_of_notMem (hword : c ∈ word) (hs : c ∉ s) : splitWord word s = none := by
  induction s with
  | nil =>
    cases word with
    | nil => cases hword
    | cons d word => rfl
  | cons d rest ih =>
    have hprefix : word.isPrefixOf (d :: rest) = false := by
      rw [← Bool.not_eq_true, List.isPrefixOf_iff_prefix]
      exact fun h => hs (h.subset hword)
    rw [List.mem_cons, not_or] at hs
    simp [splitWord, hprefix, ih hs.2]

theorem eq_append_of_splitWord (h : splitWord word s = some (before, after)) :
    s = before ++ word ++ after := by
  induction s generalizing before with
  | nil =>
    unfold splitWord at h
    split at h
    · rename_i hempty
      cases h
      simpa using hempty
    · cases h
  | cons d rest ih =>
    unfold splitWord at h
    split at h
    · rename_i hprefix
      obtain ⟨more, hmore⟩ := List.isPrefixOf_iff_prefix.mp hprefix
      cases h
      simp [← hmore]
    · obtain ⟨⟨front, back⟩, hrest, hparts⟩ := Option.map_eq_some_iff.mp h
      cases hparts
      simp [ih hrest]

theorem splitWord_eq_none_iff (hword : word ≠ []) : splitWord word s = none ↔ ¬word <:+: s := by
  induction s with
  | nil => simp [splitWord, hword]
  | cons d rest ih =>
    rw [List.infix_cons_iff, not_or, ← ih, ← List.isPrefixOf_iff_prefix]
    by_cases hprefix : word.isPrefixOf (d :: rest) = true
    · simp [splitWord, hprefix]
    · simp [splitWord, hprefix]

/-- The first occurrence of a word stays the first one if the text goes on. -/
theorem splitWord_append (h : splitWord word s = some (before, after)) (t : List Char) :
    splitWord word (s ++ t) = some (before, after ++ t) := by
  induction s generalizing before with
  | nil =>
    have hword := eq_append_of_splitWord h
    obtain ⟨rfl, rfl, rfl⟩ : before = [] ∧ word = [] ∧ after = [] := by simpa using hword
    cases t <;> rfl
  | cons d rest ih =>
    unfold splitWord at h
    split at h
    · rename_i hprefix
      cases h
      have hlonger : word.isPrefixOf (d :: (rest ++ t)) = true := by
        rw [List.isPrefixOf_iff_prefix] at hprefix ⊢
        exact hprefix.trans (List.prefix_append (d :: rest) t)
      have hlength := (List.isPrefixOf_iff_prefix.mp hprefix).length_le
      simp only [List.cons_append, splitWord, hlonger, if_true]
      rw [← List.cons_append, List.drop_append_of_le_length hlength]
    · rename_i hprefix
      obtain ⟨⟨front, back⟩, hrest, hparts⟩ := Option.map_eq_some_iff.mp h
      cases hparts
      -- The word still fits into the rest, so it begins no earlier than before.
      have hlonger : word.isPrefixOf (d :: (rest ++ t)) = false := by
        have hfits := congrArg List.length (eq_append_of_splitWord hrest)
        simp only [List.length_append] at hfits
        rw [← Bool.not_eq_true, List.isPrefixOf_iff_prefix, ← List.cons_append]
        intro hlong
        apply hprefix
        rw [List.isPrefixOf_iff_prefix]
        apply List.prefix_of_prefix_length_le hlong (List.prefix_append (d :: rest) t)
        simp only [List.length_cons]
        omega
      simp [splitWord, hlonger, ih hrest]

/-- A word whose first character comes only once in it does not overlap with itself. -/
theorem splitWord_end (hword : c ∉ word) (h : splitWord (c :: word) s = none) (t : List Char) :
    splitWord (c :: word) (s ++ c :: word ++ t) = some (s, t) := by
  induction s with
  | nil =>
    have hprefix : (c :: word).isPrefixOf (c :: (word ++ t)) = true := by
      rw [List.isPrefixOf_iff_prefix, ← List.cons_append]
      exact List.prefix_append _ t
    simp only [List.nil_append, List.cons_append, splitWord, hprefix, if_true]
    simp
  | cons d rest ih =>
    unfold splitWord at h
    split at h
    · cases h
    rename_i hprefix
    have hrest := ih (Option.map_eq_none_iff.mp h)
    have hlonger : (c :: word).isPrefixOf (d :: (rest ++ c :: word ++ t)) = false := by
      rw [← Bool.not_eq_true, List.isPrefixOf_iff_prefix, List.append_assoc, ← List.cons_append]
      intro hlong
      obtain ⟨more, hmore⟩ := hlong
      rcases List.append_eq_append_iff.mp hmore with ⟨end', hshort, -⟩ | ⟨excess, hexcess, htail⟩
      · exact hprefix (List.isPrefixOf_iff_prefix.mpr ⟨end', hshort.symm⟩)
      · cases excess with
        | nil =>
          rw [List.append_nil] at hexcess
          exact hprefix (List.isPrefixOf_iff_prefix.mpr ⟨[], by simpa using hexcess⟩)
        | cons e excess =>
          -- What runs over begins like the word, so the word holds its first character twice.
          obtain ⟨rfl, -⟩ : c = e ∧ _ := by simpa using htail
          simp only [List.cons_append, List.cons.injEq] at hexcess
          exact hword (by simp [hexcess.2])
    simp only [List.cons_append, splitWord, hlonger]
    simp only [List.append_assoc, List.cons_append] at hrest ⊢
    simp [hrest]

end

/-! ### Quoted texts -/

section

variable {quote c : Char} {s t after : List Char}

theorem afterQuoted_cons (hc : c ≠ '\\') :
    afterQuoted quote (c :: s) = if c = quote then some s else afterQuoted quote s := by
  rw [afterQuoted]
  · rw [if_neg hc]
  · rintro d rest rfl
    exact absurd rfl hc

theorem afterQuoted_skip {lead : List Char} (h : ∀ c ∈ lead, c ≠ quote ∧ c ≠ '\\') :
    afterQuoted quote (lead ++ s) = afterQuoted quote s := by
  induction lead with
  | nil => rfl
  | cons c lead ih =>
    obtain ⟨hquote, hslash⟩ := h c List.mem_cons_self
    rw [List.cons_append, afterQuoted_cons hslash, if_neg hquote,
      ih fun d hd => h d (List.mem_cons_of_mem c hd)]

theorem afterQuoted_of_notMem (h : quote ∉ s) : afterQuoted quote s = none := by
  fun_induction afterQuoted quote s with
  | case1 => rfl
  | case2 => rfl
  | case3 c rest _ ih => exact ih (by simp_all)
  | case4 => simp at h
  | case5 => rfl
  | case6 c rest _ _ _ ih => exact ih (by simp_all)

/-- A text without the quote does not close what is open before it. -/
theorem afterQuoted_append (hquote : quote ≠ '\\') (ht : quote ∉ t) :
    afterQuoted quote (s ++ t) = (afterQuoted quote s).map (· ++ t) := by
  fun_induction afterQuoted quote s with
  | case1 => simpa using afterQuoted_of_notMem ht
  | case2 => simp [afterQuoted]
  | case3 c rest hc ih => simpa [afterQuoted, hc] using ih
  | case4 => simp [afterQuoted_cons hquote]
  | case5 rest hslash =>
    -- The backslash comes last, so what it keeps from closing comes from behind.
    cases rest with
    | cons d rest => exact (hslash d rest rfl rfl).elim
    | nil =>
      rw [Option.map_none, List.cons_append, List.nil_append]
      cases t with
      | nil => simp [afterQuoted, Ne.symm hquote]
      | cons d t =>
        rw [List.mem_cons, not_or] at ht
        simp [afterQuoted, afterQuoted_of_notMem ht.2]
  | case6 c rest _ hc hslash ih => simpa [afterQuoted_cons hslash, hc] using ih

theorem redactQuoted_cons (hc : c ≠ quote) :
    redactQuoted quote (c :: s) = c :: redactQuoted quote s := by
  rw [redactQuoted, if_neg hc]

theorem redactQuoted_open (h : afterQuoted quote s = none) :
    redactQuoted quote (quote :: s) = quote :: redactQuoted quote s := by
  rw [redactQuoted, if_pos rfl]
  split
  · rename_i hclosing
    cases hclosing.symm.trans h
  · rfl

theorem redactQuoted_closed (h : afterQuoted quote s = some after) :
    redactQuoted quote (quote :: s) = quote :: mark ++ quote :: redactQuoted quote after := by
  rw [redactQuoted, if_pos rfl]
  split
  · rename_i hclosing
    cases hclosing.symm.trans h
    rfl
  · rename_i hclosing
    cases hclosing.symm.trans h

theorem redactQuoted_after {lead : List Char} (h : quote ∉ lead) :
    redactQuoted quote (lead ++ s) = lead ++ redactQuoted quote s := by
  induction lead with
  | nil => rfl
  | cons c lead ih =>
    rw [List.mem_cons, not_or] at h
    rw [List.cons_append, redactQuoted_cons (Ne.symm h.1), ih h.2, List.cons_append]

theorem redactQuoted_of_notMem (h : quote ∉ s) : redactQuoted quote s = s := by
  simpa [redactQuoted] using redactQuoted_after (s := []) h

/-- A text without the quote has no part in the redaction of what is before it. -/
theorem redactQuoted_before (hquote : quote ≠ '\\') (ht : quote ∉ t) :
    redactQuoted quote (s ++ t) = redactQuoted quote s ++ t := by
  fun_induction redactQuoted quote s with
  | case1 => exact redactQuoted_of_notMem ht
  | case2 rest after hclosing ih =>
    have hlonger := afterQuoted_append (s := rest) hquote ht
    rw [hclosing, Option.map_some] at hlonger
    rw [List.cons_append, redactQuoted_closed hlonger, ih]
    simp
  | case3 rest hclosing ih =>
    have hlonger := afterQuoted_append (s := rest) hquote ht
    rw [hclosing, Option.map_none] at hlonger
    rw [List.cons_append, redactQuoted_open hlonger, ih, List.cons_append]
  | case4 c rest hc ih => rw [List.cons_append, redactQuoted_cons hc, ih, List.cons_append]

theorem suffix_of_afterQuoted (h : afterQuoted quote s = some after) : after <:+ s := by
  fun_induction afterQuoted quote s with
  | case1 => cases h
  | case2 => cases h
  | case3 c rest _ ih => exact (ih h).trans ⟨['\\', c], rfl⟩
  | case4 =>
    cases h
    exact List.suffix_cons _ _
  | case5 => cases h
  | case6 c rest _ _ _ ih => exact (ih h).trans (List.suffix_cons c rest)

theorem redactQuoted_quote (quote : Char) (s : List Char) :
    ∃ more, redactQuoted quote (quote :: s) = quote :: more := by
  cases hclosing : afterQuoted quote s with
  | none => exact ⟨_, redactQuoted_open hclosing⟩
  | some after => exact ⟨_, redactQuoted_closed hclosing⟩

theorem prefix_of_prefix_redactQuoted {word : List Char} (hword : quote ∉ word)
    (h : word <+: redactQuoted quote s) : word <+: s := by
  induction word generalizing s with
  | nil => exact List.nil_prefix
  | cons d word ih =>
    rw [List.mem_cons, not_or] at hword
    cases s with
    | nil => simp [redactQuoted] at h
    | cons c rest =>
      by_cases hc : c = quote
      · subst hc
        obtain ⟨more, hmore⟩ := redactQuoted_quote c rest
        rw [hmore, List.cons_prefix_cons] at h
        exact absurd h.1.symm hword.1
      · rw [redactQuoted_cons hc, List.cons_prefix_cons] at h
        exact List.cons_prefix_cons.mpr ⟨h.1, ih hword.2 h.2⟩

theorem infix_of_infix_append {word lead : List Char} (hc : c ∉ lead)
    (h : c :: word <:+: lead ++ s) : c :: word <:+: s := by
  induction lead with
  | nil => exact h
  | cons d lead ih =>
    rw [List.mem_cons, not_or] at hc
    rw [List.cons_append, List.infix_cons_iff, List.cons_prefix_cons] at h
    rcases h with ⟨heq, -⟩ | h
    · exact absurd heq hc.1
    · exact ih hc.2 h

/-- Redaction of quoted texts makes no new occurrence of a word that is neither cut by a quote nor
begins like the mark. -/
theorem infix_of_infix_redactQuoted {word : List Char} (hword : quote ∉ c :: word) (hc : c ∉ mark)
    (h : c :: word <:+: redactQuoted quote s) : c :: word <:+: s := by
  have hquote : c ∉ [quote] := by
    rw [List.mem_singleton]
    rintro rfl
    exact hword List.mem_cons_self
  fun_induction redactQuoted quote s with
  | case1 => exact h
  | case2 rest after hclosing ih =>
    have hlead : c ∉ [quote] ++ mark ++ [quote] :=
      List.not_mem_append (List.not_mem_append hquote hc) hquote
    replace h : c :: word <:+: [quote] ++ mark ++ [quote] ++ redactQuoted quote after := by
      simpa using h
    have hafter := ih (infix_of_infix_append hlead h)
    exact List.infix_cons (hafter.trans (suffix_of_afterQuoted hclosing).isInfix)
  | case3 rest hclosing ih => exact List.infix_cons (ih (infix_of_infix_append hquote h))
  | case4 d rest hd ih =>
    rcases List.infix_cons_iff.mp h with hprefix | hrest
    · rw [← redactQuoted_cons hd] at hprefix
      exact (prefix_of_prefix_redactQuoted hword hprefix).isInfix
    · exact List.infix_cons (ih hrest)

theorem afterQuoted_quotedChar (c : Char) :
    afterQuoted '"' (quotedChar c ++ s) = afterQuoted '"' s := by
  unfold quotedChar
  split
  · simp [afterQuoted]
  split
  · simp [afterQuoted]
  split
  · simp [afterQuoted]
  split
  · simp [afterQuoted]
  split
  · simp [afterQuoted]
  split
  · simp [afterQuoted]
  rename_i hquote hslash _ _ _ _
  split
  · exact afterQuoted_skip (by simp [hquote, hslash])
  · have hhex : ∀ d ∈ hex c.toNat, d ≠ '"' ∧ d ≠ '\\' := by
      intro d hd
      have hdigit := isHexDigit_of_mem_hex hd
      exact ⟨ne_of_isHexDigit hdigit (by decide), ne_of_isHexDigit hdigit (by decide)⟩
    have hcode : ∀ d ∈ '\x7b' :: hex c.toNat ++ ['\x7d'], d ≠ '"' ∧ d ≠ '\\' := by
      intro d hd
      simp only [List.cons_append, List.mem_cons, List.mem_append, List.not_mem_nil,
        or_false] at hd
      rcases hd with rfl | hd | rfl
      · decide
      · exact hhex d hd
      · decide
    simpa [afterQuoted] using afterQuoted_skip (s := s) hcode

/-- The first double quote that closes a quoted text is the one behind it, whatever it holds. -/
theorem afterQuoted_quoted (s t : List Char) :
    afterQuoted '"' (s.flatMap quotedChar ++ '"' :: t) = some t := by
  induction s with
  | nil => simp [afterQuoted_cons]
  | cons c s ih => rw [List.flatMap_cons, List.append_assoc, afterQuoted_quotedChar, ih]

end

/-! ### Names and values -/

section

variable {word s t lead shown name tail : List Char}

theorem containsWord_append (h : containsWord word s = true) (t : List Char) :
    containsWord word (s ++ t) = true := by
  obtain ⟨⟨before, after⟩, hsplit⟩ := Option.isSome_iff_exists.mp h
  simp [containsWord, splitWord_append hsplit t]

/-- Quotes, and characters that the words have which redaction looks for. -/
def signals : List Char :=
  ['"', '\'', '\x60', ',', 'k']

/-- Nothing in the text starts or ends what redaction looks for. -/
def Quiet (s : List Char) : Prop :=
  ∀ c ∈ s, c ∉ signals

-- By name: an instance that is searched for may go through all characters that there are.
instance (s : List Char) : Decidable (Quiet s) :=
  List.decidableBAll _ s

theorem Quiet.append (hs : Quiet s) (ht : Quiet t) : Quiet (s ++ t) := by
  intro c hc
  rcases List.mem_append.mp hc with hc | hc
  · exact hs c hc
  · exact ht c hc

theorem Quiet.after_space (hs : Quiet s) : Quiet (' ' :: s) :=
  List.forall_mem_cons.mpr ⟨by decide, hs⟩

theorem Quiet.notMem {c : Char} (hs : Quiet s) (hc : c ∈ signals) : c ∉ s :=
  fun hmem => hs c hmem hc

theorem unknownName_of_notMem (hk : 'k' ∉ s) : unknownName s = none := by
  have hfield : splitWord "unknown field \x60".toList s = none :=
    splitWord_of_notMem (c := 'k') (by decide) hk
  have hvariant : splitWord "unknown variant \x60".toList s = none :=
    splitWord_of_notMem (c := 'k') (by decide) hk
  simp only [unknownName, hfield, hvariant, Option.map_none]

theorem invalidScalar_of_notMem (htick : '\x60' ∉ s) : invalidScalar s = none := by
  unfold invalidScalar
  split
  · cases hsplit : splitWord ", expected".toList s with
    | none => simp only [splitFirst_of_notMem htick, Option.map_none]
    | some parts =>
      have hhead : '\x60' ∉ parts.1 := by
        rw [eq_append_of_splitWord hsplit] at htick
        simp_all
      simp only [splitFirst_of_notMem hhead, Option.map_none]
  · rfl

/-- A message about a text of the wrong type shows no part of the text. -/
theorem redactName_quoted (hlead : Quiet lead) (htail : Quiet tail) (s : List Char) :
    redactName (redactQuoted '\'' (redactQuoted '"'
        (lead ++ '"' :: (s.flatMap quotedChar ++ '"' :: (", expected".toList ++ tail))))) =
      lead ++ '"' :: mark ++ '"' :: (", expected".toList ++ tail) := by
  have hnot : ∀ c ∈ ['\'', '\x60', 'k'],
      c ∉ lead ++ '"' :: mark ++ '"' :: (", expected".toList ++ tail) := by
    intro c hc
    have hword : ∀ c ∈ ['\'', '\x60', 'k'],
        c ∈ signals ∧ c ≠ '"' ∧ c ∉ mark ∧ c ∉ ", expected".toList :=
      List.all_iff_forall_prop.mp (by decide)
    obtain ⟨hsignal, hquote, hmark, hexpected⟩ := hword c hc
    simp only [List.mem_append, List.mem_cons, not_or]
    exact ⟨⟨hlead.notMem hsignal, hquote, hmark⟩, hquote, hexpected, htail.notMem hsignal⟩
  have hrest : '"' ∉ ", expected".toList ++ tail := by
    rw [List.mem_append, not_or]
    exact ⟨by decide, htail.notMem (by decide)⟩
  rw [redactQuoted_after (hlead.notMem (by decide)),
    redactQuoted_closed (afterQuoted_quoted s _), redactQuoted_of_notMem hrest,
    ← List.append_assoc, redactQuoted_of_notMem (hnot _ (by decide)), redactName,
    unknownName_of_notMem (hnot _ (by decide)), invalidScalar_of_notMem (hnot _ (by decide))]
  rfl

/-- A message about a scalar of the wrong type shows no part of the scalar. -/
theorem redactName_scalar (hlead : Quiet lead) (hshown : Quiet shown) (htail : Quiet tail)
    (hinvalid : (containsWord "invalid type:".toList lead ||
      containsWord "invalid value:".toList lead) = true) :
    redactName (lead ++ '\x60' :: (shown ++ ("\x60, expected".toList ++ tail))) =
      lead ++ '\x60' :: mark ++ ("\x60, expected".toList ++ tail) := by
  set s := lead ++ '\x60' :: (shown ++ ("\x60, expected".toList ++ tail)) with hs
  have hk : 'k' ∉ s := by
    have hsignal : 'k' ∈ signals := by decide
    simp [hs, hlead.notMem hsignal, hshown.notMem hsignal, htail.notMem hsignal]
  have hcut : s = lead ++ '\x60' :: (shown ++ ['\x60']) ++ ", expected".toList ++ tail := by
    simp [hs]
  have hhead : splitWord ", expected".toList s =
      some (lead ++ '\x60' :: (shown ++ ['\x60']), tail) := by
    have hcomma : ',' ∉ lead ++ '\x60' :: (shown ++ ['\x60']) := by
      have hsignal : ',' ∈ signals := by decide
      simp [hlead.notMem hsignal, hshown.notMem hsignal]
    rw [hcut]
    exact splitWord_end (by decide) (splitWord_of_notMem List.mem_cons_self hcomma) tail
  have hscalar : invalidScalar s =
      some (lead ++ ['\x60'], shown ++ ("\x60, expected".toList ++ tail)) := by
    have hkind : (containsWord "invalid type:".toList s ||
        containsWord "invalid value:".toList s) = true := by
      rw [Bool.or_eq_true] at hinvalid ⊢
      exact hinvalid.imp (containsWord_append · _) (containsWord_append · _)
    have hdrop : s.drop (lead.length + 1) = shown ++ ("\x60, expected".toList ++ tail) := by
      rw [hs, List.drop_append]
      simp
    have htick : '\x60' ∉ lead := hlead.notMem (by decide)
    simp only [invalidScalar, hkind, if_true, hhead, splitFirst_append htick, Option.map_some,
      hdrop]
  have hclosing : splitWord "\x60, expected".toList
      (shown ++ ("\x60, expected".toList ++ tail)) = some (shown, tail) := by
    rw [← List.append_assoc]
    exact splitWord_end (by decide)
      (splitWord_of_notMem List.mem_cons_self (hshown.notMem (by decide))) tail
  simp only [redactName, unknownName_of_notMem hk, Option.none_or, hscalar, fromClosingTick,
    hclosing]
  simp

/-- Where a message starts like one about a key that is not known, its key is next. -/
theorem unknownName_field (rest : List Char) :
    unknownName ("unknown field \x60".toList ++ rest) =
      some ("unknown field \x60".toList, rest) := by
  have hfield : splitWord "unknown field \x60".toList ("unknown field \x60".toList ++ rest) =
      some ([], rest) :=
    splitWord_end (s := []) (by decide) rfl rest
  -- The other words are longer, so they do not end before these.
  have hshort (before : List Char) :
      "unknown field \x60".toList.length ≤ (before ++ "unknown variant \x60".toList).length := by
    rw [List.length_append]
    exact Nat.le_trans (by decide) (Nat.le_add_left _ before.length)
  simp only [unknownName, hfield, Option.map_some, List.nil_append]
  cases splitWord "unknown variant \x60".toList ("unknown field \x60".toList ++ rest) with
  | none => rfl
  | some parts => exact if_pos (hshort parts.1)

/-- A message about a key that is not known shows nothing of the key up to the first words in it
that look like what is behind the key. -/
theorem redactName_unknown (name tail : List Char) :
    redactName ("unknown field \x60".toList ++ (name ++ ("\x60, expected".toList ++ tail))) =
      "unknown field \x60".toList ++ mark ++
        match splitWord "\x60, expected".toList name with
        | some (_, rest) => "\x60, expected".toList ++ (rest ++ ("\x60, expected".toList ++ tail))
        | none => "\x60, expected".toList ++ tail := by
  rw [redactName, unknownName_field, Option.some_or]
  cases hinner : splitWord "\x60, expected".toList name with
  | some parts =>
    simp only [fromClosingTick, splitWord_append hinner]
  | none =>
    have hends : splitWord "\x60, expected".toList (name ++ ("\x60, expected".toList ++ tail)) =
        some (name, tail) := by
      rw [← List.append_assoc]
      exact splitWord_end (by decide) hinner tail
    simp only [fromClosingTick, hends]

end

end DebugServer.Text
