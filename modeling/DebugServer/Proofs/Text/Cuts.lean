import DebugServer.Proofs.Text.Utf8

/-!
# Text that is decoded in pieces

The bytes of a text can be cut anywhere and each piece decoded by itself. A unit has at most one
byte that begins a character, and a piece that was cut off within a character starts with a unit
that has none. So what the pieces show together is the text exactly if no cut went through a
character.
-/

namespace DebugServer.Text

/-- How many bytes begin a character, whether they could do so or not. -/
def beginnings (bytes : List UInt8) : Nat :=
  bytes.countP (!isContinuation ·)

/-- Whether the first byte, if there is one, goes on with a character that began before. -/
def startsWithin (bytes : List UInt8) : Bool :=
  bytes.head?.any isContinuation

theorem beginnings_append (a b : List UInt8) :
    beginnings (a ++ b) = beginnings a + beginnings b :=
  List.countP_append

theorem beginnings_of_continuations {tail : List UInt8}
    (h : ∀ b ∈ tail, isContinuation b = true) : beginnings tail = 0 := by
  rw [beginnings, List.countP_eq_zero]
  intro b hb
  simp [h b hb]

theorem beginnings_cons_add (a : UInt8) (rest : List UInt8) :
    beginnings (a :: rest) + (if startsWithin (a :: rest) then 1 else 0) =
      beginnings rest + 1 := by
  cases h : isContinuation a <;> simp [beginnings, startsWithin, h]

section

variable {a b : UInt8}

theorem isContinuation_of_secondOfThree (h : secondOfThree a b = true) :
    isContinuation b = true := by
  have hb := secondOfThree_iff.mp h
  exact isContinuation_iff.mpr ⟨hb.1, hb.2.1⟩

theorem isContinuation_of_secondOfFour (h : secondOfFour a b = true) :
    isContinuation b = true := by
  have hb := secondOfFour_iff.mp h
  exact isContinuation_iff.mpr ⟨hb.1, hb.2.1⟩

end

/-- Behind its first byte, a unit takes only bytes that go on with a character. -/
theorem units_cons (a : UInt8) (rest : List UInt8) :
    ∃ unit tail more, rest = tail ++ more ∧ (∀ b ∈ tail, isContinuation b = true) ∧
      units (a :: rest) = unit :: units more := by
  have hnil : units [] = [] := by simp [units]
  have halone : ∃ unit tail more, rest = tail ++ more ∧ (∀ b ∈ tail, isContinuation b = true) ∧
      none :: units rest = unit :: units more := ⟨none, [], rest, rfl, by simp, rfl⟩
  rw [units.eq_def]
  dsimp only
  split
  · exact ⟨_, [], rest, rfl, by simp, rfl⟩
  split
  · cases rest with
    | nil => exact ⟨_, [], [], rfl, by simp, by rw [hnil]⟩
    | cons b more =>
    dsimp only
    split
    · rename_i hb
      exact ⟨_, [b], more, rfl, by simp [hb], rfl⟩
    · exact halone
  split
  · cases rest with
    | nil => exact ⟨_, [], [], rfl, by simp, by rw [hnil]⟩
    | cons b more =>
    dsimp only
    split
    · rename_i hb
      have hb := isContinuation_of_secondOfThree hb
      cases more with
      | nil => exact ⟨_, [b], [], rfl, by simp [hb], by rw [hnil]⟩
      | cons c more =>
      dsimp only
      split
      · rename_i hc
        exact ⟨_, [b, c], more, rfl, by simp [hb, hc], rfl⟩
      · exact ⟨_, [b], c :: more, rfl, by simp [hb], rfl⟩
    · exact halone
  split
  · cases rest with
    | nil => exact ⟨_, [], [], rfl, by simp, by rw [hnil]⟩
    | cons b more =>
    dsimp only
    split
    · rename_i hb
      have hb := isContinuation_of_secondOfFour hb
      cases more with
      | nil => exact ⟨_, [b], [], rfl, by simp [hb], by rw [hnil]⟩
      | cons c more =>
      dsimp only
      split
      · rename_i hc
        cases more with
        | nil => exact ⟨_, [b, c], [], rfl, by simp [hb, hc], by rw [hnil]⟩
        | cons d more =>
        dsimp only
        split
        · rename_i hd
          exact ⟨_, [b, c, d], more, rfl, by simp [hb, hc, hd], rfl⟩
        · exact ⟨_, [b, c], d :: more, rfl, by simp [hb, hc], rfl⟩
      · exact ⟨_, [b], c :: more, rfl, by simp [hb], rfl⟩
    · exact halone
  · exact halone

theorem beginnings_add_le_length_units (bytes : List UInt8) :
    beginnings bytes + (if startsWithin bytes then 1 else 0) ≤ (units bytes).length := by
  induction hn : bytes.length using Nat.strongRecOn generalizing bytes with
  | ind n ih =>
    cases bytes with
    | nil => simp [beginnings, startsWithin]
    | cons a rest =>
      obtain ⟨unit, tail, more, rfl, htail, hunits⟩ := units_cons a rest
      have hshorter : more.length < n := by
        rw [← hn, List.length_cons, List.length_append]
        omega
      have hmore := ih more.length hshorter more rfl
      rw [beginnings_cons_add, beginnings_append, beginnings_of_continuations htail, hunits,
        List.length_cons]
      omega

/-- The bytes of a character: one that begins it, and those that go on with it. -/
theorem utf8EncodeChar_eq_cons (c : Char) :
    ∃ first tail, String.utf8EncodeChar c = first :: tail ∧ isContinuation first = false ∧
      ∀ b ∈ tail, isContinuation b = true := by
  have hvalid := c.valid
  simp only [UInt32.isValidChar, Nat.isValidChar] at hvalid
  have hbyte : ∀ n < 256, (UInt8.ofNat n).toNat = n := fun n hn => by
    simpa using Nat.mod_eq_of_lt hn
  have hfirst : ∀ n < 256, n < 0x80 ∨ 0xBF < n → isContinuation (UInt8.ofNat n) = false := by
    intro n hn hrange
    rw [← Bool.not_eq_true, isContinuation_iff, hbyte n hn]
    omega
  have htail : ∀ n, isContinuation (UInt8.ofNat (n % 64 + 128)) = true := by
    intro n
    rw [isContinuation_iff, hbyte _ (by omega)]
    omega
  unfold String.utf8EncodeChar
  dsimp only
  generalize c.val.toNat = v at hvalid
  split
  · exact ⟨_, _, rfl, hfirst _ (by omega) (by omega), List.forall_mem_nil _⟩
  split
  · exact ⟨_, _, rfl, hfirst _ (by omega) (by omega), List.forall_mem_singleton.mpr (htail _)⟩
  split
  · refine ⟨_, _, rfl, hfirst _ (by omega) (by omega), List.forall_mem_cons.mpr ⟨htail _, ?_⟩⟩
    exact List.forall_mem_singleton.mpr (htail _)
  · refine ⟨_, _, rfl, hfirst _ (by omega) (by omega), List.forall_mem_cons.mpr ⟨htail _, ?_⟩⟩
    exact List.forall_mem_cons.mpr ⟨htail _, List.forall_mem_singleton.mpr (htail _)⟩

theorem beginnings_encode (s : List Char) : beginnings (encode s) = s.length := by
  induction s with
  | nil => rfl
  | cons c rest ih =>
    obtain ⟨first, tail, hc, hfirst, htail⟩ := utf8EncodeChar_eq_cons c
    have htail := beginnings_of_continuations htail
    simp only [encode, List.flatMap_cons] at ih ⊢
    rw [beginnings_append, ih, hc, List.length_cons]
    simp only [beginnings] at htail ⊢
    simp [hfirst, htail, Nat.add_comm]

theorem encode_append (s t : List Char) : encode (s ++ t) = encode s ++ encode t :=
  List.flatMap_append

theorem encode_inj {s t : List Char} (h : encode s = encode t) : s = t := by
  have hs := decode?_encode s
  rw [h, decode?_encode] at hs
  exact (Option.some.inj hs).symm

theorem decodeLossy_encode (s : List Char) : decodeLossy (encode s) = s := by
  rw [decodeLossy, units_encode, List.map_map]
  exact List.map_id s

/-- A cut that is not within a character leaves two texts. -/
theorem encode_eq_append {s : List Char} {front back : List UInt8} (h : encode s = front ++ back)
    (hback : startsWithin back = false) :
    ∃ s₁ s₂, s = s₁ ++ s₂ ∧ front = encode s₁ ∧ back = encode s₂ := by
  induction s generalizing front with
  | nil =>
    obtain ⟨rfl, rfl⟩ := List.append_eq_nil_iff.mp h.symm
    exact ⟨[], [], rfl, rfl, rfl⟩
  | cons c rest ih =>
    obtain ⟨first, tail, hc, -, htail⟩ := utf8EncodeChar_eq_cons c
    have hsplit : first :: (tail ++ encode rest) = front ++ back := by
      rw [← h, ← List.cons_append, ← hc]
      rfl
    cases front with
    | nil => exact ⟨[], c :: rest, rfl, rfl, h.symm⟩
    | cons b front =>
      obtain ⟨rfl, htails⟩ := List.cons.inj hsplit
      rcases List.append_eq_append_iff.mp htails with ⟨more, rfl, hrest⟩ | ⟨more, rfl, rfl⟩
      · -- The cut comes after this character.
        obtain ⟨s₁, s₂, rfl, rfl, rfl⟩ := ih hrest
        refine ⟨c :: s₁, s₂, rfl, ?_, rfl⟩
        simp [encode, List.flatMap_cons, hc]
      · -- The cut comes no later than at the end of this character, so it is there.
        cases more with
        | nil => exact ⟨[c], rest, rfl, by simp [encode, hc], rfl⟩
        | cons d more =>
          have hd := htail d (by simp)
          simp [startsWithin, hd] at hback

theorem startsWithin_flatten {pieces : List (List UInt8)}
    (h : ∀ piece ∈ pieces, startsWithin piece = false) : startsWithin pieces.flatten = false := by
  induction pieces with
  | nil => rfl
  | cons piece rest ih =>
    cases piece with
    | nil => exact ih fun piece hpiece => h piece (List.mem_cons_of_mem _ hpiece)
    | cons b piece => exact h (b :: piece) List.mem_cons_self

theorem exists_encode_of_startsWithin {s : List Char} {pieces : List (List UInt8)}
    (hs : pieces.flatten = encode s) (h : ∀ piece ∈ pieces, startsWithin piece = false) :
    ∀ piece ∈ pieces, ∃ part, piece = encode part := by
  induction pieces generalizing s with
  | nil => simp
  | cons piece rest ih =>
    have hrest := fun p hp => h p (List.mem_cons_of_mem piece hp)
    obtain ⟨s₁, s₂, -, hpiece, hmore⟩ := encode_eq_append hs.symm (startsWithin_flatten hrest)
    intro p hp
    rcases List.mem_cons.mp hp with rfl | hp
    · exact ⟨s₁, hpiece⟩
    · exact ih hmore hrest p hp

theorem length_flatMap_decodeLossy (pieces : List (List UInt8)) :
    beginnings pieces.flatten + pieces.countP startsWithin ≤
      (pieces.flatMap decodeLossy).length := by
  induction pieces with
  | nil => simp [beginnings]
  | cons piece rest ih =>
    have hpiece := beginnings_add_le_length_units piece
    rw [List.flatten_cons, beginnings_append, List.countP_cons, List.flatMap_cons,
      List.length_append, decodeLossy, List.length_map]
    omega

theorem encode_flatMap_decodeLossy {pieces : List (List UInt8)}
    (h : ∀ piece ∈ pieces, ∃ part, piece = encode part) :
    encode (pieces.flatMap decodeLossy) = pieces.flatten := by
  induction pieces with
  | nil => rfl
  | cons piece rest ih =>
    obtain ⟨part, rfl⟩ := h piece List.mem_cons_self
    have hrest := ih fun p hp => h p (List.mem_cons_of_mem _ hp)
    rw [List.flatMap_cons, encode_append, decodeLossy_encode, hrest, List.flatten_cons]

/-- Pieces of a text that are decoded one by one show the text exactly if each of them is a text
by itself. -/
theorem flatMap_decodeLossy_eq_iff {s : List Char} {pieces : List (List UInt8)}
    (hs : pieces.flatten = encode s) :
    pieces.flatMap decodeLossy = s ↔ ∀ piece ∈ pieces, ∃ part, piece = encode part := by
  constructor
  · intro h
    -- The text has as many characters as bytes that begin one, so no piece shows more than that.
    have hlength := length_flatMap_decodeLossy pieces
    rw [hs, beginnings_encode, h] at hlength
    have hnone : pieces.countP startsWithin = 0 := by omega
    apply exists_encode_of_startsWithin hs
    intro piece hpiece
    simpa using List.countP_eq_zero.mp hnone piece hpiece
  · intro h
    apply encode_inj
    rw [encode_flatMap_decodeLossy h, hs]

end DebugServer.Text
