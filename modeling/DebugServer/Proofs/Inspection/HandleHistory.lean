import DebugServer.Proofs.Inspection.HandleTable

/-!
# Handle tables over time

Operations on one table follow each other in any order, and whoever performs them keeps the numbers
and epochs that they return. Since the last purge the table is the list of the values that were
added, and an epoch tells whether there was a purge since it was obtained. Pasts have the latest
operation first.
-/

namespace DebugServer.HandleTable

variable {α : Type}

inductive Operation (α : Type) where
  | add (a : α)
  | addIn (epoch : Epoch) (a : α)
  | get (id : Int)
  | lookup (id : Int)
  | epoch
  | purge

/-- What an operation returns. -/
inductive Outcome (α : Type) where
  | issued (id : Option Nat)
  | found (entry : Option α)
  | located (entry : Option (α × Epoch))
  | current (epoch : Epoch)
  | done

def Operation.isPurge : Operation α → Bool
  | .purge => true
  | _ => false

/-- The value that an operation has added, with the number that it returned. -/
def Operation.entry? : Operation α → Outcome α → Option (Nat × α)
  | .add a, .issued id | .addIn _ a, .issued id => id.map fun id => (id, a)
  | _, _ => none

def perform (t : HandleTable α) : Operation α → Outcome α × HandleTable α
  | .add a => (.issued (some (t.add a).1), (t.add a).2)
  | .addIn epoch a =>
    match t.addIn epoch a with
    | none => (.issued none, t)
    | some (id, t) => (.issued (some id), t)
  | .get id => (.found (t.get? id), t)
  | .lookup id => (.located (t.lookup id), t)
  | .epoch => (.current t.epoch, t)
  | .purge => (.done, t.purge)

/-- The table after a past. -/
def after : (past : List (Operation α)) → HandleTable α
  | [] => empty
  | op :: past => ((after past).perform op).2

/-- The values added since the last purge, each with the number that was returned for it. -/
def issued : (past : List (Operation α)) → List (Nat × α)
  | [] => []
  | .purge :: _ => []
  | op :: past => issued past ++ (op.entry? ((after past).perform op).1).toList

section

variable (t : HandleTable α) (op : Operation α) (past : List (Operation α))

theorem perform_cases :
    (op = .purge ∧ (t.perform op).2 = t.purge) ∨
      (op.isPurge = false ∧ ∃ a, op.entry? (t.perform op).1 = some (t.size + 1, a) ∧
        (t.perform op).2 = t.extend [a]) ∨
      (op.isPurge = false ∧ op.entry? (t.perform op).1 = none ∧ (t.perform op).2 = t) := by
  cases op with
  | purge => exact .inl ⟨rfl, rfl⟩
  | add a => exact .inr (.inl ⟨rfl, a, by simp [perform, add_eq, Operation.entry?]⟩)
  | addIn epoch a =>
    by_cases h : epoch = t.epoch
    · subst h
      exact .inr (.inl ⟨rfl, a, by simp [perform, addIn_epoch, Operation.entry?]⟩)
    · exact .inr (.inr ⟨rfl, by simp [perform, addIn, h, Operation.entry?]⟩)
  | get | lookup | epoch => exact .inr (.inr ⟨rfl, rfl, rfl⟩)

theorem issued_cons (h : op.isPurge = false) :
    issued (op :: past) = issued past ++ (op.entry? ((after past).perform op).1).toList := by
  cases op with
  | purge => cases h
  | add | addIn | get | lookup | epoch => rfl

theorem epoch_perform :
    (t.perform op).2.epoch = if op.isPurge then t.epoch.next else t.epoch := by
  rcases t.perform_cases op with ⟨rfl, hpurge⟩ | ⟨hop, a, -, hadd⟩ | ⟨hop, -, hsame⟩
  · simp [hpurge, Operation.isPurge, purge]
  · simp [hadd, hop]
  · simp [hsame, hop]

/-- An epoch counts the purges. -/
theorem purges_epoch_after :
    (after past).epoch.purges = past.countP Operation.isPurge % UInt64.size := by
  induction past with
  | nil => rfl
  | cons op past ih =>
    rw [after, epoch_perform, List.countP_cons]
    split
    · simp [Epoch.next, ih]
    · simpa using ih

/-- The table holds what was added since the last purge, and the numbers are those from one on. -/
theorem after_eq :
    (after past).entries = ((issued past).map fun entry => ((entry.1 : Int), entry.2)).reverse ∧
      (issued past).map Prod.fst = List.range' 1 (issued past).length := by
  induction past with
  | nil => exact ⟨rfl, rfl⟩
  | cons op past ih =>
    obtain ⟨hentries, hnumbers⟩ := ih
    rcases (after past).perform_cases op with
      ⟨rfl, -⟩ | ⟨hop, a, hentry, hadd⟩ | ⟨hop, hentry, hsame⟩
    · exact ⟨rfl, rfl⟩
    · have hsize : (after past).size = (issued past).length := by simp [size, hentries]
      have hissued : issued (op :: past) = issued past ++ [((issued past).length + 1, a)] := by
        rw [issued_cons _ _ hop, hentry, hsize, Option.toList_some]
      rw [after, hadd, hissued]
      constructor
      · rw [extend_singleton_entries, hsize, hentries, List.map_append, List.reverse_append]
        rfl
      · rw [List.map_append, hnumbers, List.length_append, List.length_singleton,
          List.range'_concat]
        simp [Nat.add_comm]
    · have hissued : issued (op :: past) = issued past := by
        rw [issued_cons _ _ hop, hentry, Option.toList_none, List.append_nil]
      rw [after, hsame, hissued]
      exact ⟨hentries, hnumbers⟩

end

theorem countP_isPurge_eq_zero_iff {past : List (Operation α)} :
    past.countP Operation.isPurge = 0 ↔ .purge ∉ past := by
  rw [List.countP_eq_zero]
  constructor
  · intro h hmem
    exact h _ hmem rfl
  · rintro h op hop hpurge
    cases op with
    | purge => exact h hop
    | add | addIn | get | lookup | epoch => cases hpurge

/-- Two epochs are the same if and only if there was no purge from one to the other. -/
theorem epoch_after_eq_iff {later earlier : List (Operation α)}
    (h : (later ++ earlier).countP Operation.isPurge < UInt64.size) :
    (after earlier).epoch = (after (later ++ earlier)).epoch ↔ .purge ∉ later := by
  have hepoch : ∀ e e' : Epoch, e = e' ↔ e.purges = e'.purges := by
    rintro ⟨e⟩ ⟨e'⟩
    simp
  rw [hepoch, purges_epoch_after, purges_epoch_after, ← countP_isPurge_eq_zero_iff]
  rw [List.countP_append] at h ⊢
  rw [Nat.mod_eq_of_lt h, Nat.mod_eq_of_lt (by omega)]
  omega

/-- A table is the list of the values that were added since its last purge. -/
structure IsList (past : List (Operation α)) : Prop where
  /-- The numbers that were returned for them. -/
  numbers : (issued past).map Prod.fst = List.range' 1 (issued past).length
  /-- The counter is at the last of the numbers, and each of them stands for its value. -/
  next_eq : (after past).next = (issued past).length
  entries_eq : (after past).entries =
    ((issued past).map fun entry => ((entry.1 : Int), entry.2)).reverse
  get_iff : ∀ {id : Int} {a : α}, (after past).get? id = some a ↔
    1 ≤ id ∧ id ≤ (issued past).length ∧
      ((issued past).map Prod.snd)[(id - 1).toNat]? = some a
  lookup_eq : ∀ id, (after past).lookup id =
    ((after past).get? id).map fun a => (a, (after past).epoch)
  size_eq : (after past).size = (issued past).length
  /-- With an epoch from before the last purge nothing is added. -/
  outdated : ∀ {later earlier} (a : α), past = later ++ earlier → .purge ∈ later →
    (after past).perform (.addIn (after earlier).epoch a) = (.issued none, after past)
  current : ∀ {later earlier} (a : α), past = later ++ earlier → .purge ∉ later →
    (after past).perform (.addIn (after earlier).epoch a) = (after past).perform (.add a)
  epoch_iff : ∀ {later earlier}, past = later ++ earlier →
    ((after earlier).epoch = (after past).epoch ↔ .purge ∉ later)

/-- Whatever is done with a table, it stays the list of what was added since the last purge, as long
as the purges can be counted. -/
theorem isList_of_countP_lt {past : List (Operation α)}
    (h : past.countP Operation.isPurge < UInt64.size) : IsList past := by
  obtain ⟨hentries, hnumbers⟩ := after_eq past
  have hepoch : ∀ {later earlier}, past = later ++ earlier →
      ((after earlier).epoch = (after past).epoch ↔ .purge ∉ later) := by
    rintro later earlier rfl
    exact epoch_after_eq_iff h
  have hsize : (after past).size = (issued past).length := by simp [size, hentries]
  have hvalues : (after past).toList = (issued past).map Prod.snd := by simp [toList, hentries]
  refine ⟨hnumbers, (size_eq _).symm.trans hsize, hentries, ?_, fun _ => rfl, hsize, ?_, ?_,
    hepoch⟩
  · intro id a
    rw [get?_eq_some_iff, hvalues]
    constructor
    · rintro ⟨k, rfl, hk⟩
      obtain ⟨hlt, -⟩ := List.getElem?_eq_some_iff.mp hk
      have hlength : k < (issued past).length := by simpa using hlt
      refine ⟨by omega, by omega, ?_⟩
      simpa using hk
    · rintro ⟨hpos, -, hk⟩
      exact ⟨(id - 1).toNat, by omega, by simpa using hk⟩
  · intro later earlier a hpast hpurged
    have hne : (after earlier).epoch ≠ (after past).epoch :=
      fun heq => (hepoch hpast).mp heq hpurged
    simp [perform, addIn, hne]
  · intro later earlier a hpast hkept
    rw [(hepoch hpast).mpr hkept]
    simp [perform, addIn]

/-- An entry derived from a purged one is refused, and the numbers start again. -/
theorem isList_of_countP_lt_purged :
    let past : List (Operation String) :=
      [.lookup 1, .add "new frame", .addIn ⟨0⟩ "stale child", .purge, .addIn ⟨0⟩ "child", .epoch,
        .add "old frame"]
    past.countP Operation.isPurge < UInt64.size ∧ IsList past ∧ issued past = [(1, "new frame")] :=
  ⟨by decide, isList_of_countP_lt (by decide), rfl⟩

end DebugServer.HandleTable
