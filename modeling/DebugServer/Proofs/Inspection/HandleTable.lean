import Mathlib.Data.List.Nodup
import Mathlib.Logic.ExistsUnique
import DebugServer.Inspection.HandleTable

/-!
# Issuing handles

Within an epoch a table only grows at its end, so an entry keeps its handle until the next purge.
The handles of a table are the numbers from one up to its size, and each stands for one entry.
-/

namespace DebugServer

section

variable {α : Type} {n : Nat} {entries : List (Int × α)} {a : α} {id : Int}

theorem Numbered.length_eq (h : Numbered n entries) : entries.length = n := by
  induction h with
  | nil => rfl
  | cons h a ih => rw [List.length_cons, ih]

/-- Positions count from zero, numbers from one. -/
theorem Numbered.lookup_eq_some_iff (h : Numbered n entries) :
    entries.lookup id = some a ↔
      ∃ k : Nat, id = k + 1 ∧ (entries.map Prod.snd).reverse[k]? = some a := by
  induction h with
  | nil => simp
  | @cons n entries h b ih =>
    have hlength : (entries.map Prod.snd).reverse.length = n := by
      rw [List.length_reverse, List.length_map, h.length_eq]
    rw [List.map_cons, List.reverse_cons]
    by_cases hlast : id = ↑(n + 1)
    · subst hlast
      have hlatest : ((entries.map Prod.snd).reverse ++ [b])[n]? = some b := by
        rw [← hlength, List.getElem?_concat_length]
      rw [List.lookup_cons_self, Option.some.injEq]
      constructor
      · rintro rfl
        exact ⟨n, by omega, hlatest⟩
      · rintro ⟨k, hk, hfound⟩
        obtain rfl : k = n := by omega
        exact Option.some.inj (hlatest.symm.trans hfound)
    · have hother : (id == ↑(n + 1)) = false := by simpa using hlast
      rw [List.lookup_cons, hother, ih]
      constructor
      · rintro ⟨k, hk, hfound⟩
        obtain ⟨hlt, -⟩ := List.getElem?_eq_some_iff.mp hfound
        exact ⟨k, hk, (List.getElem?_append_left hlt).trans hfound⟩
      · rintro ⟨k, hk, hfound⟩
        obtain ⟨hlt, -⟩ := List.getElem?_eq_some_iff.mp hfound
        rw [List.length_append, List.length_singleton, hlength] at hlt
        exact ⟨k, hk, (List.getElem?_append_left (by omega)).symm.trans hfound⟩

end

namespace HandleTable

variable {α : Type} {t : HandleTable α} {a : α} {id : Int}

theorem size_eq (t : HandleTable α) : t.size = t.next :=
  t.numbered.length_eq

@[simp] theorem length_toList (t : HandleTable α) : t.toList.length = t.size := by
  simp [toList, size]

@[simp] theorem toList_add (t : HandleTable α) (a : α) : (t.add a).2.toList = t.toList ++ [a] := by
  simp [toList, add]

/-- The table after issuing the next handles to some values. -/
def extend (t : HandleTable α) (as : List α) : HandleTable α :=
  as.foldl (fun t a => (t.add a).2) t

@[simp] theorem extend_nil (t : HandleTable α) : t.extend [] = t := rfl

@[simp] theorem extend_extend (t : HandleTable α) (as bs : List α) :
    (t.extend as).extend bs = t.extend (as ++ bs) :=
  List.foldl_append.symm

@[simp] theorem epoch_extend (t : HandleTable α) (as : List α) :
    (t.extend as).epoch = t.epoch := by
  induction as generalizing t with
  | nil => rfl
  | cons a as ih => exact ih (t.add a).2

@[simp] theorem toList_extend (t : HandleTable α) (as : List α) :
    (t.extend as).toList = t.toList ++ as := by
  induction as generalizing t with
  | nil => exact (List.append_nil _).symm
  | cons a as ih =>
    have hrest := ih (t.add a).2
    rw [toList_add, List.append_assoc] at hrest
    exact hrest

@[simp] theorem size_extend (t : HandleTable α) (as : List α) :
    (t.extend as).size = t.size + as.length := by
  rw [← length_toList, toList_extend, List.length_append, length_toList]

theorem extend_singleton_entries (t : HandleTable α) (a : α) :
    (t.extend [a]).entries = (↑(t.size + 1), a) :: t.entries := by
  rw [size_eq]
  rfl

theorem add_eq (t : HandleTable α) (a : α) : t.add a = (t.size + 1, t.extend [a]) := by
  rw [size_eq]
  rfl

theorem addIn_epoch (t : HandleTable α) (a : α) :
    t.addIn t.epoch a = some (t.size + 1, t.extend [a]) := by
  rw [addIn, if_pos rfl, add_eq]

theorem get?_eq_some_iff : t.get? id = some a ↔ ∃ k : Nat, id = k + 1 ∧ t.toList[k]? = some a :=
  t.numbered.lookup_eq_some_iff

theorem get?_isSome_iff : (t.get? id).isSome ↔ 1 ≤ id ∧ id ≤ t.size := by
  rw [Option.isSome_iff_exists, ← length_toList]
  constructor
  · rintro ⟨a, ha⟩
    obtain ⟨k, rfl, hk⟩ := get?_eq_some_iff.mp ha
    obtain ⟨hlt, -⟩ := List.getElem?_eq_some_iff.mp hk
    omega
  · rintro ⟨hpos, hle⟩
    have hlt : (id - 1).toNat < t.toList.length := by omega
    exact ⟨_, get?_eq_some_iff.mpr ⟨(id - 1).toNat, by omega, List.getElem?_eq_getElem hlt⟩⟩

@[simp] theorem get?_empty (id : Int) : (empty : HandleTable α).get? id = none := rfl

/-- What is issued later leaves the earlier handles alone and gets those behind them. -/
theorem get?_extend_iff {as : List α} :
    (t.extend as).get? id = some a ↔
      t.get? id = some a ∨ ∃ k : Nat, id = t.size + k + 1 ∧ as[k]? = some a := by
  rw [get?_eq_some_iff, get?_eq_some_iff, toList_extend, ← length_toList]
  constructor
  · rintro ⟨k, rfl, h⟩
    rw [List.getElem?_append] at h
    split at h
    · exact Or.inl ⟨k, rfl, h⟩
    · exact Or.inr ⟨k - t.toList.length, by omega, h⟩
  · rintro (⟨k, rfl, h⟩ | ⟨k, rfl, h⟩)
    · obtain ⟨hlt, -⟩ := List.getElem?_eq_some_iff.mp h
      exact ⟨k, rfl, (List.getElem?_append_left hlt).trans h⟩
    · refine ⟨t.toList.length + k, by omega, ?_⟩
      rwa [List.getElem?_append_right (Nat.le_add_right _ _), Nat.add_sub_cancel_left]

/-- Handles that are issued in turn differ from each other. -/
theorem nodup_range' (first n : Nat) :
    ((List.range' first n).map (Nat.cast : Nat → Int)).Nodup :=
  List.Nodup.map (fun _ _ hab => Int.ofNat_inj.mp hab) List.nodup_range'

/-- A table is as a client knows it: an entry was shown under its handle, and the handles were
issued in turn. -/
structure IsKnown (t : HandleTable α) (shown : Int → α → Prop) (issued : List Int) : Prop where
  get?_iff : ∀ {id a}, t.get? id = some a ↔ shown id a
  issued_eq : issued = (List.range' 1 t.size).map Nat.cast

section

variable {shown shown' : Int → α → Prop} {issued issued' : List Int}

theorem IsKnown.extend (h : t.IsKnown shown issued) {as : List α}
    (hshown : ∀ {id a}, shown' id a ↔
      shown id a ∨ ∃ k : Nat, id = t.size + k + 1 ∧ as[k]? = some a)
    (hissued : issued' = issued ++ (List.range' (t.size + 1) as.length).map Nat.cast) :
    (t.extend as).IsKnown shown' issued' := by
  constructor
  · intro id a
    rw [get?_extend_iff, hshown, h.get?_iff]
  · rw [hissued, h.issued_eq, ← List.map_append, size_extend, ← List.range'_append_1,
      Nat.add_comm 1]

theorem IsKnown.congr (h : t.IsKnown shown issued) (hshown : ∀ {id a}, shown' id a ↔ shown id a)
    (hissued : issued' = issued) : t.IsKnown shown' issued' :=
  ⟨h.get?_iff.trans hshown.symm, hissued.trans h.issued_eq⟩

theorem isKnown_of_empty (ht : t.entries = []) (hshown : ∀ {id a}, ¬ shown id a) :
    t.IsKnown shown [] :=
  ⟨iff_of_false (by simp [get?, ht]) hshown, by simp [size, ht]⟩

theorem IsKnown.isSome_iff (h : t.IsKnown shown issued) : (t.get? id).isSome ↔ id ∈ issued := by
  rw [get?_isSome_iff, h.issued_eq]
  simp only [List.mem_map, List.mem_range'_1]
  constructor
  · intro hid
    exact ⟨id.toNat, by omega, by omega⟩
  · rintro ⟨n, hn, rfl⟩
    omega

theorem IsKnown.shown_iff (h : t.IsKnown shown issued) (found : t.get? id = some a) (b : α) :
    shown id b ↔ b = a := by
  rw [← h.get?_iff, found, Option.some.injEq, eq_comm]

theorem IsKnown.existsUnique (h : t.IsKnown shown issued) (hid : id ∈ issued) :
    ∃! a, shown id a := by
  obtain ⟨a, ha⟩ := Option.isSome_iff_exists.mp (h.isSome_iff.mpr hid)
  refine ⟨a, h.get?_iff.mp ha, ?_⟩
  intro b hb
  exact (h.shown_iff ha b).mp hb

/-- Zero is no handle. -/
theorem IsKnown.ne_zero (h : t.IsKnown shown issued) (hid : id ∈ issued) : id ≠ 0 := by
  have hrange := get?_isSome_iff.mp (h.isSome_iff.mpr hid)
  omega

theorem IsKnown.nodup (h : t.IsKnown shown issued) : issued.Nodup := by
  rw [h.issued_eq]
  exact nodup_range' 1 t.size

end

end HandleTable

end DebugServer
