import DebugServer.Value.Printer

/-!
# Reusing a printer

Printing never changes a budget, so a printer that has been reset is like a new one.
-/

namespace DebugServer.Value.Printer

variable {α : Type}

@[simp] theorem budget_overflow (p : Printer) : p.overflow.budget = p.budget := rfl

@[simp] theorem budget_write (p : Printer) (s : String) : (p.write s).budget = p.budget := by
  unfold write
  split
  · rfl
  dsimp only
  split
  · rfl
  split <;> rfl

theorem budget_items {print : α → Printer → Printer}
    (hprint : ∀ a p, (print a p).budget = p.budget) (first : Bool) (xs : List α) (p : Printer) :
    (items print first xs p).budget = p.budget := by
  induction xs generalizing first p with
  | nil => rfl
  | cons x rest ih =>
    unfold items
    split
    · rfl
    · rw [ih, hprint]
      split <;> simp

theorem budget_braced {print : α → Printer → Printer}
    (hprint : ∀ a p, (print a p).budget = p.budget) (p : Printer) (typeName : String)
    (xs : List α) : (p.braced typeName print xs).budget = p.budget := by
  simp [braced, budget_items hprint]

theorem budget_printWithin (m : Memory) (depth : Nat) (v : Value) (p : Printer) :
    (printWithin m depth v p).budget = p.budget := by
  induction depth generalizing v p with
  | zero => rfl
  | succ depth ih =>
    have hfield : ∀ (field : String × Value) (p : Printer), (printWithin m depth field.2
        ((p.write (fieldName field.1 field.2)).write ":")).budget = p.budget := by
      intro field p
      rw [ih, budget_write, budget_write]
    have hentry : ∀ (entry : Value × Value) (p : Printer), (printWithin m depth entry.2
        ((printWithin m depth entry.1 p).write ":")).budget = p.budget := by
      intro entry p
      rw [ih, budget_write, ih]
    unfold printWithin
    split
    · rfl
    cases v.kind with
    | array elements | slice elements => exact budget_braced ih p _ elements
    | nilSlice | nilMap => simp [braced, items]
    | struct fields => exact budget_braced hfield p _ fields
    | map entries => exact budget_braced hentry p _ entries
    | pointer target | interface target => simp [ih]
    | bool | int | uint | float | complex | string | timestamp | nilPointer | nilInterface | chan
    | func | other => simp

theorem printString_new (budget : Nat) (m : Memory) (v : Value) :
    (new budget).printString m v = (((new budget).print m v).finish, new budget) := by
  have hbudget : ((new budget).print m v).budget = budget := budget_printWithin m _ v _
  simp only [printString, reset, hbudget]
  rfl

end DebugServer.Value.Printer
