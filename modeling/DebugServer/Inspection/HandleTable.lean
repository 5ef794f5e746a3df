/-!
# Handle tables

Numbers that a client can use for things it has been shown. The numbers count from one; a purge
forgets everything and starts the count again, so a table also says which epoch it is in, and an
entry derived from an earlier epoch can be refused.
-/

namespace DebugServer

/-- The span between two purges of one table. They are counted in 64 bits. -/
structure Epoch where
  purges : Nat
deriving DecidableEq, Repr, Inhabited

def Epoch.next (e : Epoch) : Epoch :=
  ⟨(e.purges + 1) % UInt64.size⟩

/-- Entries under the numbers from `n` down to one. -/
inductive Numbered {α : Type} : (n : Nat) → List (Int × α) → Prop where
  | nil : Numbered 0 []
  | cons {n : Nat} {entries : List (Int × α)} (h : Numbered n entries) (a : α) :
      Numbered (n + 1) ((↑(n + 1), a) :: entries)

structure HandleTable (α : Type) where
  /-- The handle that was issued last, or zero. -/
  next : Nat
  epoch : Epoch
  /-- The entries since the last purge under their handles, the latest first. -/
  entries : List (Int × α)
  numbered : Numbered next entries

namespace HandleTable

variable {α : Type}

def empty : HandleTable α :=
  ⟨0, ⟨0⟩, [], .nil⟩

instance : Inhabited (HandleTable α) :=
  ⟨empty⟩

def size (t : HandleTable α) : Nat :=
  t.entries.length

/-- Issues the next handle. No entry has it yet, so none is replaced. -/
def add (t : HandleTable α) (a : α) : Nat × HandleTable α :=
  (t.next + 1, ⟨t.next + 1, t.epoch, (↑(t.next + 1), a) :: t.entries, t.numbered.cons a⟩)

/-- Issues a handle unless the table has been purged since `epoch`. -/
def addIn (t : HandleTable α) (epoch : Epoch) (a : α) : Option (Nat × HandleTable α) :=
  if epoch = t.epoch then some (t.add a) else none

/-- The entry behind a handle; no other number has one. -/
def get? (t : HandleTable α) (id : Int) : Option α :=
  t.entries.lookup id

def lookup (t : HandleTable α) (id : Int) : Option (α × Epoch) :=
  (t.get? id).map fun a => (a, t.epoch)

def purge (t : HandleTable α) : HandleTable α :=
  ⟨0, t.epoch.next, [], .nil⟩

/-- The entries in the order of their handles. -/
def toList (t : HandleTable α) : List α :=
  (t.entries.map Prod.snd).reverse

end HandleTable

end DebugServer
