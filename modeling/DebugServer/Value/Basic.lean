/-!
# Runtime values

Snapshots of what a debuggee's variables hold. Scalars and containers are held by value; pointers
and interfaces name a cell of the debuggee's memory, which they may share and which may change, so
aliases and cycles survive.
-/

namespace DebugServer

/-- A cell of the debuggee's memory. -/
structure Cell where
  index : Nat
deriving DecidableEq, Repr, Inhabited

/-- An instant, as seconds and nanoseconds since 1970, with the offset east of UTC in seconds that
it is shown in. -/
structure Timestamp where
  seconds : Int
  nanos : Nat
  offset : Int
deriving DecidableEq, Repr, Inhabited

mutual

inductive Value where
  | mk (typeName : String) (kind : Kind)

/-- What a value is; floating point numbers are given by their bits. -/
inductive Kind where
  | bool (value : Bool)
  | int (value : Int)
  | uint (value : Nat)
  | float (bits : UInt64)
  | complex (re im : UInt64)
  | string (value : String)
  | timestamp (value : Timestamp)
  | nilPointer
  | pointer (target : Cell)
  | nilInterface
  | interface (target : Cell)
  | array (elements : List Value)
  | nilSlice
  | slice (elements : List Value)
  | struct (fields : List (String × Value))
  | nilMap
  | map (entries : List (Value × Value))
  | chan (isNil : Bool)
  | func (isNil : Bool)
  /-- Anything that the engine only describes by a text. -/
  | other (text : String)

end

namespace Value

def typeName : Value → String
  | .mk typeName _ => typeName

def kind : Value → Kind
  | .mk _ kind => kind

def isNil (v : Value) : Bool :=
  match v.kind with
  | .nilPointer | .nilInterface | .nilSlice | .nilMap => true
  | .chan isNil | .func isNil => isNil
  | _ => false

instance : Inhabited Value :=
  ⟨.mk "" .nilInterface⟩

end Value

structure NamedValue where
  name : String
  value : Value
deriving Inhabited

/-- The cells that pointers and interfaces lead to. -/
structure Memory where
  cells : Array Value
deriving Inhabited

namespace Memory

def empty : Memory :=
  ⟨#[]⟩

/-- What a cell holds now; a cell that was never set holds a nil interface. -/
def read (m : Memory) (c : Cell) : Value :=
  m.cells[c.index]?.getD default

def write (m : Memory) (c : Cell) (v : Value) : Memory :=
  ⟨m.cells.setIfInBounds c.index v⟩

def alloc (m : Memory) (v : Value) : Cell × Memory :=
  (⟨m.cells.size⟩, ⟨m.cells.push v⟩)

end Memory

end DebugServer
