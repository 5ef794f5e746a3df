/-!
# Numbering

A client counts lines and columns from one or from zero; the engine counts from one. Conversions
stay at the bounds of 64-bit integers.
-/

namespace DebugServer

/-- The next integer, except at the greatest. -/
def successor (n : Int64) : Int64 :=
  if n = Int64.maxValue then n else n + 1

/-- The previous integer, except at the least. -/
def predecessor (n : Int64) : Int64 :=
  if n = Int64.minValue then n else n - 1

/-- Whether the client counts lines and columns from one. -/
structure Numbering where
  linesFromOne : Bool
  columnsFromOne : Bool
deriving DecidableEq, Repr, Inhabited

namespace Numbering

def default : Numbering :=
  ⟨true, true⟩

def toEngine (fromOne : Bool) (n : Int64) : Int64 :=
  if fromOne then n else successor n

def toClient (fromOne : Bool) (n : Int64) : Int64 :=
  if fromOne then n else predecessor n

def lineToEngine (b : Numbering) : Int64 → Int64 :=
  toEngine b.linesFromOne

def lineToClient (b : Numbering) : Int64 → Int64 :=
  toClient b.linesFromOne

def columnToEngine (b : Numbering) : Int64 → Int64 :=
  toEngine b.columnsFromOne

def columnToClient (b : Numbering) : Int64 → Int64 :=
  toClient b.columnsFromOne

end Numbering

end DebugServer
