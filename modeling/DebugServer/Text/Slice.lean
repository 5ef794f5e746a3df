/-!
# Cuts at byte offsets

Where a place in a text is given in bytes of UTF-8, a cut has to fall between two characters.
-/

namespace DebugServer.Text

def takeBytes? : Nat → List Char → Option (List Char)
  | 0, _ => some []
  | _ + 1, [] => none
  | n + 1, c :: rest =>
    if c.utf8Size ≤ n + 1 then (takeBytes? (n + 1 - c.utf8Size) rest).map (c :: ·) else none

def dropBytes? : Nat → List Char → Option (List Char)
  | 0, s => some s
  | _ + 1, [] => none
  | n + 1, c :: rest =>
    if c.utf8Size ≤ n + 1 then dropBytes? (n + 1 - c.utf8Size) rest else none

/-- The bytes of a text from one offset up to another. -/
def slice? (first last : Nat) (s : List Char) : Option (List Char) :=
  (dropBytes? first s).bind (takeBytes? (last - first))

end DebugServer.Text
