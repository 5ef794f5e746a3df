/-!
# White space

The Unicode property White_Space, and trimming by it.
-/

namespace DebugServer.Text

def isBlank (c : Char) : Bool :=
  (0x09 ≤ c.val && c.val ≤ 0x0D) || c.val == 0x20 || c.val == 0x85 || c.val == 0xA0 ||
  c.val == 0x1680 || (0x2000 ≤ c.val && c.val ≤ 0x200A) || c.val == 0x2028 || c.val == 0x2029 ||
  c.val == 0x202F || c.val == 0x205F || c.val == 0x3000

def trimEnd (p : Char → Bool) (s : List Char) : List Char :=
  (s.reverse.dropWhile p).reverse

def trim (s : List Char) : List Char :=
  trimEnd isBlank (s.dropWhile isBlank)

def trimmed (s : String) : String :=
  String.ofList (trim s.toList)

/-- ASCII letters in lower case; every other character as it is. -/
def lowered (s : String) : String :=
  String.ofList (s.toList.map Char.toLower)

end DebugServer.Text
