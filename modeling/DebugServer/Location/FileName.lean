import DebugServer.Text.Split

/-!
# File names

The last component of a path. Repeated and trailing slashes and components `.` after the first do
not count; a path that ends in `..`, or has no components, has no file name.
-/

namespace DebugServer

/-- The components of a path between its slashes that count. -/
def pathComponents (path : String) : List String :=
  let parts := (Text.splitAll '/' path.toList).map String.ofList
  match parts with
  | [] => []
  | first :: rest => (first :: rest.filter (· ≠ ".")).filter (· ≠ "")

def fileName? (path : String) : Option String :=
  match (pathComponents path).getLast? with
  | none => none
  | some last => if last = ".." || last = "." then none else some last

/-- The name that a source is shown under: its file name, or the whole path if it has none. -/
def displayName (path : String) : String :=
  (fileName? path).getD path

end DebugServer
