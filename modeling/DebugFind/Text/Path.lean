/-
Normal form of a path: parts that are empty or a single dot are dropped, and a path with no part is a single dot. Two
slashes in front are kept as they are; one, or more than two, are one.
-/

namespace DebugFind.Text.Path

/-- the slashes in front of a normal path -/
def root : List Char → List Char
  | '/' :: '/' :: '/' :: _ => ['/']
  | '/' :: '/' :: _ => ['/', '/']
  | '/' :: _ => ['/']
  | _ => []

/-- the parts of a path -/
def parts (path : String) : List String :=
  (path.splitOn "/").filter fun part => !part.isEmpty && part != "."

/-- the normal form of a path -/
def normal (path : String) : String :=
  let text := String.ofList (root path.toList) ++ "/".intercalate (parts path)
  if text.isEmpty then "." else text

end DebugFind.Text.Path
