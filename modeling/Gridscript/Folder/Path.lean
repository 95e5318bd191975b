/-
  Paths as text: joining a name to a folder's path, and the extension of the last name.
-/

namespace Gridscript.Path

/-- The path of `name` in the folder `dir`. A name that starts at the root stands alone. -/
def join (dir name : String) : String :=
  if name.toList.head? = some '/' ∨ dir = "" then name
  else if dir.toList.getLast? = some '/' then dir ++ name
  else dir ++ "/" ++ name

/-- The names between the slashes. -/
def parts (path : String) : List String := (path.toList.splitOn '/').map String.ofList

/-- The last name of a path, slashes and single dots after it aside. -/
def lastName? (path : String) : Option String :=
  ((parts path).filter fun name => name ≠ "" ∧ name ≠ ".").getLast?

/-- What follows the last dot of a name, if there is a dot other than in the first place. -/
def extensionOf? (name : String) : Option String :=
  let after := name.toList.reverse.takeWhile (· != '.')
  let before := name.toList.reverse.dropWhile (· != '.')
  if name = ".." ∨ before.length ≤ 1 then none else some (String.ofList after.reverse)

/-- The extension of the last name of a path. -/
def extension? (path : String) : Option String := (lastName? path).bind extensionOf?

end Gridscript.Path
