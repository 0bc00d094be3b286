import Listfile.Text.Find

/-!
# File names and extensions of paths

* `fileName?`: the last name of a path.
* `nameExtension?`: what stands behind the last dot of that name.
* `addExtension?`: a path with more behind its last name.
-/

namespace Listfile

/-- The last name of a path. Empty names and single dots count for nothing, and a path that leads to a
parent has no last name. -/
def fileName? (path : List Char) : Option (List Char) :=
  match ((splitAtChar '/' path).filter fun part => !part.isEmpty && part != ['.']).getLast? with
  | some name => if name = ['.', '.'] then none else some name
  | none => none

/-- What stands behind the last dot of a name, unless the name begins with that dot. -/
def nameExtension? (name : List Char) : Option (List Char) :=
  let reversed := name.reverse
  let last := reversed.takeWhile (· != '.')
  match reversed.drop last.length with
  | [] | [_] => none
  | _ => some last.reverse

/-- A path with more behind its last name. -/
def addExtension? (extension path : List Char) : Option (List Char) :=
  match (splitAtChar '/' path).reverse.dropWhile fun part => part.isEmpty || part == ['.'] with
  | [] => none
  | name :: parts =>
    if name = ['.', '.'] then none
    else some (List.intercalate ['/'] (parts.reverse ++ [name ++ extension]))

end Listfile
