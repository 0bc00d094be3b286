import Listfile.Text.Blank
import Listfile.Text.Find

/-!
# Scopes

A scope is a dotted name such as `string.quoted.double.cmake`. Selectors match whole atoms from the
front, so `string.quoted` selects that scope and `string.quo` does not.

* `Scope.atoms`: the names between the dots.
* `Scope.selectedBy`: does a selector match a scope?
* `Scope.parseList`, `Scope.join`: lists of scopes, set apart by blanks.
-/

namespace Listfile

/-- A scope. -/
structure Scope where
  name : String
deriving DecidableEq, Inhabited

namespace Scope

/-- The names between the dots. -/
def atoms (s : Scope) : List (List Char) := splitAtChar '.' s.name.toList

/-- Does the selector consist of the first atoms of the scope? -/
def selectedBy (s : Scope) (selector : String) : Bool :=
  (Scope.mk selector).atoms.isPrefixOf s.atoms

/-- The scopes of a list that is set apart by blanks. -/
def parseList (names : String) : List Scope :=
  (words names.toList).map fun word => ⟨String.ofList word⟩

/-- The scopes, set apart by single spaces. -/
def join (scopes : List Scope) : String := String.intercalate " " (scopes.map name)

/-- Insert a scope in the order of names. -/
def insertSorted (s : Scope) : List Scope → List Scope
  | [] => [s]
  | t :: ts => if t.name < s.name then t :: insertSorted s ts else s :: t :: ts

/-- The scopes in the order of their names. -/
def sort (scopes : List Scope) : List Scope := scopes.foldr insertSorted []

end Scope

end Listfile
