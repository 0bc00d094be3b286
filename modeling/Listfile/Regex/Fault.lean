/-!
# Refused patterns

* `Fault`: why a pattern is refused.
-/

namespace Listfile.Regex

/-- Why a pattern is refused. -/
inductive Fault
  | unclosedGroup
  | unopenedGroup
  | nestingTooDeep
  | nothingToRepeat
  | unknownFlag
  | unclosedComment
  | unclosedClass
  | badClass
  | trailingBackslash
  | badEscape
  | badReference
  /-- References by number in a pattern with named groups. -/
  | mixedReferences
  | badGroupName
  | badCondition
  | badRepetition
  /-- A look behind that needs backtracking and whose body may take different numbers of characters. -/
  | unboundedLookbehind
  /-- The automaton of a plain part would take too much memory. -/
  | tooLarge
deriving DecidableEq, Inhabited

end Listfile.Regex
