/-!
# Styles

* `Style`: the choices that formatting leaves open.
-/

namespace Listfile.Layout

/-- What to do with the blanks between the name of a command and its opening parenthesis. -/
inductive SpaceBeforeParen
  | preserve
  /-- One blank where there are any. -/
  | single
  | remove
deriving DecidableEq, Inhabited

/-- The choices that formatting leaves open. -/
structure Style where
  /-- How many blank lines may follow each other. -/
  maxBlankLines : Nat := 3
  /-- How many may do so between the parentheses of a command. -/
  maxBlankLinesInArguments : Nat := 1
  spaceBeforeParen : SpaceBeforeParen := .single
  /-- Does a file end with the end of a line? -/
  finalNewline : Bool := true
deriving DecidableEq, Inhabited

end Listfile.Layout
