import Listfile.Tree.Basic

/-!
# Arguments of commands

* `ArgumentKind.content`: an argument without its quotation marks or brackets.
* `Command.flatArguments`: the arguments of a command, also those within parentheses.
-/

namespace Listfile.Tree

/-- A text without the quotation marks around it, if there are such. -/
def unquote (text : List Char) : List Char :=
  match text with
  | '"' :: rest => if rest.getLast? = some '"' then rest.dropLast else text
  | _ => text

/-- A text without the brackets around it. How long these are is told by the equals signs behind the
first character. -/
def unbracket (text : List Char) : List Char :=
  let width := (text.tail.takeWhile (· == '=')).length + 2
  ((Span.mk width (byteLength text - width)).slice? text).getD []

/-- An argument without its quotation marks or brackets. What is escaped in it stays as it is. -/
def ArgumentKind.content (kind : ArgumentKind) (text : List Char) : List Char :=
  match kind with
  | bracket => unbracket text
  | quoted => unquote text
  | unquoted => text

/-- An argument of a command. -/
structure Argument where
  kind : ArgumentKind
  piece : Piece
deriving DecidableEq, Inhabited

/-- The argument without its quotation marks or brackets. -/
def Argument.content (a : Argument) : List Char := a.kind.content a.piece.text

mutual

/-- The arguments in an item. -/
def Item.arguments : Item → List Argument
  | .argument kind piece => [⟨kind, piece⟩]
  | .group _ items _ => argumentsOf items
  | .space _ | .newline _ | .comment _ _ => []

/-- The arguments in items. -/
def argumentsOf : List Item → List Argument
  | [] => []
  | item :: items => item.arguments ++ argumentsOf items

end

/-- The arguments of a command, in order. -/
def Command.flatArguments (c : Command) : List Argument := argumentsOf c.arguments.items

/-- The commands of a file, in order. -/
def File.commands (f : File) : List Command :=
  f.elements.filterMap fun
    | .command c => some c
    | _ => none

end Listfile.Tree
