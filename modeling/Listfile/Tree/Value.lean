import Listfile.Json
import Listfile.Tree.Basic

/-!
# Trees as values

* `File.value`: a tree as a value that can be written as text.
-/

namespace Listfile.Tree

open Json (Value)

/-- A text as a value. -/
def textValue (s : String) : Value := .text s.toList

/-- A span as a value. -/
def spanValue (s : Span) : Value := .object [("start", .number s.start), ("end", .number s.stop)]

/-- The text and the span of a piece. -/
def pieceFields (p : Piece) : List (String × Value) :=
  [("text", .text p.text), ("span", spanValue p.span)]

/-- The name of a way to write arguments. -/
def ArgumentKind.name : ArgumentKind → String
  | bracket => "bracket"
  | quoted => "quoted"
  | unquoted => "unquoted"

/-- The name of a way to write comments. -/
def CommentKind.name : CommentKind → String
  | line => "line"
  | bracket => "bracket"

/-- The fields for parentheses and the items between them. -/
def parensFields (openAt : Nat) (items : List Value) (closeAt : Nat) : List (String × Value) :=
  [("open", spanValue ⟨openAt, openAt + 1⟩), ("items", .list items),
    ("close", spanValue ⟨closeAt, closeAt + 1⟩)]

mutual

/-- An item as a value. -/
def Item.value : Item → Value
  | .argument kind p =>
    .object (("type", textValue "argument") :: ("kind", textValue kind.name) :: pieceFields p)
  | .group openAt items closeAt =>
    .object (("type", textValue "group") :: parensFields openAt (itemValues items) closeAt)
  | .space p => .object (("type", textValue "space") :: pieceFields p)
  | .newline p => .object (("type", textValue "newline") :: pieceFields p)
  | .comment kind p =>
    .object (("type", textValue "comment") :: ("kind", textValue kind.name) :: pieceFields p)

/-- Items as values. -/
def itemValues : List Item → List Value
  | [] => []
  | item :: items => item.value :: itemValues items

end

/-- An element as a value. -/
def Element.value : Element → Value
  | .command c =>
    .object [("type", textValue "command"), ("name", .object (pieceFields c.name)),
      ("space_before_paren", .text c.spaceBeforeParen),
      ("arguments",
        .object (parensFields c.arguments.openAt (itemValues c.arguments.items) c.arguments.closeAt)),
      ("span", spanValue c.span)]
  | .comment kind p =>
    .object (("type", textValue "comment") :: ("kind", textValue kind.name) :: pieceFields p)
  | .space p => .object (("type", textValue "space") :: pieceFields p)
  | .newline p => .object (("type", textValue "newline") :: pieceFields p)

/-- A file as a value. -/
def File.value (f : File) : Value := .object [("elements", .list (f.elements.map Element.value))]

end Listfile.Tree
