import Listfile.Layout.Style
import Listfile.Tree.Parse

/-!
# Formatting list files

Formatting changes blanks and ends of lines only. It takes three steps:

* `fileInk`: which blanks stay, and how wide they are.
* `write`: which ends of lines stay.
* `finish`: how the file ends.

`format` does all of it for a text.
-/

namespace Listfile.Layout

open Listfile.Tree

/-- What is to be written. -/
inductive Ink
  | content (text : List Char)
  | space (text : List Char)
  /-- The end of a line, left out where more than `limit` blank lines would follow each other. -/
  | newline (text : List Char) (limit : Nat)
deriving DecidableEq

/-! ### Blanks -/

/-- A comment; blanks at the end of a line do not belong to it. -/
def commentInk (kind : CommentKind) (text : List Char) : Ink :=
  match kind with
  | .line => .content (trimEnd text)
  | .bracket => .content text

/-- The blanks between the name of a command and its opening parenthesis. -/
def parenSpace (style : Style) (space : List Char) : List Char :=
  match style.spaceBeforeParen with
  | .preserve => space
  | .single => if space = [] then [] else [' ']
  | .remove => []

/-- What stands before an item of a list. -/
inductive Before
  | nothing
  | newline
  | other
deriving DecidableEq

/-- Is this item the end of a line? -/
def isNewline : Item → Bool
  | .newline _ => true
  | _ => false

/-- The blanks between items: dropped at the end of a line and beside parentheses, kept at the start of a
line, and a single blank elsewhere. -/
def spaceInk (before : Before) (text : List Char) (after : List Item) : List Ink :=
  if (after.head?.map isNewline).getD false then []
  else
    match before with
    | .newline => [.space text]
    | .nothing => []
    | .other => if after.isEmpty then [] else [.space [' ']]

mutual

/-- The ink for an item between others. -/
def itemInk (limit : Nat) (before : Before) (after : List Item) : Item → List Ink
  | .space p => spaceInk before p.text after
  | .newline p => [.newline p.text limit]
  | .comment kind p => [commentInk kind p.text]
  | .argument _ p => [.content p.text]
  | .group _ items _ => .content ['('] :: itemsInk limit .nothing items ++ [.content [')']]

/-- The ink for the items behind another. -/
def itemsInk (limit : Nat) (before : Before) : List Item → List Ink
  | [] => []
  | item :: items =>
    itemInk limit before items item ++
      itemsInk limit (if isNewline item then .newline else .other) items

end

/-- The ink for a command. -/
def commandInk (style : Style) (c : Command) : List Ink :=
  .content c.name.text :: .space (parenSpace style c.spaceBeforeParen) :: .content ['('] ::
    itemsInk style.maxBlankLinesInArguments .nothing c.arguments.items ++ [.content [')']]

/-- Does a line or the file end here? -/
def endsLine : List Element → Bool
  | [] | .newline _ :: _ => true
  | _ => false

/-- The ink for elements. -/
def elementsInk (style : Style) : List Element → List Ink
  | [] => []
  | .newline p :: rest => .newline p.text style.maxBlankLines :: elementsInk style rest
  | .space p :: rest =>
    if endsLine rest then elementsInk style rest else .space p.text :: elementsInk style rest
  | .comment kind p :: rest => commentInk kind p.text :: elementsInk style rest
  | .command c :: rest => commandInk style c ++ elementsInk style rest

/-- The ink for a file. -/
def fileInk (style : Style) (f : File) : List Ink := elementsInk style f.elements

/-! ### Ends of lines -/

/-- Write ink behind `run` ends of lines. Blanks do not count as content of a line. -/
def write (run : Nat) : List Ink → List Char
  | [] => []
  | .content text :: rest => text ++ write 0 rest
  | .space text :: rest => text ++ write run rest
  | .newline text limit :: rest =>
    if limit < run then write run rest else text ++ write (run + 1) rest

/-- How the first line ends. -/
def firstNewline? : List Ink → Option (List Char)
  | [] => none
  | .newline text _ :: _ => some text
  | _ :: rest => firstNewline? rest

/-! ### The end of the file -/

/-- Is this a line feed or a carriage return? -/
def isLineEnd (c : Char) : Bool := c == '\n' || c == '\r'

/-- Let a text that is not blank end with the given end of a line. -/
def finish (newline text : List Char) : List Char :=
  if isAllBlank text then text else dropEndWhile isLineEnd text ++ newline

/-- The text of a file in a style. -/
def fileText (style : Style) (f : File) : List Char :=
  let ink := fileInk style f
  let text := write 0 ink
  if style.finalNewline then finish ((firstNewline? ink).getD ['\n']) text else text

/-- Format a text. -/
def format (style : Style) (source : List Char) : Except Fault (List Char) :=
  (File.parse source).map (fileText style)

/-- Is a text formatted already? -/
def isFormatted (style : Style) (source : List Char) : Except Fault Bool :=
  (format style source).map (· == source)

end Listfile.Layout
