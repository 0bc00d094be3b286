import Listfile.Config.Value

/-!
# Reading TOML

* `Reader`: a reader takes characters off the front of a text, or fails.
* `Reader.basicText?`, `Reader.literalText?` and their forms of several lines: texts between quotes.
* `Reader.key`: a key of one or several names.
* `Reader.endOfLine`: blanks, a comment and the end of a line.
-/

namespace Listfile.Config.Toml

/-- A reader of a text. -/
abbrev Reader (α : Type) := StateT (List Char) Option α

/-- Collections and names of keys are nested less deep than this. -/
def maxDepth : Nat := 80

/-- The characters that may stand in comments and between quotes. -/
def isPlain (c : Char) : Bool := c == '\t' || (0x20 ≤ c.toNat && c.toNat != 0x7F)

/-- A blank within a line. -/
def isBlankChar (c : Char) : Bool := c == ' ' || c == '\t'

/-- The characters of names without quotes. -/
def isNameChar (c : Char) : Bool := c.isAlphanum || c == '_' || c == '-'

/-! ### Texts between quotes -/

/-- The character that stands for a letter behind a backslash. -/
def escaped? (c : Char) : Option Char :=
  if c = 'b' then some '\x08'
  else if c = 't' then some '\t'
  else if c = 'n' then some '\n'
  else if c = 'f' then some '\x0C'
  else if c = 'r' then some '\r'
  else if c = '"' ∨ c = '\\' then some c
  else none

/-- Add a character to the front of a text that was cut off. -/
def addChar (c : Char) (p : List Char × List Char) : List Char × List Char := (c :: p.1, p.2)

/-- Cut off a text up to the next quotation mark. -/
def basicText? : List Char → Option (List Char × List Char)
  | '"' :: cs => some ([], cs)
  | '\\' :: 'u' :: a :: b :: c :: d :: cs => do
    return addChar (← charOfHex? [a, b, c, d]) (← basicText? cs)
  | '\\' :: 'U' :: a :: b :: c :: d :: e :: f :: g :: h :: cs => do
    return addChar (← charOfHex? [a, b, c, d, e, f, g, h]) (← basicText? cs)
  | '\\' :: c :: cs => do return addChar (← escaped? c) (← basicText? cs)
  | c :: cs => if isPlain c then (basicText? cs).map (addChar c) else none
  | [] => none

/-- Does the rest of a line hold blanks only? -/
def blankToLineEnd (cs : List Char) : Bool :=
  match cs.dropWhile isBlankChar with
  | '\n' :: _ | '\r' :: '\n' :: _ => true
  | _ => false

/-- Cut off a text of several lines up to three quotation marks. Blanks and ends of lines are left out
while `skipping`, that is, behind a backslash at the end of a line. -/
def basicLines? : (skipping : Bool) → List Char → Option (List Char × List Char)
  | _, '"' :: '"' :: '"' :: '"' :: '"' :: cs => some (['"', '"'], cs)
  | _, '"' :: '"' :: '"' :: '"' :: cs => some (['"'], cs)
  | _, '"' :: '"' :: '"' :: cs => some ([], cs)
  | _, '\\' :: 'u' :: a :: b :: c :: d :: cs => do
    return addChar (← charOfHex? [a, b, c, d]) (← basicLines? false cs)
  | _, '\\' :: 'U' :: a :: b :: c :: d :: e :: f :: g :: h :: cs => do
    return addChar (← charOfHex? [a, b, c, d, e, f, g, h]) (← basicLines? false cs)
  | _, '\\' :: c :: cs =>
    match escaped? c with
    | some d => (basicLines? false cs).map (addChar d)
    | none => if blankToLineEnd (c :: cs) then basicLines? true (c :: cs) else none
  | skipping, '\r' :: '\n' :: cs =>
    if skipping then basicLines? true cs else (basicLines? false cs).map (addChar '\n')
  | skipping, c :: cs =>
    if skipping && (isBlankChar c || c == '\n') then basicLines? true cs
    else if isPlain c || c == '\n' then (basicLines? false cs).map (addChar c)
    else none
  | _, [] => none

/-- Cut off a text up to the next apostrophe. -/
def literalText? : List Char → Option (List Char × List Char)
  | '\'' :: cs => some ([], cs)
  | c :: cs => if isPlain c then (literalText? cs).map (addChar c) else none
  | [] => none

/-- Cut off a text of several lines up to three apostrophes. -/
def literalLines? : List Char → Option (List Char × List Char)
  | '\'' :: '\'' :: '\'' :: '\'' :: '\'' :: cs => some (['\'', '\''], cs)
  | '\'' :: '\'' :: '\'' :: '\'' :: cs => some (['\''], cs)
  | '\'' :: '\'' :: '\'' :: cs => some ([], cs)
  | '\r' :: '\n' :: cs => (literalLines? cs).map (addChar '\n')
  | c :: cs =>
    if isPlain c || c == '\n' then (literalLines? cs).map (addChar c) else none
  | [] => none

/-- A text without the end of a line at its front. -/
def dropNewline : List Char → List Char
  | '\n' :: cs | '\r' :: '\n' :: cs => cs
  | cs => cs

/-- Cut off a text between quotes on one line. -/
def quoted? : List Char → Option (List Char × List Char)
  | '"' :: cs => basicText? cs
  | '\'' :: cs => literalText? cs
  | _ => none

/-- Cut off a text between quotes. -/
def text? : List Char → Option (List Char × List Char)
  | '"' :: '"' :: '"' :: cs => basicLines? false (dropNewline cs)
  | '\'' :: '\'' :: '\'' :: cs => literalLines? (dropNewline cs)
  | cs => quoted? cs

/-! ### Readers -/

namespace Reader

/-- The next character, which stays where it is. -/
def peek : Reader (Option Char) := fun cs => some (cs.head?, cs)

/-- Take the next character if it is the given one. -/
def accept (c : Char) : Reader Bool := fun cs =>
  match cs with
  | d :: ds => if c = d then some (true, ds) else some (false, cs)
  | [] => some (false, cs)

/-- Take the next character, which has to be the given one. -/
def expect (c : Char) : Reader Unit := do
  if ← accept c then return () else failure

/-- Take characters off the front as long as they satisfy `p`. -/
def takeWhile (p : Char → Bool) : Reader (List Char) := fun cs =>
  some (cs.takeWhile p, cs.dropWhile p)

/-- Skip blanks within a line. -/
def blanks : Reader Unit := do let _ ← takeWhile isBlankChar

/-- Take the end of a line, if it is reached. -/
def newline : Reader Bool := fun cs =>
  match cs with
  | '\n' :: ds | '\r' :: '\n' :: ds => some (true, ds)
  | _ => some (false, cs)

/-- Skip a comment, if there is one. -/
def comment : Reader Unit := do
  if ← accept '#' then let _ ← takeWhile isPlain

/-- Skip blanks and a comment, up to the end of the line or of the text. -/
def endOfLine : Reader Unit := do
  blanks
  comment
  if (← newline) || (← peek).isNone then return () else failure

/-- Skip blanks, comments and ends of lines; at most `fuel` lines. -/
def gap : (fuel : Nat) → Reader Unit
  | 0 => failure
  | fuel + 1 => do
    blanks
    if (← peek) = some '#' then
      comment
      if ← newline then gap fuel else failure
    else if ← newline then gap fuel

/-- A name of a key. -/
def name : Reader String := fun cs =>
  match quoted? cs with
  | some (text, rest) => some (String.ofList text, rest)
  | none =>
    match cs.takeWhile isNameChar with
    | [] => none
    | c :: text => some (String.ofList (c :: text), cs.dropWhile isNameChar)

/-- The names of a key, set apart by dots, with the blanks around them; at most `fuel` of them. -/
def key : (fuel : Nat) → Reader (List String)
  | 0 => failure
  | fuel + 1 => do
    blanks
    let first ← name
    blanks
    if ← accept '.' then return first :: (← key fuel) else return [first]

end Reader

end Listfile.Config.Toml
