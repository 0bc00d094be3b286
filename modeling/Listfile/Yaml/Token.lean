/-!
# Tokens of YAML

* `Token`: the tokens of a YAML stream.
* `Fault`: why a stream is refused.
* `Reader`: a place in the stream, with its line and column.
-/

namespace Listfile.Yaml

/-- Why a stream is refused. -/
inductive Fault
  | forbiddenCharacter
  | unexpectedCharacter
  /-- What would have to be a key is not followed by a colon. -/
  | missingColon
  | sequenceEntryNotAllowed
  | mappingKeyNotAllowed
  | mappingValueNotAllowed
  | badDirective
  | badAnchor
  | badTag
  | badBlockHeader
  | badIndentation
  | badEscape
  /-- A document marker within a quoted scalar. -/
  | documentMarker
  | unclosedQuote
  | colonInFlow
  | incompatibleVersion
  | duplicateDirective
  | undefinedTagHandle
  | undefinedAlias
  | missingDocumentStart
  | missingNode
  | missingEntry
  | missingKey
  | missingSeparator
  | noDocument
  | severalDocuments
  /-- The document does not have the expected shape. -/
  | unexpectedShape
  | nestingTooDeep
  /-- Aliases are followed too often. -/
  | tooManyAliases
deriving DecidableEq, Inhabited

/-- How a scalar is written. -/
inductive Style
  | plain
  | singleQuoted
  | doubleQuoted
  | literal
  | folded
deriving DecidableEq, Inhabited

/-- A tag: the bytes of its text, which need not be UTF-8. -/
abbrev Tag := List UInt8

/-- A token. -/
inductive Token
  | streamEnd
  | versionDirective (major minor : Nat)
  | tagDirective (handle : List Char) (pref : Tag)
  | documentStart
  | documentEnd
  | blockSequenceStart
  | blockMappingStart
  | blockEnd
  | flowSequenceStart
  | flowSequenceEnd
  | flowMappingStart
  | flowMappingEnd
  | blockEntry
  | flowEntry
  | key
  | value
  | alias (name : List Char)
  | anchor (name : List Char)
  | tag (handle : List Char) (suffix : Tag)
  | scalar (text : List Char) (style : Style)
deriving DecidableEq, Inhabited

/-! ### Characters -/

/-- The characters that a stream may hold. -/
def isAllowed (c : Char) : Bool :=
  let n := c.toNat
  n == 0x09 || n == 0x0A || n == 0x0D || (0x20 ≤ n && n ≤ 0x7E) || n == 0x85 ||
    (0xA0 ≤ n && n ≤ 0xD7FF) || (0xE000 ≤ n && n ≤ 0xFFFD) || 0x10000 ≤ n

/-- The characters that end a line. -/
def isBreak (c : Char) : Bool :=
  c == '\n' || c == '\r' || c == '\u0085' || c == '\u2028' || c == '\u2029'

/-- Space and tab. -/
def isSpace (c : Char) : Bool := c == ' ' || c == '\t'

/-- The characters of anchors, tag handles and directive names. -/
def isNameChar (c : Char) : Bool := c.isAlphanum || c == '_' || c == '-'

/-- Is the character at index `n` a space, a tab or a line break, or does the text end before it? -/
def blankAt (n : Nat) (cs : List Char) : Bool :=
  match cs[n]? with
  | some c => isSpace c || isBreak c
  | none => true

/-! ### Reading -/

/-- A place in a stream. -/
structure Reader where
  rest : List Char
  /-- How many characters have been read. -/
  index : Nat
  line : Nat
  /-- How many characters of the line have been read. -/
  column : Nat
deriving Inhabited

namespace Reader

/-- The start of a stream. -/
def start (text : List Char) : Reader := ⟨text, 0, 0, 0⟩

/-- Skip `n` characters of a line. -/
def skip (n : Nat) (r : Reader) : Reader :=
  { r with rest := r.rest.drop n, index := r.index + n, column := r.column + n }

/-- Skip the characters at the front that satisfy `p`. -/
def skipWhile (p : Char → Bool) (r : Reader) : Reader :=
  r.skip (r.rest.takeWhile p).length

/-- The characters at the front that satisfy `p`, and the place behind them. -/
def takeWhile (p : Char → Bool) (r : Reader) : List Char × Reader :=
  (r.rest.takeWhile p, r.skipWhile p)

/-- Skip the rest of the line. -/
def skipToBreak (r : Reader) : Reader := r.skipWhile (!isBreak ·)

/-- Read the line break at the front, if there is one. All breaks read as a line feed, but for the
line and paragraph separators, which read as themselves. -/
def takeBreak (r : Reader) : List Char × Reader :=
  match r.rest with
  | '\r' :: '\n' :: rest => (['\n'], ⟨rest, r.index + 2, r.line + 1, 0⟩)
  | c :: rest =>
    if isBreak c then
      ([if c == '\u2028' || c == '\u2029' then c else '\n'], ⟨rest, r.index + 1, r.line + 1, 0⟩)
    else ([], r)
  | [] => ([], r)

/-- Does a line with a document marker begin here? -/
def atMarker (r : Reader) : Bool :=
  r.column == 0 &&
    match r.rest with
    | '-' :: '-' :: '-' :: rest | '.' :: '.' :: '.' :: rest => blankAt 0 rest
    | _ => false

end Reader

end Listfile.Yaml
