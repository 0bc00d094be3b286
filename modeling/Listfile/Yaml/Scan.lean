import Listfile.Yaml.Scalar

/-!
# From text to tokens

A simple key is only recognised when the colon behind it is reached, so the tokens that open the key and
its mapping are put in at the place of the key afterwards.

* `Scanner`: what has been scanned, the indentation, and the places where a simple key may begin.
* `scan`: the tokens of a stream.
-/

namespace Listfile.Yaml

/-- A place where a simple key may begin. -/
structure SimpleKey where
  /-- Must a colon follow? -/
  required : Bool
  /-- The index of the next token at this place. -/
  token : Nat
  place : Reader
deriving Inhabited

/-- The state of a scan. -/
structure Scanner where
  reader : Reader
  tokens : Array Token
  /-- The column of the innermost block, none outside all blocks. -/
  indent : Option Nat
  /-- The columns of the blocks around it. -/
  outer : List (Option Nat)
  /-- May a simple key begin here? -/
  keyAllowed : Bool
  /-- The simple key that may have begun in the block context or the innermost flow collection. -/
  key : Option SimpleKey
  /-- The same for the collections around it; their number is the depth of flow collections. -/
  keys : List (Option SimpleKey)
deriving Inhabited

namespace Scanner

/-- The start of a stream. -/
def start (text : List Char) : Scanner := ⟨.start text, #[], none, [], true, none, []⟩

/-- Is this within a flow collection? -/
def inFlow (s : Scanner) : Bool := !s.keys.isEmpty

/-- Is a column further right than that of the innermost block? -/
def deeper (s : Scanner) (column : Nat) : Bool := s.indent.all (· < column)

/-- Add a token. -/
def add (s : Scanner) (t : Token) : Scanner := { s with tokens := s.tokens.push t }

/-- Add a token that is written with `n` characters. -/
def addSkipping (s : Scanner) (t : Token) (n : Nat) : Scanner :=
  { s.add t with reader := s.reader.skip n }

/-! ### Simple keys and indentation -/

/-- A simple key stands on one line and is not longer than 1024 characters. -/
def dropStale (s : Scanner) (key : Option SimpleKey) : Except Fault (Option SimpleKey) :=
  match key with
  | some k =>
    if k.place.line < s.reader.line || k.place.index + 1024 < s.reader.index then
      if k.required then .error .missingColon else .ok none
    else .ok (some k)
  | none => .ok none

/-- Forget the simple keys that can no longer be completed. -/
def dropStaleKeys (s : Scanner) : Except Fault Scanner := do
  return { s with key := ← s.dropStale s.key, keys := ← s.keys.mapM s.dropStale }

/-- Give up the simple key of this level. -/
def removeKey (s : Scanner) : Except Fault Scanner :=
  if s.key.any (·.required) then .error .missingColon else .ok { s with key := none }

/-- A simple key may begin here. -/
def saveKey (s : Scanner) : Except Fault Scanner := do
  if s.keyAllowed then
    let s ← s.removeKey
    let required := !s.inFlow && s.indent == some s.reader.column
    return { s with key := some ⟨required, s.tokens.size, s.reader⟩ }
  else return s

/-- Open a block at a column if it is further right than the innermost one. The token is put in at the
given index. -/
def openBlock (s : Scanner) (column index : Nat) (t : Token) : Scanner :=
  if !s.inFlow && s.deeper column then
    { s with
      indent := some column
      outer := s.indent :: s.outer
      tokens := s.tokens.insertIdxIfInBounds index t }
  else s

/-- Close blocks, of which `outer` holds the columns around the innermost, until the column is within
the innermost. -/
def closeBlocksFrom (column : Option Nat) :
    Option Nat → List (Option Nat) → Array Token → Option Nat × List (Option Nat) × Array Token
  | none, outer, tokens => (none, outer, tokens)
  | some indent, outer, tokens =>
    if column.all (· < indent) then
      match outer with
      | next :: outer => closeBlocksFrom column next outer (tokens.push .blockEnd)
      | [] => (none, [], tokens.push .blockEnd)
    else (some indent, outer, tokens)
termination_by structural _ outer => outer

/-- Close the blocks that are further right than a column, or all of them. -/
def closeBlocks (s : Scanner) (column : Option Nat) : Scanner :=
  if s.inFlow then s
  else
    let (indent, outer, tokens) := closeBlocksFrom column s.indent s.outer s.tokens
    { s with indent := indent, outer := outer, tokens := tokens }

/-! ### Between tokens -/

/-- Skip blanks, comments and line breaks up to the next token. A mark of the byte order may begin any
line. Tabs are not skipped where they would stand for indentation. -/
def skipToToken : Nat → Scanner → Scanner
  | 0, s => s
  | fuel + 1, s =>
    let r := s.reader
    let r := if r.column = 0 && r.rest.head? == some '\uFEFF' then r.skip 1 else r
    let r := r.skipWhile fun c => c == ' ' || (c == '\t' && (s.inFlow || !s.keyAllowed))
    let r := if r.rest.head? == some '#' then r.skipToBreak else r
    if r.rest.head?.any isBreak then
      skipToToken fuel
        { s with reader := r.takeBreak.2, keyAllowed := s.keyAllowed || !s.inFlow }
    else { s with reader := r }

/-! ### Directives, anchors and tags -/

/-- The number of a version, of at most nine digits. -/
def versionNumber (r : Reader) : Except Fault (Nat × Reader) :=
  let (digits, r) := r.takeWhile Char.isDigit
  if digits.isEmpty || 9 < digits.length then .error .badDirective
  else .ok (natOfDigits 10 digits, r)

/-- The handle of a tag: an exclamation mark, a name, and another mark unless the text is no handle. -/
def tagHandle (directive : Bool) (r : Reader) : Except Fault (List Char × Reader) := do
  if r.rest.head? != some '!' then throw .badTag
  let (name, r) := (r.skip 1).takeWhile isNameChar
  if r.rest.head? == some '!' then return ('!' :: name ++ ['!'], r.skip 1)
  if directive && !name.isEmpty then throw .badTag
  return ('!' :: name, r)

/-- May the character stand in a tag? Some may only between angle brackets. -/
def isTagChar (verbatim : Bool) (c : Char) : Bool :=
  isNameChar c || [';', '/', '?', ':', '@', '&', '=', '+', '$', '.', '!', '~', '*', '\'', '(',
    ')'].contains c || (verbatim && [',', '[', ']'].contains c)

/-- How many bytes a character takes of which this is the first byte. -/
def sequenceLength? (b : UInt8) : Option Nat :=
  if b < 0x80 then some 1
  else if b < 0xC0 then none
  else if b < 0xE0 then some 2
  else if b < 0xF0 then some 3
  else if b < 0xF8 then some 4
  else none

/-- The bytes that a tag gives in hexadecimal behind per cent signs, at most as many as said. -/
def escapedBytes : Nat → List Char → List UInt8
  | 0, _ => []
  | fuel + 1, '%' :: a :: b :: cs =>
    match digitValue? a, digitValue? b with
    | some x, some y => (16 * x + y).toUInt8 :: escapedBytes fuel cs
    | _, _ => []
  | _, _ => []

/-- The bytes of a character whose bytes are escaped. -/
def escapedCharacter? (cs : List Char) : Option (List UInt8) := do
  let first ← (escapedBytes 1 cs).head?
  let length ← sequenceLength? first
  let bytes := escapedBytes length cs
  if bytes.length = length ∧ bytes.tail.all (fun b => 0x80 ≤ b ∧ b < 0xC0) then some bytes else none

/-- The rest of a tag. Characters beyond ASCII are written as escaped bytes. -/
def tagText (verbatim : Bool) : Nat → Reader → Except Fault (Tag × Reader)
  | 0, r => .ok ([], r)
  | fuel + 1, r =>
    match r.rest with
    | '%' :: _ =>
      match escapedCharacter? r.rest with
      | some bytes => do
        let (text, r) ← tagText verbatim fuel (r.skip (3 * bytes.length))
        return (bytes ++ text, r)
      | none => .error .badTag
    | c :: _ =>
      if isTagChar verbatim c then do
        let (text, r) ← tagText verbatim fuel (r.skip 1)
        return (c.toNat.toUInt8 :: text, r)
      else .ok ([], r)
    | [] => .ok ([], r)

/-- The rest of a tag, behind what has been read of it. The whole must not be empty. Of its bytes those
before a zero count. -/
def tagRest (verbatim : Bool) (front : List Char) (r : Reader) : Except Fault (Tag × Reader) := do
  let (text, r) ← tagText verbatim (r.rest.length + 1) r
  if front.isEmpty && text.isEmpty then throw .badTag
  return (((front.drop 1).map (·.toNat.toUInt8) ++ text).takeWhile (· != 0), r)

/-- Scan a directive at its per cent sign. -/
def directive (r : Reader) : Except Fault (Token × Reader) := do
  let (name, r) := (r.skip 1).takeWhile isNameChar
  if name.isEmpty || !blankAt 0 r.rest then throw .badDirective
  let r := r.skipWhile isSpace
  let (token, r) ←
    if name = ['Y', 'A', 'M', 'L'] then do
      let (major, r) ← versionNumber r
      if r.rest.head? != some '.' then throw .badDirective
      let (minor, r) ← versionNumber (r.skip 1)
      pure (Token.versionDirective major minor, r)
    else if name = ['T', 'A', 'G'] then do
      let (handle, r) ← tagHandle true r
      if !r.rest.head?.any isSpace then throw .badDirective
      let (pref, r) ← tagRest true [] (r.skipWhile isSpace)
      if !blankAt 0 r.rest then throw .badDirective
      pure (Token.tagDirective handle pref, r)
    else throw .badDirective
  let r := r.skipWhile isSpace
  let r := if r.rest.head? == some '#' then r.skipToBreak else r
  if !blankAt 0 r.rest then throw .badDirective
  return (token, r.takeBreak.2)

/-- Scan the name of an anchor or alias at its indicator. -/
def anchorName (r : Reader) : Except Fault (List Char × Reader) :=
  let (name, r) := (r.skip 1).takeWhile isNameChar
  if !name.isEmpty && (blankAt 0 r.rest ||
      r.rest.head?.any ['?', ':', ',', ']', '\x7D', '%', '@', Char.ofNat 0x60].contains) then
    .ok (name, r)
  else .error .badAnchor

/-- Scan a tag at its exclamation mark. -/
def tag (flow : Bool) (r : Reader) : Except Fault (Token × Reader) := do
  let (token, r) ←
    if r.rest[1]? == some '<' then do
      let (suffix, r) ← tagRest true [] (r.skip 2)
      if r.rest.head? != some '>' then throw .badTag
      pure (Token.tag [] suffix, r.skip 1)
    else do
      let (handle, r) ← tagHandle false r
      if 1 < handle.length && handle.getLast? == some '!' then
        let (suffix, r) ← tagRest false [] r
        pure (Token.tag handle suffix, r)
      else
        let (suffix, r) ← tagRest false handle r
        pure (if suffix.isEmpty then Token.tag [] [0x21] else Token.tag ['!'] suffix, r)
  if blankAt 0 r.rest || (flow && r.rest.head? == some ',') then return (token, r)
  else throw .badTag

/-! ### Tokens -/

/-- Open a flow collection. -/
def openFlow (s : Scanner) (t : Token) : Except Fault Scanner := do
  let s ← s.saveKey
  return { s.addSkipping t 1 with key := none, keys := s.key :: s.keys, keyAllowed := true }

/-- Close a flow collection. -/
def closeFlow (s : Scanner) (t : Token) : Except Fault Scanner := do
  let s ← s.removeKey
  let s := { s.addSkipping t 1 with keyAllowed := false }
  match s.keys with
  | key :: keys => return { s with key := key, keys := keys }
  | [] => return s

/-- A directive or a document marker ends all blocks. -/
def endBlocks (s : Scanner) : Except Fault Scanner := do
  let s ← (s.closeBlocks none).removeKey
  return { s with keyAllowed := false }

/-- The dash of a sequence entry. -/
def scanEntry (s : Scanner) : Except Fault Scanner := do
  if !s.inFlow && !s.keyAllowed then throw .sequenceEntryNotAllowed
  let s := s.openBlock s.reader.column s.tokens.size .blockSequenceStart
  let s ← s.removeKey
  return { s.addSkipping .blockEntry 1 with keyAllowed := true }

/-- The question mark of a key. -/
def scanKey (s : Scanner) : Except Fault Scanner := do
  if !s.inFlow && !s.keyAllowed then throw .mappingKeyNotAllowed
  let s := s.openBlock s.reader.column s.tokens.size .blockMappingStart
  let s ← s.removeKey
  return { s.addSkipping .key 1 with keyAllowed := !s.inFlow }

/-- The colon of a value. -/
def scanValue (s : Scanner) : Except Fault Scanner := do
  match s.key with
  | some k =>
    let s := { s with tokens := s.tokens.insertIdxIfInBounds k.token .key, key := none }
    let s := s.openBlock k.place.column k.token .blockMappingStart
    return { s.addSkipping .value 1 with keyAllowed := false }
  | none =>
    if !s.inFlow && !s.keyAllowed then throw .mappingValueNotAllowed
    let s := s.openBlock s.reader.column s.tokens.size .blockMappingStart
    return { s.addSkipping .value 1 with keyAllowed := !s.inFlow }

/-- A token at which a simple key may begin. -/
def scanContent (s : Scanner) (read : Reader → Except Fault (Token × Reader)) :
    Except Fault Scanner := do
  let s ← s.saveKey
  let (token, r) ← read s.reader
  return { s.add token with reader := r, keyAllowed := false }

/-- A plain scalar. A key may begin on the line behind it. -/
def scanPlain (s : Scanner) : Except Fault Scanner := do
  let s ← s.saveKey
  let (text, broken, r) ← readPlain s.inFlow ((s.indent.map (· + 1)).getD 0) s.reader
  return { s.add (.scalar text .plain) with reader := r, keyAllowed := broken }

/-- A block scalar. -/
def scanBlockScalar (s : Scanner) (folded : Bool) : Except Fault Scanner := do
  let s ← s.removeKey
  let (text, r) ← readBlock folded s.indent s.reader
  return { s.add (.scalar text (if folded then .folded else .literal)) with
    reader := r, keyAllowed := true }

/-- A plain scalar begins with any character that is no indicator, and with a dash, question mark or
colon when no blank follows. -/
def startsPlain (flow : Bool) (c : Char) (cs : List Char) : Bool :=
  !(isSpace c || isBreak c || ['-', '?', ':', ',', '[', ']', '\x7B', '\x7D', '#', '&', '*', '!', '|',
      '>', '\'', '"', '%', '@', Char.ofNat 0x60].contains c) ||
    (c == '-' && !cs.head?.any isSpace) ||
    (!flow && (c == '?' || c == ':') && !blankAt 0 cs)

/-- Scan the token that begins with the given character. -/
def scanToken (s : Scanner) (c : Char) (cs : List Char) : Except Fault Scanner := do
  let flow := s.inFlow
  if s.reader.column = 0 && c == '%' then
    let s ← s.endBlocks
    let (token, r) ← directive s.reader
    return { s.add token with reader := r }
  else if s.reader.atMarker then
    return (← s.endBlocks).addSkipping (if c == '-' then .documentStart else .documentEnd) 3
  else if c == '[' then s.openFlow .flowSequenceStart
  else if c == '\x7B' then s.openFlow .flowMappingStart
  else if c == ']' then s.closeFlow .flowSequenceEnd
  else if c == '\x7D' then s.closeFlow .flowMappingEnd
  else if c == ',' then
    let s ← s.removeKey
    return { s.addSkipping .flowEntry 1 with keyAllowed := true }
  else if c == '-' && blankAt 0 cs then s.scanEntry
  else if c == '?' && (flow || blankAt 0 cs) then s.scanKey
  else if c == ':' && (flow || blankAt 0 cs) then s.scanValue
  else if c == '*' then
    s.scanContent fun r => do let (name, r) ← anchorName r; return (.alias name, r)
  else if c == '&' then
    s.scanContent fun r => do let (name, r) ← anchorName r; return (.anchor name, r)
  else if c == '!' then s.scanContent (tag flow)
  else if c == '|' && !flow then s.scanBlockScalar false
  else if c == '>' && !flow then s.scanBlockScalar true
  else if c == '\'' then
    s.scanContent fun r => do
      let (text, r) ← readQuoted true r
      return (.scalar text .singleQuoted, r)
  else if c == '"' then
    s.scanContent fun r => do
      let (text, r) ← readQuoted false r
      return (.scalar text .doubleQuoted, r)
  else if startsPlain flow c cs then s.scanPlain
  else throw .unexpectedCharacter

/-- Scan to the end of the stream. Each token takes a character at least. -/
def run : Nat → Scanner → Except Fault (Array Token)
  | 0, _ => .error .unexpectedCharacter
  | fuel + 1, s => do
    let s := skipToToken (s.reader.rest.length + 1) s
    let s ← s.dropStaleKeys
    let s := s.closeBlocks (some s.reader.column)
    match s.reader.rest with
    | [] => return (← s.endBlocks).tokens.push .streamEnd
    | c :: cs => run fuel (← s.scanToken c cs)

end Scanner

/-- The tokens of a stream. A byte order mark in front of it is skipped. -/
def scan (text : List Char) : Except Fault (List Token) := do
  let text := if text.head? == some '\uFEFF' then text.drop 1 else text
  if !text.all isAllowed then throw .forbiddenCharacter
  return (← Scanner.run (text.length + 1) (.start text)).toList

end Listfile.Yaml
