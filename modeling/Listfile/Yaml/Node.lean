import Listfile.Text.Utf8
import Listfile.Yaml.Scan

/-!
# From tokens to nodes

* `Node`, `Document`: what a document consists of. An alias is kept as the number of its anchor.
* `Document.parse`: the single document of a stream.
-/

namespace Listfile.Yaml

/-- A node of a document. -/
inductive Node
  | scalar (text : List Char) (style : Style) (tag : Option Tag)
  | sequence (tag : Option Tag) (items : List Node)
  | mapping (tag : Option Tag) (entries : List (Node × Node))
  /-- The node with the anchor of the given number. -/
  | alias (anchor : Nat)
deriving Inhabited

/-- The node that stands where nothing is written. -/
def Node.absent : Node := scalar [] .plain none

mutual

/-- How many scalars, aliases, and beginnings and ends of collections there are in a node. -/
def Node.size : Node → Nat
  | .scalar .. | .alias _ => 1
  | .sequence _ items => itemsSize items + 2
  | .mapping _ entries => entriesSize entries + 2

/-- The same for the items of a sequence together. -/
def itemsSize : List Node → Nat
  | [] => 0
  | n :: items => n.size + itemsSize items

/-- The same for the entries of a mapping together. -/
def entriesSize : List (Node × Node) → Nat
  | [] => 0
  | (key, n) :: entries => key.size + n.size + entriesSize entries

end

/-- A document: its root, and the nodes with anchors by the numbers of these. The first node with a number
counts. -/
structure Document where
  root : Node
  anchored : List (Nat × Node)
deriving Inhabited

/-! ### Parsing -/

/-- The state of a parse. -/
structure Parse where
  tokens : List Token
  /-- What the handles of tags stand for. -/
  handles : List (List Char × Tag)
  /-- The numbers of anchors by their names. -/
  anchors : List (List Char × Nat)
  /-- The nodes with anchors that are complete, the latest first. -/
  anchored : List (Nat × Node)

/-- A parse that may fail. -/
abbrev ParseM := StateT Parse (Except Fault)

namespace ParseM

/-- Fail. -/
def fail {α : Type} (f : Fault) : ParseM α := fun _ => .error f

/-- The next token. -/
def peek : ParseM Token := do return (← get).tokens.head?.getD .streamEnd

/-- Drop the next token. -/
def drop : ParseM Unit := modify fun p => { p with tokens := p.tokens.tail }

/-- Read a run of tokens of a kind. -/
def dropAll (t : Token) : ParseM Unit := modify fun p => { p with tokens := p.tokens.dropWhile (· == t) }

/-- Read the anchor and the tag in front of a node, in either order. -/
def properties : ParseM (Option (List Char) × Option (List Char × Tag)) := do
  match ← peek with
  | .anchor name =>
    drop
    match ← peek with
    | .tag handle suffix => drop; return (some name, some (handle, suffix))
    | _ => return (some name, none)
  | .tag handle suffix =>
    drop
    match ← peek with
    | .anchor name => drop; return (some name, some (handle, suffix))
    | _ => return (none, some (handle, suffix))
  | _ => return (none, none)

/-- The full text of a tag. -/
def fullTag (tag : Option (List Char × Tag)) : ParseM (Option Tag) := do
  match tag with
  | none => return none
  | some ([], suffix) => return some suffix
  | some (handle, suffix) =>
    match (← get).handles.lookup handle with
    | some pref => return some (pref ++ suffix)
    | none => fail .undefinedTagHandle

/-- An anchor of a node that is not complete yet. -/
structure Anchor where
  number : Nat
  /-- How many nodes with anchors were complete when the node began. -/
  before : Nat

/-- Give a number to the anchor of a node that begins here: the number of names that are known. It is taken
already if a name that was known has been given again. -/
def register (name : Option (List Char)) : ParseM (Option Anchor) := do
  match name with
  | none => return none
  | some name =>
    let p ← get
    let i := p.anchors.length
    set { p with anchors := (name, i) :: p.anchors.filter (·.1 != name) }
    return some ⟨i, p.anchored.length⟩

/-- Keep a node under the number of its anchor, unless a node within it, which began later, has the same
number. -/
def keep (anchor : Option Anchor) (n : Node) : ParseM Node := do
  if let some a := anchor then
    modify fun p =>
      if (p.anchored.take (p.anchored.length - a.before)).any (·.1 = a.number) then p
      else { p with anchored := (a.number, n) :: p.anchored }
  return n

mutual

/-- A node. `block` allows block collections, and `indentless` a sequence that is not indented further
than the mapping around it. -/
def node (block indentless : Bool) : Nat → ParseM Node
  | 0 => fail .nestingTooDeep
  | fuel + 1 => do
    if let .alias name ← peek then
      drop
      match (← get).anchors.lookup name with
      | some i => return .alias i
      | none => fail .undefinedAlias
    else
      let (anchor, written) ← properties
      let tag ← fullTag written
      let anchor ← register anchor
      match ← peek with
      | .blockEntry =>
        if indentless then keep anchor (.sequence tag (← indentlessItems fuel))
        else if anchor.isSome || tag.isSome then keep anchor (.scalar [] .plain tag)
        else fail .missingNode
      | .scalar text style =>
        drop
        keep anchor (.scalar text style tag)
      | .flowSequenceStart => drop; keep anchor (.sequence tag (← flowItems true fuel))
      | .flowMappingStart => drop; keep anchor (.mapping tag (← flowEntries true fuel))
      | .blockSequenceStart =>
        if block then drop; keep anchor (.sequence tag (← blockItems fuel))
        else if anchor.isSome || tag.isSome then keep anchor (.scalar [] .plain tag)
        else fail .missingNode
      | .blockMappingStart =>
        if block then drop; keep anchor (.mapping tag (← blockEntries fuel))
        else if anchor.isSome || tag.isSome then keep anchor (.scalar [] .plain tag)
        else fail .missingNode
      | _ =>
        if anchor.isSome || tag.isSome then keep anchor (.scalar [] .plain tag)
        else fail .missingNode

/-- The items of a block sequence. -/
def blockItems : Nat → ParseM (List Node)
  | 0 => fail .nestingTooDeep
  | fuel + 1 => do
    match ← peek with
    | .blockEntry =>
      drop
      let item ← match ← peek with
        | .blockEntry | .blockEnd => pure .absent
        | _ => node true false fuel
      return item :: (← blockItems fuel)
    | .blockEnd => drop; return []
    | _ => fail .missingEntry

/-- The items of a sequence that ends without a token of its own. -/
def indentlessItems : Nat → ParseM (List Node)
  | 0 => fail .nestingTooDeep
  | fuel + 1 => do
    match ← peek with
    | .blockEntry =>
      drop
      let item ← match ← peek with
        | .blockEntry | .key | .value | .blockEnd => pure .absent
        | _ => node true false fuel
      return item :: (← indentlessItems fuel)
    | _ => return []

/-- The entries of a block mapping. -/
def blockEntries : Nat → ParseM (List (Node × Node))
  | 0 => fail .nestingTooDeep
  | fuel + 1 => do
    match ← peek with
    | .key =>
      drop
      let key ← match ← peek with
        | .key | .value | .blockEnd => pure .absent
        | _ => node true true fuel
      let value ← blockValue fuel
      return (key, value) :: (← blockEntries fuel)
    | .blockEnd => drop; return []
    | _ => fail .missingKey

/-- The value of an entry of a block mapping. -/
def blockValue : Nat → ParseM Node
  | 0 => fail .nestingTooDeep
  | fuel + 1 => do
    match ← peek with
    | .value =>
      drop
      match ← peek with
      | .key | .value | .blockEnd => return .absent
      | _ => node true true fuel
    | _ => return .absent

/-- The items of a flow sequence. An item may be a mapping of one entry, written without braces. -/
def flowItems (first : Bool) : Nat → ParseM (List Node)
  | 0 => fail .nestingTooDeep
  | fuel + 1 => do
    if (← peek) = .flowSequenceEnd then drop; return []
    if !first then
      if (← peek) = .flowEntry then drop else fail .missingSeparator
    match ← peek with
    | .flowSequenceEnd => drop; return []
    | .key =>
      drop
      let key ← match ← peek with
        -- the token in the place of a missing key is taken with it
        | .value | .flowEntry | .flowSequenceEnd => drop; pure .absent
        | _ => node false false fuel
      let value ← flowPairValue fuel
      return .mapping none [(key, value)] :: (← flowItems false fuel)
    | _ =>
      let item ← node false false fuel
      return item :: (← flowItems false fuel)

/-- The value of a mapping of one entry in a flow sequence. -/
def flowPairValue : Nat → ParseM Node
  | 0 => fail .nestingTooDeep
  | fuel + 1 => do
    match ← peek with
    | .value =>
      drop
      match ← peek with
      | .flowEntry | .flowSequenceEnd => return .absent
      | _ => node false false fuel
    | _ => return .absent

/-- The entries of a flow mapping. -/
def flowEntries (first : Bool) : Nat → ParseM (List (Node × Node))
  | 0 => fail .nestingTooDeep
  | fuel + 1 => do
    if (← peek) = .flowMappingEnd then drop; return []
    if !first then
      if (← peek) = .flowEntry then drop else fail .missingSeparator
    match ← peek with
    | .flowMappingEnd => drop; return []
    | .key =>
      drop
      let key ← match ← peek with
        | .value | .flowEntry | .flowMappingEnd => pure .absent
        | _ => node false false fuel
      let value ← flowValue fuel
      return (key, value) :: (← flowEntries false fuel)
    | _ =>
      let key ← node false false fuel
      return (key, .absent) :: (← flowEntries false fuel)

/-- The value of an entry of a flow mapping. -/
def flowValue : Nat → ParseM Node
  | 0 => fail .nestingTooDeep
  | fuel + 1 => do
    match ← peek with
    | .value =>
      drop
      match ← peek with
      | .flowEntry | .flowMappingEnd => return .absent
      | _ => node false false fuel
    | _ => return .absent

end

/-! ### Documents -/

/-- The handles that need no directive. -/
def standardHandles : List (List Char × Tag) :=
  [(['!'], encodeUtf8 ['!']), (['!', '!'], encodeUtf8 "tag:yaml.org,2002:".toList)]

/-- Read the directives in front of a document. `versioned` tells that a version was given. -/
def directives (versioned : Bool) (handles : List (List Char × Tag)) : Nat → ParseM Unit
  | 0 => fail .nestingTooDeep
  | fuel + 1 => do
    match ← peek with
    | .versionDirective major minor =>
      if versioned then fail .duplicateDirective
      else if major = 1 ∧ (minor = 1 ∨ minor = 2) then do drop; directives true handles fuel
      else fail .incompatibleVersion
    | .tagDirective handle pref =>
      if (handles.lookup handle).isSome then fail .duplicateDirective
      else do drop; directives versioned ((handle, pref) :: handles) fuel
    | _ =>
      let defaults := standardHandles.filter fun h => (handles.lookup h.1).isNone
      modify fun p => { p with handles := handles ++ defaults }

/-- The content of a document behind its marker. -/
def content (fuel : Nat) : ParseM Node := do
  match ← peek with
  | .versionDirective .. | .tagDirective .. | .documentStart | .documentEnd | .streamEnd =>
    return .absent
  | _ => node true false fuel

/-- The single document of a stream. -/
def document (fuel : Nat) : ParseM Document := do
  let root ← match ← peek with
    | .streamEnd => fail .noDocument
    | .versionDirective .. | .tagDirective .. | .documentStart =>
      directives false [] fuel
      if (← peek) = .documentStart then drop else fail .missingDocumentStart
      content fuel
    | _ => directives false [] fuel; node true false fuel
  dropAll .documentEnd
  if (← peek) = .streamEnd then return ⟨root, (← get).anchored⟩
  else fail .severalDocuments

end ParseM

/-- The single document of a stream. -/
def Document.parse (text : List Char) : Except Fault Document := do
  let tokens ← scan text
  let (d, _) ← (ParseM.document (2 * tokens.length + 2)).run ⟨tokens, [], [], []⟩
  return d

end Listfile.Yaml
