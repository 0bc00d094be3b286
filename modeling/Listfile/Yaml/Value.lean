import Listfile.Yaml.Node

/-!
# Values

What the scalars of a document mean where no type is asked for, and reading nodes where one is.

* `Value`: a node with its scalars resolved and its aliases replaced.
* `ReadM`: reading a document, in which aliases are not followed too often.
* `Document.value`: the value of a node.
* `Document.text`, `flag`, `items`, `entries`: a node read as text, as a truth value, as a list or as
  a mapping.
-/

namespace Listfile.Yaml

/-- A value without a prescribed type. -/
inductive Value
  | null
  | bool (b : Bool)
  | natural (n : Nat)
  /-- An integer with a minus sign. -/
  | negated (n : Nat)
  | float
  | text (s : String)
  | list (items : List Value)
  | map (entries : List (Value × Value))
deriving Inhabited

/-! ### Scalars -/

/-- The truth value that a text is written for. -/
def bool? : List Char → Option Bool
  | ['t', 'r', 'u', 'e'] | ['T', 'r', 'u', 'e'] | ['T', 'R', 'U', 'E'] => some true
  | ['f', 'a', 'l', 's', 'e'] | ['F', 'a', 'l', 's', 'e'] | ['F', 'A', 'L', 'S', 'E'] => some false
  | _ => none

/-- Is this one of the spellings of the null value? -/
def isNull (s : List Char) : Bool :=
  ["null".toList, "Null".toList, "NULL".toList, ['~']].contains s

/-- The value of digits in a base, none unless there is a digit and all are digits. -/
def digitsValue? (base : Nat) (s : List Char) : Option Nat :=
  if s ≠ [] ∧ s.all (isDigitOf base) then some (natOfDigits base s) else none

/-- Digits that begin with a needless zero are no number. -/
def isZeroPadded (s : List Char) : Bool :=
  match s with
  | '0' :: c :: cs => (c :: cs).all Char.isDigit
  | _ => false

/-- A text without its sign. -/
def unsigned (s : List Char) : List Char :=
  match s with
  | '+' :: s | '-' :: s => s
  | s => s

/-- The magnitude of an integer written in decimal, or in base 16, 8 or 2 behind `0x`, `0o` or `0b`. -/
def magnitude? (s : List Char) : Option Nat :=
  match s with
  | '0' :: 'x' :: ds => digitsValue? 16 ds
  | '0' :: 'o' :: ds => digitsValue? 8 ds
  | '0' :: 'b' :: ds => digitsValue? 2 ds
  | ds => if isZeroPadded ds then none else digitsValue? 10 ds

/-- What a text is as an integer: not one, one that is too large for any type, or a value. -/
inductive IntReading
  | notInt
  | tooLarge
  | value (v : Value)

/-- Read an integer. Those of 64 bits are values; what takes up to 128 bits is an integer still. -/
def readInt (s : List Char) : IntReading :=
  match s with
  | '-' :: ds =>
    match magnitude? ds with
    | some n =>
      if n ≤ pow2 63 then .value (.negated n)
      else if n ≤ pow2 127 then .tooLarge
      else .notInt
    | none => .notInt
  | s =>
    let ds := match s with
      | '+' :: ds => ds
      | ds => ds
    match magnitude? ds with
    | some n =>
      if fitsUnsigned 64 n then .value (.natural n)
      else if fitsUnsigned 128 n then .tooLarge
      else .notInt
    | none => .notInt

/-- Is this a decimal number with an optional fraction and an optional exponent? -/
def isDecimal (s : List Char) : Bool :=
  let (whole, rest) := s.span Char.isDigit
  let (fraction, rest) := match rest with
    | '.' :: rest => rest.span Char.isDigit
    | rest => ([], rest)
  !(whole.isEmpty && fraction.isEmpty) &&
    match rest with
    | [] => true
    | c :: rest =>
      (c == 'e' || c == 'E') &&
        (let ds := unsigned rest
         !ds.isEmpty && ds.all Char.isDigit)

/-- The exponent of ten and the digits of a decimal number. -/
def decimalParts (s : List Char) : Nat × Int :=
  let (whole, rest) := s.span Char.isDigit
  let (fraction, rest) := match rest with
    | '.' :: rest => rest.span Char.isDigit
    | rest => ([], rest)
  let digits := natOfDigits 10 (whole ++ fraction)
  let exponent : Int := match rest with
    | _ :: '-' :: ds => -(natOfDigits 10 ds : Int)
    | _ :: ds => natOfDigits 10 (unsigned ds)
    | [] => 0
  (digits, exponent - fraction.length)

/-- Does a decimal number lie within the range of double precision? It does unless it rounds to
2 ^ 1024. -/
def isFiniteDecimal (s : List Char) : Bool :=
  let (digits, exponent) := decimalParts s
  let bound := pow2 1024 - pow2 970
  if digits = 0 ∨ exponent ≤ 0 then digits < bound * Nat.pow 10 (min (-exponent).toNat 100000)
  else exponent ≤ 400 ∧ digits * Nat.pow 10 exponent.toNat < bound

/-- Is this a floating point number? -/
def isFloat (s : List Char) : Bool :=
  let spellings (sign : List Char) (words : List String) := words.any fun w => s == sign ++ w.toList
  spellings [] [".inf", ".Inf", ".INF", ".nan", ".NaN", ".NAN"] ||
    spellings ['+'] [".inf", ".Inf", ".INF"] || spellings ['-'] [".inf", ".Inf", ".INF"] ||
    (isDecimal (unsigned s) && isFiniteDecimal (unsigned s))

/-- What a plain scalar means. -/
def plainValue (s : List Char) : Except Fault Value :=
  if s.isEmpty || isNull s then .ok .null
  else match bool? s with
    | some b => .ok (.bool b)
    | none =>
      match readInt s with
      | .value v => .ok v
      | .tooLarge => .error .unexpectedShape
      | .notInt =>
        if !isZeroPadded (unsigned s) && isFloat s then .ok .float
        else .ok (.text (String.ofList s))

/-- The tag of a standard type. -/
def standardTag (name : String) : Tag := encodeUtf8 ("tag:yaml.org,2002:".toList ++ name.toList)

/-- Tags that begin with an exclamation mark are local. -/
def isLocalTag (tag : Tag) : Bool := tag.head? == some 0x21

/-- Does a tag name a type of its own? A local tag does if its name is a text. -/
def namesType (tag : Option Tag) : Bool := tag.any fun t => isLocalTag t && (decodeUtf8? t).isSome

/-- What a scalar means. The tags of standard types are enforced. -/
def scalarValue (s : List Char) (style : Style) (tag : Option Tag) : Except Fault Value :=
  if tag = some (standardTag "bool") then
    match bool? s with
    | some b => .ok (.bool b)
    | none => .error .unexpectedShape
  else if tag = some (standardTag "int") then
    match readInt s with
    | .value v => .ok v
    | _ => .error .unexpectedShape
  else if tag = some (standardTag "float") then
    if isFloat s then .ok .float else .error .unexpectedShape
  else if tag = some (standardTag "null") then
    if isNull s then .ok .null else .error .unexpectedShape
  else if namesType tag then .error .unexpectedShape
  else if tag.all isLocalTag ∧ style = .plain then plainValue s
  else .ok (.text (String.ofList s))

/-! ### Nodes -/

/-- Reading a document. The state is how many more aliases may be followed. -/
abbrev ReadM := StateT Nat (Except Fault)

namespace Document

/-- Read a document: aliases may be followed a hundred times for each part of it. -/
def read {α : Type} (d : Document) (reading : ReadM α) : Except Fault α :=
  (reading.run (100 * d.root.size)).map (·.1)

/-- The node that a node stands for. -/
def follow (d : Document) : Node → ReadM Node
  | .alias i => do
    match ← get with
    | 0 => throw .tooManyAliases
    | n + 1 =>
      set n
      return (d.anchored.lookup i).getD .absent
  | n => return n

/-- The value of a node, with collections nested at most `depth` deep. -/
def value (d : Document) : Nat → Node → ReadM Value
  | depth, n => do
    match ← d.follow n with
    | .scalar s style tag => scalarValue s style tag
    | .alias _ => throw .unexpectedShape
    | .sequence tag items =>
      match depth with
      | 0 => throw .nestingTooDeep
      | depth + 1 => do
        if namesType tag then throw .unexpectedShape
        return .list (← items.mapM (value d depth))
    | .mapping tag entries =>
      match depth with
      | 0 => throw .nestingTooDeep
      | depth + 1 => do
        if namesType tag then throw .unexpectedShape
        return .map (← entries.mapM fun e => do
          return (← value d depth e.1, ← value d depth e.2))

/-- A node read as text: any scalar, as it is written. -/
def text (d : Document) (n : Node) : ReadM String := do
  match ← d.follow n with
  | .scalar s _ _ => return String.ofList s
  | _ => throw .unexpectedShape

/-- A node read as a truth value. -/
def flag (d : Document) (n : Node) : ReadM Bool := do
  match ← d.follow n with
  | .scalar s style tag =>
    if style = .plain ∨ (style = .literal ∧ tag = some (standardTag "bool")) then
      match bool? s with
      | some b => return b
      | none => throw .unexpectedShape
    else throw .unexpectedShape
  | _ => throw .unexpectedShape

/-- A node read as a list; nothing at all is the empty list. -/
def items (d : Document) (n : Node) : ReadM (List Node) := do
  match ← d.follow n with
  | .sequence _ items => return items
  | .scalar [] .plain _ => return []
  | _ => throw .unexpectedShape

/-- A node read as a mapping; nothing at all is the empty mapping. -/
def entries (d : Document) (n : Node) : ReadM (List (Node × Node)) := do
  match ← d.follow n with
  | .mapping _ entries => return entries
  | .scalar [] .plain _ => return []
  | _ => throw .unexpectedShape

/-- The entries of a node read as a mapping from text. -/
def fields (d : Document) (n : Node) : ReadM (List (String × Node)) := do
  (← d.entries n).mapM fun e => return (← d.text e.1, e.2)

end Document

end Listfile.Yaml
