import Listfile.Config.Toml.Table

/-!
# Documents of TOML

* `Reader.value`: a value, which may be a collection.
* `parse?`: the fields of a document.
-/

namespace Listfile.Config.Toml

namespace Reader

/-- Succeed only if a collection may be nested in `depth` others. -/
def nest (depth : Nat) : Reader Unit := if depth + 1 < maxDepth then return () else failure

/-- The names of a key but the last, and the last. -/
def splitKey : Reader (List String × String) := do
  let names ← key (maxDepth - 1)
  return (names.dropLast, names.getLast?.getD "")

mutual

/-- A value within `depth` collections. -/
def value (depth : Nat) : (fuel : Nat) → Reader Value
  | 0 => failure
  | fuel + 1 => do
    match ← peek with
    | some '[' =>
      nest depth
      expect '['
      return .list (← items (depth + 1) fuel)
    | some '\x7b' =>
      nest depth
      expect '\x7b'
      blanks
      if ← accept '\x7d' then return .table []
      else return .table (fieldValues (← fields (depth + 1) [] fuel))
    | some '"' | some '\'' => fun cs => (text? cs).map fun p => (.text (String.ofList p.1), p.2)
    | _ => fun cs =>
      let (word, rest) := splitWord cs
      (word? word).map fun v => (v, rest)

/-- The items of a list up to the closing bracket. -/
def items (depth : Nat) : (fuel : Nat) → Reader (List Value)
  | 0 => failure
  | fuel + 1 => do
    gap (fuel + 1)
    if ← accept ']' then return []
    else
      let v ← value depth fuel
      gap (fuel + 1)
      if ← accept ',' then return v :: (← items depth fuel)
      else
        expect ']'
        return [v]

/-- The fields of a table between braces up to the closing brace, after those that are `done`. -/
def fields (depth : Nat) (done : Fields) : (fuel : Nat) → Reader Fields
  | 0 => failure
  | fuel + 1 => do
    let (names, name) ← splitKey
    expect '='
    blanks
    let v ← value depth fuel
    blanks
    let done ← StateT.lift (insertAt v names name done)
    if ← accept ',' then fields depth done fuel
    else
      expect '\x7d'
      return done

end

/-- A document that is being read. -/
structure Progress where
  root : Fields
  /-- The names of the latest heading. -/
  heading : List String

/-- A heading, behind its first bracket. -/
def heading (p : Progress) : Reader Progress := do
  let list ← accept '['
  let (names, name) ← splitKey
  expect ']'
  if list then expect ']'
  endOfLine
  let root ← StateT.lift ((if list then openItem names name else openTable names name) p.root)
  return ⟨root, names ++ [name]⟩

/-- A key with its value. -/
def entry (p : Progress) (fuel : Nat) : Reader Progress := do
  let (names, name) ← splitKey
  expect '='
  blanks
  let v ← value 0 fuel
  endOfLine
  let root ← StateT.lift (alterTable (insertAt v names name) p.heading p.root)
  return { p with root := root }

/-- The lines of a document; at most `fuel` of them. -/
def document : (fuel : Nat) → Progress → Reader Progress
  | 0, _ => failure
  | fuel + 1, p => do
    blanks
    match ← peek with
    | none => return p
    | some '[' =>
      expect '['
      document fuel (← heading p)
    | some '#' | some '\n' | some '\r' =>
      endOfLine
      document fuel p
    | some _ => document fuel (← entry p fuel)

end Reader

/-- The fields of a document. A mark of the byte order may stand in front of it. -/
def parse? (text : List Char) : Option (List (String × Value)) := do
  let text := if text.head? = some '\uFEFF' then text.tail else text
  let (p, _) ← Reader.document (2 * text.length + 2) ⟨[], []⟩ text
  match ← withMoments? (.table (fieldValues p.root)) with
  | .table fields => return fields
  | _ => none

end Listfile.Config.Toml
