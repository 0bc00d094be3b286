/-!
# Json

* `Json.Value`: the values that are written.
* `Json.render`: their text, an item or a field to a line, two spaces deeper for every level.
-/

namespace Listfile.Json

/-- A value. The fields of an object are written in the order they are given. -/
inductive Value
  | number (n : Nat)
  | text (s : List Char)
  | list (items : List Value)
  | object (fields : List (String × Value))

instance : Inhabited Value := ⟨.list []⟩

/-- A character within quotation marks. -/
def escape (c : Char) : List Char :=
  if c = '"' then ['\\', '"']
  else if c = '\\' then ['\\', '\\']
  else if c = '\x08' then ['\\', 'b']
  else if c = '\t' then ['\\', 't']
  else if c = '\n' then ['\\', 'n']
  else if c = '\x0C' then ['\\', 'f']
  else if c = '\r' then ['\\', 'r']
  else if c.toNat < 0x10 then ['\\', 'u', '0', '0', '0'] ++ Nat.toDigits 16 c.toNat
  else if c.toNat < 0x20 then ['\\', 'u', '0', '0'] ++ Nat.toDigits 16 c.toNat
  else [c]

/-- A text between quotation marks. -/
def quote (s : List Char) : List Char := '"' :: s.flatMap escape ++ ['"']

/-- The start of a line at the given level. -/
def newline (level : Nat) : List Char := '\n' :: List.replicate (2 * level) ' '

mutual

/-- The text of a value at the given level. -/
def renderAt (level : Nat) : Value → List Char
  | .number n => (toString n).toList
  | .text s => quote s
  | .list [] => ['[', ']']
  | .list (v :: vs) =>
    '[' :: newline (level + 1) ++ renderAt (level + 1) v ++ renderItems (level + 1) vs ++
      newline level ++ [']']
  | .object [] => ['\x7b', '\x7d']
  | .object ((key, v) :: fields) =>
    '\x7b' :: newline (level + 1) ++ quote key.toList ++ [':', ' '] ++ renderAt (level + 1) v ++
      renderFields (level + 1) fields ++ newline level ++ ['\x7d']

/-- The items of a list behind the first. -/
def renderItems (level : Nat) : List Value → List Char
  | [] => []
  | v :: vs => ',' :: newline level ++ renderAt level v ++ renderItems level vs

/-- The fields of an object behind the first. -/
def renderFields (level : Nat) : List (String × Value) → List Char
  | [] => []
  | (key, v) :: fields =>
    ',' :: newline level ++ quote key.toList ++ [':', ' '] ++ renderAt level v ++
      renderFields level fields

end

/-- The text of a value. -/
def render (v : Value) : List Char := renderAt 0 v

end Listfile.Json
