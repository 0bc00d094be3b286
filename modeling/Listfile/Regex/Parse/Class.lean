import Listfile.Regex.Parse.Escape
import Listfile.Regex.Quote

/-!
# Classes

A class is read twice: first its escapes are replaced, then the text that results is read as a set.

* `ClassToken`: a character of that text, or a set that an escape stands for.
* `classTokens`: the text of a class.
* `classSet`: the set that such a text denotes.
-/

namespace Listfile.Regex

/-! ### The text of a class -/

/-- A part of the text of a class: a character as written, a character that an escape stands for, or
a set that an escape stands for. -/
inductive ClassToken
  | plain (c : Char)
  | quoted (c : Char)
  | set (s : CharSet)

namespace ClassToken

/-- The character that a token stands for. -/
def char? : ClassToken → Option Char
  | plain c | quoted c => some c
  | set _ => none

/-- The set that a token stands for. -/
def toSet : ClassToken → CharSet
  | plain c | quoted c => .single c
  | set s => s

/-- The text of a class with the digits of hexadecimal numbers, or with all other characters. -/
def hexDigits (negated : Bool) : List ClassToken :=
  (if negated then "[^0-9A-Fa-f]" else "[0-9A-Fa-f]").toList.map plain

/-- What an escape leaves in the text of a class. Only a character that means something in a class stays
quoted. -/
def ofEscaped : Escaped → Except Fault (List ClassToken)
  | .char c _ => .ok [if isMeta c then quoted c else plain c]
  | .set s => .ok [set s]
  | .hexDigits negated => .ok (hexDigits negated)
  | _ => .error .badClass

end ClassToken

/-- The text of a class up to its closing bracket, and what follows that. `nest` counts the classes
that are open within. -/
def classTokensFrom (flags : Flags) (g : GroupTable) :
    Nat → Nat → List Char → Except Fault (List ClassToken × List Char)
  | 0, _, _ => .error .unclosedClass
  | _, _, [] => .error .unclosedClass
  | fuel + 1, nest, '\\' :: cs => do
    let (escaped, rest) ← escape flags g true cs
    let first ← ClassToken.ofEscaped escaped
    let (tokens, rest) ← classTokensFrom flags g fuel nest rest
    return (first ++ tokens, rest)
  | fuel + 1, nest, c :: cs =>
    if c = ']' && nest = 0 then .ok ([], cs)
    else do
      let nest := if c = '[' then nest + 1 else if c = ']' then nest - 1 else nest
      let (tokens, rest) ← classTokensFrom flags g fuel nest cs
      return (.plain c :: tokens, rest)

/-- A character that may come first. -/
def optionalPlain (c : Char) (cs : List Char) : List ClassToken × List Char :=
  if cs.head? = some c then ([.plain c], cs.tail) else ([], cs)

/-- The text of a class whose opening bracket stands before `cs`. A closing bracket that comes first is
an ordinary member. -/
def classTokens (flags : Flags) (g : GroupTable) (cs : List Char) :
    Except Fault (List ClassToken × List Char) := do
  let (hat, cs) := optionalPlain '^' cs
  let (bracket, cs) := optionalPlain ']' cs
  let (tokens, rest) ← classTokensFrom flags g (cs.length + 1) 0 cs
  return (hat ++ bracket ++ tokens, rest)

/-! ### The set of a class -/

/-- The operators between the parts of a class. -/
inductive SetOp
  | inter
  | diff
  | symmDiff

/-- Apply an operator, ignoring case in both operands if asked to. -/
def SetOp.apply (fold : Bool) (op : SetOp) (a b : CharSet) : CharSet :=
  let a := a.foldedIf fold
  let b := b.foldedIf fold
  match op with
  | inter => .inter a b
  | diff => .diff a b
  | symmDiff => .symmDiff a b

/-- A class that is being read: whether it is a complement, what stands before the latest operator,
and the members since then. -/
structure OpenClass where
  negated : Bool
  left : Option (SetOp × CharSet)
  members : List CharSet

namespace OpenClass

/-- The set read so far, before complementing. -/
def value (fold : Bool) (c : OpenClass) : CharSet :=
  let members := CharSet.unions c.members.reverse
  match c.left with
  | none => members
  | some (op, left) => op.apply fold left members

/-- The set of the class once it is closed. -/
def close (fold : Bool) (c : OpenClass) : CharSet :=
  ((c.value fold).foldedIf fold).negatedIf c.negated

/-- Add a member. -/
def add (c : OpenClass) (s : CharSet) : OpenClass := { c with members := s :: c.members }

/-- Go on after an operator. -/
def operator (fold : Bool) (c : OpenClass) (op : SetOp) : OpenClass :=
  { c with left := some (op, c.value fold), members := [] }

end OpenClass

/-- The dashes at the front of a class are ordinary members, and so is a closing bracket that would
leave the class empty. -/
def openClass (tokens : List ClassToken) : OpenClass × List ClassToken :=
  let (negated, tokens) := match tokens with
    | .plain '^' :: ts => (true, ts)
    | ts => (false, ts)
  let isDash : ClassToken → Bool
    | .plain '-' => true
    | _ => false
  let rest := tokens.dropWhile isDash
  if rest.length < tokens.length then (⟨negated, none, [.single '-']⟩, rest)
  else match rest with
    | .plain ']' :: ts => (⟨negated, none, [.single ']']⟩, ts)
    | ts => (⟨negated, none, []⟩, ts)

/-- An ASCII class such as `[:alpha:]`, of which the opening bracket has been read. Case is ignored before
the complement is taken. -/
def asciiClass? (fold : Bool) : List ClassToken → Option (CharSet × List ClassToken)
  | .plain ':' :: ts =>
    let (negated, ts) := match ts with
      | .plain '^' :: ts => (true, ts)
      | ts => (false, ts)
    let char? : ClassToken → Option Char
      | .plain c => if c = ':' then none else some c
      | _ => none
    let name := ts.map char? |>.takeWhile Option.isSome |>.filterMap id
    match ts.drop name.length with
    | .plain ':' :: .plain ']' :: rest =>
      (CharSet.ascii? (String.ofList name)).map fun s =>
        ((s.foldedIf fold).negatedIf negated, rest)
    | _ => none
  | _ => none

/-- Classes may be nested to this depth. -/
def maxClassDepth : Nat := 249

/-- Read the members of a class; `outer` holds the classes around it, innermost first. -/
def readClass (fold : Bool) : Nat → OpenClass → List OpenClass → List ClassToken →
    Except Fault (CharSet × List ClassToken)
  | 0, _, _, _ | _, _, _, [] => .error .unclosedClass
  | fuel + 1, cls, outer, .plain '[' :: ts =>
    match asciiClass? fold ts with
    | some (s, rest) => readClass fold fuel (cls.add s) outer rest
    | none =>
      if outer.length < maxClassDepth then
        let (inner, rest) := openClass ts
        readClass fold fuel inner (cls :: outer) rest
      else .error .nestingTooDeep
  | fuel + 1, cls, outer, .plain ']' :: ts =>
    match outer with
    | [] => .ok (cls.close fold, ts)
    | next :: outer => readClass fold fuel (next.add (cls.close fold)) outer ts
  | fuel + 1, cls, outer, .plain '&' :: .plain '&' :: ts =>
    readClass fold fuel (cls.operator fold .inter) outer ts
  | fuel + 1, cls, outer, .plain '-' :: .plain '-' :: ts =>
    readClass fold fuel (cls.operator fold .diff) outer ts
  | fuel + 1, cls, outer, .plain '~' :: .plain '~' :: ts =>
    readClass fold fuel (cls.operator fold .symmDiff) outer ts
  | fuel + 1, cls, outer, t :: .plain '-' :: u :: ts =>
    match u with
    | .plain ']' | .plain '-' =>
      readClass fold fuel (cls.add t.toSet) outer (.plain '-' :: u :: ts)
    | _ =>
      match t.char?, u.char? with
      | some first, some last =>
        if first ≤ last then readClass fold fuel (cls.add (.range first last)) outer ts
        else .error .badClass
      | _, _ => .error .badClass
  | fuel + 1, cls, outer, t :: ts => readClass fold fuel (cls.add t.toSet) outer ts

/-- The set that a class denotes, given its text without the outer brackets. -/
def classSet (fold : Bool) (tokens : List ClassToken) : Except Fault CharSet := do
  let (cls, rest) := openClass (tokens ++ [.plain ']'])
  let (set, rest) ← readClass fold (tokens.length + 2) cls [] rest
  if rest.isEmpty then return set else throw .badClass

end Listfile.Regex
