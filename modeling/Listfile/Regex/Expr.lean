import Listfile.Regex.CharSet

/-!
# Regular expressions

The syntax tree of a pattern. A sequence is a chain of `seq` ended by `empty`, and a choice is a chain of
`either` ended by `never`, so that a group without captures keeps its own chain when it stands inside
another one.

* `Expr`: the tree.
* `Expr.size`: how many characters an expression takes.
* `Expr.isHard`: whether an expression needs a search with backtracking, given the groups that the
  pattern refers back to.
-/

namespace Listfile.Regex

/-- A condition on the place between two characters. -/
inductive Assertion
  | textStart
  | textEnd
  | lineStart
  | lineEnd
  | wordBoundary
  | notWordBoundary
  | wordStart
  | wordEnd
  /-- No word character stands before the place. -/
  | wordStartHalf
  /-- No word character stands behind the place. -/
  | wordEndHalf
deriving DecidableEq, Inhabited

namespace Assertion

/-- Assertions about words are left to the search with backtracking. -/
def isHard : Assertion → Bool
  | textStart | textEnd | lineStart | lineEnd => false
  | _ => true

end Assertion

/-- The side of a place that a look around inspects. -/
inductive Side
  | ahead
  | behind
deriving DecidableEq, Inhabited

/-- How many characters an expression takes. -/
structure Size where
  /-- The least number of them. -/
  least : Nat
  /-- Does it always take that number? -/
  fixed : Bool
deriving DecidableEq, Inhabited

namespace Size

/-- The size of what takes nothing. -/
def zero : Size := ⟨0, true⟩

/-- The size of what may take any number of characters. -/
def unknown : Size := ⟨0, false⟩

/-- One size after another. -/
def add (a b : Size) : Size := ⟨a.least + b.least, a.fixed && b.fixed⟩

/-- One size or another. -/
def either (a b : Size) : Size :=
  ⟨min a.least b.least, a.fixed && b.fixed && a.least == b.least⟩

/-- A size a number of times. -/
def times (a : Size) (least : Nat) (most : Option Nat) : Size :=
  ⟨a.least * least, a.fixed && most == some least⟩

end Size

/-- A regular expression. -/
inductive Expr
  | empty
  /-- No text matches. -/
  | never
  /-- One character of a set. -/
  | chars (set : CharSet)
  | assertion (a : Assertion)
  /-- One link of a sequence. -/
  | seq (first rest : Expr)
  /-- One link of a choice, of which the first branch is preferred. -/
  | either (first rest : Expr)
  | group (index : Nat) (body : Expr)
  | repeated (body : Expr) (least : Nat) (most : Option Nat) (greedy : Bool)
  | look (side : Side) (negative : Bool) (body : Expr)
  /-- Only the preferred way of matching the body counts. -/
  | atomic (body : Expr)
  /-- The text of a group once more; `size` is what the group takes, as far as that is known. -/
  | sameAs (group : Nat) (fold : Bool) (size : Size)
  /-- The match is reported from here on. -/
  | keepOut
  /-- The place where the search began. -/
  | searchStart
  /-- The group took part in the match. -/
  | groupSet (group : Nat)
  | conditional (test yes no : Expr)
deriving Inhabited

namespace Expr

/-- A sequence of parts: nothing, a single part, or a chain. -/
def ofParts : List Expr → Expr
  | [] => empty
  | [e] => e
  | es => es.foldr seq empty

/-- A choice between branches in order of preference: nothing, a single branch, or a chain. -/
def ofBranches : List Expr → Expr
  | [] => empty
  | [e] => e
  | es => es.foldr either never

/-- The parts of a sequence. -/
def parts : Expr → List Expr
  | seq first rest => first :: parts rest
  | _ => []

/-- Is this the empty expression? -/
def isEmpty : Expr → Bool
  | empty => true
  | _ => false

/-- Quantifiers do not apply to what only looks at the place, assertions apart. -/
def isRepeatable : Expr → Bool
  | empty | look .. | keepOut | searchStart | groupSet _ => false
  | _ => true

/-- How many characters the expression takes. -/
def size : Expr → Size
  | chars _ => ⟨1, true⟩
  | seq a b => a.size.add b.size
  | either a never => a.size
  | either a b => a.size.either b.size
  | group _ body | atomic body => body.size
  | repeated body least most _ => body.size.times least most
  | sameAs _ _ size => size
  | conditional test yes no =>
    ⟨test.size.least + min yes.size.least no.size.least,
      ((test.size.add yes.size).either no.size).fixed⟩
  | _ => .zero

/-- Does the expression match the empty text only? -/
def takesNothing : Expr → Bool
  | chars _ => false
  | seq a b => a.takesNothing && b.takesNothing
  | either a never => a.takesNothing
  | either a b => a.takesNothing && b.takesNothing
  | group _ body => body.takesNothing
  | repeated body _ most _ => body.takesNothing || most == some 0
  | _ => true

/-- Does the expression need backtracking? A group that is referred to does, since its text decides
what matches later. -/
def isHard (refs : List Nat) : Expr → Bool
  | empty | never | chars _ => false
  | assertion a => a.isHard
  | seq a b | either a b => a.isHard refs || b.isHard refs
  | group i body => refs.contains i || body.isHard refs
  | repeated body _ _ _ => body.isHard refs
  | look .. | atomic _ | sameAs .. | keepOut | searchStart | groupSet _ | conditional .. => true

/-- Is the expression a text, of which each character stands for itself? -/
def isLiteral : Expr → Bool
  | chars (.single _) => true
  | seq a empty => a.isLiteral
  | seq a b => a.isLiteral && b.isLiteral
  | _ => false

/-- The groups that the expression refers back to. -/
def references : Expr → List Nat
  | sameAs i _ _ | groupSet i => [i]
  | seq a b | either a b => a.references ++ b.references
  | group _ body | repeated body _ _ _ | look _ _ body | atomic body => body.references
  | conditional test yes no => test.references ++ yes.references ++ no.references
  | _ => []

/-- The groups that the expression contains, in the order of their opening parentheses. -/
def groups : Expr → List Nat
  | group i body => i :: body.groups
  | seq a b | either a b => a.groups ++ b.groups
  | repeated body _ _ _ | look _ _ body | atomic body => body.groups
  | conditional test yes no => test.groups ++ yes.groups ++ no.groups
  | _ => []

/-- The largest bound of a repetition in a plain expression. -/
def maxBound : Nat := 4294967295

/-- The bounds of all repetitions are small enough, and none asks for more than it allows. -/
def boundsAgree : Expr → Bool
  | seq a b | either a b => a.boundsAgree && b.boundsAgree
  | group _ body | look _ _ body | atomic body => body.boundsAgree
  | repeated body least most _ =>
    body.boundsAgree && least ≤ maxBound && most.all fun n => least ≤ n && n ≤ maxBound
  | conditional test yes no => test.boundsAgree && yes.boundsAgree && no.boundsAgree
  | _ => true

end Expr

end Listfile.Regex
