import Listfile.Regex.Quote
import Listfile.Text.Digits

/-!
# References to the match that opened a context

A pattern may refer to a capture of the match that entered its context by `\1` to `\9`. Such a pattern
is compiled once the captures are known, with their text put in literally.

* `hasBackrefs`: does a pattern refer to a capture?
* `substituteBackrefs`: the pattern with the text of captures in place of references.
-/

namespace Listfile.Grammar

/-- The group that a digit behind a backslash refers to. -/
def referredGroup? (c : Char) : Option Nat :=
  if '1' ≤ c ∧ c ≤ '9' then digitValue? c else none

/-- Does a pattern refer to a capture? A backslash makes a pair with the character behind it. -/
def hasBackrefs : List Char → Bool
  | '\\' :: c :: cs => (referredGroup? c).isSome || hasBackrefs cs
  | _ :: cs => hasBackrefs cs
  | [] => false

/-- The text that group `i` captured, nothing if it took no part in the match. -/
def capturedText (captures : List (Option (List Char))) (i : Nat) : List Char :=
  ((captures[i]?).join).getD []

/-- Put the text of captures, quoted, in place of the references to them. -/
def substituteBackrefs (captures : List (Option (List Char))) : List Char → List Char
  | '\\' :: c :: cs =>
    (match referredGroup? c with
      | some i => Regex.quote (capturedText captures i)
      | none => ['\\', c]) ++ substituteBackrefs captures cs
  | c :: cs => c :: substituteBackrefs captures cs
  | [] => []

end Listfile.Grammar
