import Listfile.Highlight.Basic

/-!
# Looking at highlighted text

* `Highlighted.texts`, `Highlighted.textsWith`: the texts of tokens.
* `Check`: expectations of a highlighted text.
-/

namespace Listfile.Highlight

namespace Token

/-- The name of the most specific scope, empty if there is none. -/
def innermostName (t : Token) : String := (t.innermost?.map Scope.name).getD ""

end Token

namespace Highlighted

/-- The texts of all tokens. -/
def texts (h : Highlighted) (source : List Char) : List (List Char) := h.tokens.map (·.text source)

/-- The texts of the tokens with a scope that the selector matches. -/
def textsWith (h : Highlighted) (source : List Char) (selector : String) : List (List Char) :=
  (h.tokens.filter (·.hasScope selector)).map (·.text source)

/-- Each token's text and most specific scope. -/
def innermostPairs (h : Highlighted) (source : List Char) : List (List Char × String) :=
  h.tokens.map fun t => (t.text source, t.innermostName)

end Highlighted

/-- An expectation of a token. -/
inductive TokenCheck
  | text (expected : List Char)
  | innermost (expected : String)
  | has (selector : String)
  | lacks (selector : String)
deriving DecidableEq

/-- Is the expectation met? -/
def TokenCheck.holds (source : List Char) (t : Token) : TokenCheck → Bool
  | text expected => t.text source == expected
  | innermost expected => t.innermostName == expected
  | has selector => t.hasScope selector
  | lacks selector => !t.hasScope selector

/-- An expectation of a highlighted text. -/
inductive Check
  | count (expected : Nat)
  | openContexts (expected : List String)
  /-- There is a token of the given index, and it meets the expectation. -/
  | token (index : Nat) (check : TokenCheck)
deriving DecidableEq

/-- Is the expectation met? -/
def Check.holds (source : List Char) (h : Highlighted) : Check → Bool
  | count expected => h.tokens.length == expected
  | openContexts expected => h.openContexts == expected
  | token index check => (h.tokens[index]?).any fun t => check.holds source t

end Listfile.Highlight
