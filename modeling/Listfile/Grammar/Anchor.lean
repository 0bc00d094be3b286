import Listfile.Regex.Search

/-!
# Anchored patterns

A rule of a grammar is tried at one place of a line, so its pattern is compiled with an anchor in front
of it, which only matches where the search begins. What a look behind sees is not changed by that.

* `extendedFromStart`: does a pattern begin with a group of flags that allows comments?
* `anchor`: the anchored pattern.
* `compileAnchored`: the anchored pattern, compiled.
-/

namespace Listfile.Grammar

/-- Does a pattern begin with `(?`, flags with `x` among those that are set, and `)`? -/
def extendedFromStart (pattern : List Char) : Bool :=
  match pattern with
  | '(' :: '?' :: rest =>
    let flags := rest.takeWhile (· != ')')
    !flags.contains ':' && (flags.takeWhile (· != '-')).contains 'x'
  | _ => false

/-- The pattern behind an anchor. A comment that may end the pattern is closed by a line feed, since it
would hide the closing parenthesis otherwise. -/
def anchor (pattern : List Char) : List Char :=
  ['\\', 'G', '(', '?', ':'] ++ pattern ++
    (if extendedFromStart pattern then ['\n', ')'] else [')'])

/-- Compile a pattern so that it matches only where the search begins. -/
def compileAnchored (pattern : List Char) : Except Regex.Fault Regex :=
  Regex.compile (anchor pattern)

end Listfile.Grammar
