/-!
# Quoting text in patterns

* `isMeta`: the characters that mean something else than themselves in a pattern.
* `quote`: the pattern that stands for a text literally.
-/

namespace Listfile.Regex

/-- Does the character mean something else than itself in a pattern or a class? -/
def isMeta (c : Char) : Bool :=
  ['\\', '.', '+', '*', '?', '(', ')', '|', '[', ']', '\x7B', '\x7D', '^', '$', '#', '&', '-',
    '~'].contains c

/-- The pattern that stands for a text: a backslash goes before every character that would mean
something else. -/
def quote : List Char → List Char
  | [] => []
  | c :: cs => if isMeta c then '\\' :: c :: quote cs else c :: quote cs

@[simp] theorem quote_nil : quote [] = [] := rfl

theorem quote_cons (c : Char) (cs : List Char) :
    quote (c :: cs) = (if isMeta c then ['\\', c] else [c]) ++ quote cs := by
  by_cases h : isMeta c <;> simp [quote, h]

theorem quote_append (s t : List Char) : quote (s ++ t) = quote s ++ quote t := by
  induction s with
  | nil => rfl
  | cons c cs ih => simp [quote_cons, ih]

end Listfile.Regex
