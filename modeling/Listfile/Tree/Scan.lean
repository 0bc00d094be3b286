import Listfile.Text.Blank
import Listfile.Text.Find
import Listfile.Text.Lines
import Listfile.Tree.Fault
import Listfile.Tree.Lexeme

/-!
# Cutting list files into lexemes

A list file is cut into lexemes from left to right, each as long as possible.

* `scan`: the lexeme at the front of a text.
* `scan_append`: a lexeme and what follows it make up the text.
* `lexemes`: all lexemes of a text.
-/

namespace Listfile.Tree

/-! ### The lexeme at the front of a text -/

/-- The characters of blanks within a line. -/
def isLineBlank (c : Char) : Bool := c == ' ' || c == '\t'

/-- The characters that end an argument without quotes: blanks, parentheses, the number sign and
quotation marks. -/
def endsUnquoted (c : Char) : Bool := isBlank c || c == '(' || c == ')' || c == '#' || c == '"'

/-- Add characters to the front of the first of two texts. -/
def addFront (front : List Char) (p : List Char × List Char) : List Char × List Char :=
  (front ++ p.1, p.2)

/-- Cut off an argument without quotes. A backslash takes the next character with it, unless that ends
the line. -/
def splitUnquoted : List Char → List Char × List Char
  | [] => ([], [])
  | c :: cs =>
    if c = '\\' then
      match cs with
      | d :: ds =>
        if d = '\n' ∨ d = '\r' then ([], c :: cs)
        else addFront [c, d] (splitUnquoted ds)
      | [] => ([], c :: cs)
    else if endsUnquoted c then ([], c :: cs)
    else addFront [c] (splitUnquoted cs)

/-- Cut a text behind the next quotation mark. A backslash hides the character after it. -/
def splitQuoted : List Char → Option (List Char × List Char)
  | '"' :: cs => some (['"'], cs)
  | '\\' :: c :: cs => (splitQuoted cs).map (addFront ['\\', c])
  | c :: cs => (splitQuoted cs).map (addFront [c])
  | [] => none

/-- The level of a bracket, given the text behind its first square bracket: the number of equals signs
before the second. -/
def bracketLevel? (cs : List Char) : Option Nat :=
  match cs.dropWhile (· == '=') with
  | '[' :: _ => some (cs.takeWhile (· == '=')).length
  | _ => none

/-- The equals signs of a bracket and a square bracket behind them. -/
def signsAnd (level : Nat) (mark : Char) : List Char := List.replicate level '=' ++ [mark]

/-- What closes a bracket. -/
def bracketCloser (level : Nat) : List Char := ']' :: signsAnd level ']'

/-- Cut a text behind the end of a bracket, given the text behind the first square bracket. -/
def splitBracket (level : Nat) (cs : List Char) : Option (List Char × List Char) :=
  (splitOnce? (bracketCloser level) (cs.drop (level + 1))).map fun p =>
    (signsAnd level '[' ++ p.1 ++ bracketCloser level, p.2)

/-- The rest of a line, without a carriage return at its end. -/
def restOfLine (cs : List Char) : List Char :=
  dropLastIf '\r' (cs.takeWhile (· != '\n'))

/-- Cut off the rest of a line. -/
def splitLine (cs : List Char) : List Char × List Char :=
  (restOfLine cs, cs.drop (restOfLine cs).length)

/-- What stands at the front of a text. -/
inductive Scan
  /-- A lexeme: its first character is followed by `more`, and the lexeme by `rest`. -/
  | found (kind : Kind) (more rest : List Char)
  | fault (cause : Cause)
deriving DecidableEq

/-- The scan for a bracket behind `opening`, given the text behind its first square bracket. -/
def scanBracket (kind : Kind) (opening : List Char) (level : Nat) (cs : List Char) : Scan :=
  match splitBracket level cs with
  | some (text, rest) => .found kind (opening ++ text) rest
  | none => .fault (.unterminatedBracket (bracketCloser level))

/-- The scan for a comment, given the text behind the number sign. -/
def scanComment (cs : List Char) : Scan :=
  match cs with
  | '[' :: ds =>
    match bracketLevel? ds with
    | some level => scanBracket .bracketComment ['['] level ds
    | none => .found .lineComment (splitLine cs).1 (splitLine cs).2
  | _ => .found .lineComment (splitLine cs).1 (splitLine cs).2

/-- The scan for an argument between quotation marks, given the text behind the first. -/
def scanQuoted (cs : List Char) : Scan :=
  match splitQuoted cs with
  | some (text, rest) => .found .quoted text rest
  | none => .fault .unterminatedQuote

/-- The scan for an argument that begins with a square bracket, given the text behind it. -/
def scanSquare (cs : List Char) : Scan :=
  match bracketLevel? cs with
  | some level => scanBracket .bracket [] level cs
  | none => .found .squareUnquoted (splitUnquoted cs).1 (splitUnquoted cs).2

/-- The scan for an argument without quotes that begins with `c`. -/
def scanUnquoted (c : Char) (cs : List Char) : Scan :=
  match splitUnquoted (c :: cs) with
  | (_ :: more, rest) => .found .unquoted more rest
  | ([], _) => .fault (.unexpectedCharacter c)

/-- The lexeme at the front of a text that begins with `c` and goes on with `cs`. -/
def scan (c : Char) (cs : List Char) : Scan :=
  if isLineBlank c then .found .space (cs.takeWhile isLineBlank) (cs.dropWhile isLineBlank)
  else if c = '\n' then .found .newline [] cs
  else if c = '\r' ∧ cs.head? = some '\n' then .found .newline ['\n'] cs.tail
  else if c = '(' then .found .openParen [] cs
  else if c = ')' then .found .closeParen [] cs
  else if c = '#' then scanComment cs
  else if c = '"' then scanQuoted cs
  else if c = '[' then scanSquare cs
  else scanUnquoted c cs

/-! ### Nothing is lost -/

theorem splitUnquoted_append (s : List Char) : (splitUnquoted s).1 ++ (splitUnquoted s).2 = s := by
  fun_induction splitUnquoted s with
  | case1 => rfl
  | case2 => simp
  | case3 d ds h ih => simpa [addFront] using ih
  | case4 => simp
  | case5 => simp
  | case6 c cs h₁ h₂ ih => simpa [addFront] using ih

theorem splitQuoted_append {s text rest : List Char} (h : splitQuoted s = some (text, rest)) :
    s = text ++ rest := by
  fun_induction splitQuoted s generalizing text rest with
  | case1 cs => simp at h; simp [← h.1, h.2]
  | case2 c cs ih =>
    simp only [Option.map_eq_some_iff, addFront, Prod.mk.injEq, Prod.exists] at h
    obtain ⟨a, b, hab, rfl, rfl⟩ := h
    simp [ih hab]
  | case3 c cs _ _ ih =>
    simp only [Option.map_eq_some_iff, addFront, Prod.mk.injEq, Prod.exists] at h
    obtain ⟨a, b, hab, rfl, rfl⟩ := h
    simp [ih hab]
  | case4 => simp at h

theorem takeWhile_eq_replicate (x : Char) (cs : List Char) :
    cs.takeWhile (· == x) = List.replicate (cs.takeWhile (· == x)).length x := by
  induction cs with
  | nil => rfl
  | cons c cs ih =>
    by_cases h : c = x
    · subst h; simpa [List.replicate_succ] using ih
    · simp [h]

theorem drop_length_takeWhile (p : Char → Bool) (cs : List Char) :
    cs.drop (cs.takeWhile p).length = cs.dropWhile p := by
  induction cs with
  | nil => rfl
  | cons c cs ih => by_cases h : p c <;> simp [h, ih]

theorem bracketLevel?_append {cs : List Char} {level : Nat} (h : bracketLevel? cs = some level) :
    cs = signsAnd level '[' ++ cs.drop (level + 1) := by
  unfold bracketLevel? at h
  split at h
  · rename_i ds hd
    simp only [Option.some.injEq] at h
    subst h
    have hc := List.takeWhile_append_dropWhile (p := (· == '=')) (l := cs)
    rw [signsAnd, ← takeWhile_eq_replicate, ← List.drop_drop, drop_length_takeWhile, hd]
    simpa [hd] using hc.symm
  · simp at h

theorem splitBracket_append {level : Nat} {cs text rest : List Char}
    (hl : bracketLevel? cs = some level) (h : splitBracket level cs = some (text, rest)) :
    cs = text ++ rest := by
  simp only [splitBracket, Option.map_eq_some_iff, Prod.mk.injEq, Prod.exists] at h
  obtain ⟨a, b, hab, rfl, rfl⟩ := h
  rw [bracketLevel?_append hl, splitOnce?_append hab]
  simp

theorem restOfLine_isPrefix (cs : List Char) : restOfLine cs <+: cs := by
  unfold restOfLine dropLastIf
  split
  · exact (List.dropLast_prefix _).trans (List.takeWhile_prefix _)
  · exact List.takeWhile_prefix _

theorem append_drop_of_isPrefix {line cs : List Char} (h : line <+: cs) :
    line ++ cs.drop line.length = cs := by
  obtain ⟨rest, rfl⟩ := h
  simp

theorem splitLine_append (cs : List Char) : (splitLine cs).1 ++ (splitLine cs).2 = cs :=
  append_drop_of_isPrefix (restOfLine_isPrefix cs)

theorem scanBracket_append {kind k : Kind} {opening cs more rest : List Char} {level : Nat}
    (hl : bracketLevel? cs = some level)
    (h : scanBracket kind opening level cs = .found k more rest) :
    opening ++ cs = more ++ rest := by
  unfold scanBracket at h
  split at h
  · rename_i t r hs
    cases h
    rw [splitBracket_append hl hs, List.append_assoc]
  · cases h

theorem scanComment_append {cs more rest : List Char} {kind : Kind}
    (h : scanComment cs = .found kind more rest) : cs = more ++ rest := by
  unfold scanComment at h
  split at h
  · split at h
    · rename_i hl
      exact scanBracket_append hl h
    · cases h
      exact (splitLine_append _).symm
  · cases h
    exact (splitLine_append _).symm

theorem scanQuoted_append {cs more rest : List Char} {kind : Kind}
    (h : scanQuoted cs = .found kind more rest) : cs = more ++ rest := by
  unfold scanQuoted at h
  split at h
  · rename_i hs
    cases h
    exact splitQuoted_append hs
  · cases h

theorem scanSquare_append {cs more rest : List Char} {kind : Kind}
    (h : scanSquare cs = .found kind more rest) : cs = more ++ rest := by
  unfold scanSquare at h
  split at h
  · rename_i hl
    exact scanBracket_append hl h
  · cases h
    exact (splitUnquoted_append _).symm

theorem scanUnquoted_append {c : Char} {cs more rest : List Char} {kind : Kind}
    (h : scanUnquoted c cs = .found kind more rest) : cs = more ++ rest := by
  unfold scanUnquoted at h
  split at h
  · rename_i hs
    cases h
    have := splitUnquoted_append (c :: cs)
    rw [hs] at this
    exact (List.cons.inj this).2.symm
  · cases h

/-- A lexeme and what follows it make up the text that was scanned. -/
theorem scan_append {c : Char} {cs more rest : List Char} {kind : Kind}
    (h : scan c cs = .found kind more rest) : cs = more ++ rest := by
  unfold scan at h
  split at h
  · cases h
    simp
  split at h
  · cases h
    rfl
  split at h
  · rename_i hr
    cases h
    cases cs with
    | nil => simp at hr
    | cons d ds => simp at hr; simp [hr]
  split at h
  · cases h
    rfl
  split at h
  · cases h
    rfl
  split at h
  · exact scanComment_append h
  split at h
  · exact scanQuoted_append h
  split at h
  · exact scanSquare_append h
  · exact scanUnquoted_append h

/-- What follows a lexeme is shorter than the text that was scanned. -/
theorem length_lt_of_scan {c : Char} {cs more rest : List Char} {kind : Kind}
    (h : scan c cs = .found kind more rest) : rest.length < (c :: cs).length := by
  rw [scan_append h, List.length_cons, List.length_append]
  omega

/-! ### All lexemes -/

/-- The lexemes of a text that begins at the offset `start`. -/
def lexemesFrom (start : Nat) : List Char → Except Fault (List Lexeme)
  | [] => .ok []
  | c :: cs =>
    match h : scan c cs with
    | .fault cause => .error ⟨cause, start⟩
    | .found kind more rest =>
      have := length_lt_of_scan h
      (lexemesFrom (start + byteLength (c :: more)) rest).map (⟨kind, ⟨start, c :: more⟩⟩ :: ·)
termination_by s => s.length
decreasing_by assumption

/-- The lexemes of a text. -/
def lexemes (source : List Char) : Except Fault (List Lexeme) := lexemesFrom 0 source

end Listfile.Tree
