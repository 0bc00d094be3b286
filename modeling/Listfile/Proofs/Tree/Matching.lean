import Listfile.Proofs.Tree.Failing
import Mathlib.Computability.Language

/-!
# Arguments without quotes as a regular language

Arguments without quotes are cut off by hand.  What may be such an argument can be said by regular
expressions, and what is cut off is the longest match, whether the argument begins with a square bracket or not.

* `continuations`, `beginnings`, `unquotedArguments`: the regular expressions.
* `IsLongest`: the longest match at the front of a text.
* `isLongest_splitUnquoted`: what is cut off is the longest match.
* `CutsOff.split_lexemesFrom`: the lexemes of a text are those of what was cut off and those of the rest.
* **`cutsOff_square`**: behind a square bracket that opens no bracket, an argument ends where it would end
  behind any other character.
-/

namespace Listfile.Tree

open scoped Computability

/-! ### Regular expressions -/

/-- A single character that is neither blank nor one of the marks. -/
def otherThan (marks : List Char) : Language Char := {w | ∃ c, w = [c] ∧ isBlank c = false ∧ c ∉ marks}

/-- A backslash and a character that does not end the line. -/
def escapes : Language Char := {w | ∃ c, w = ['\\', c] ∧ c ∉ ['\r', '\n']}

/-- What an argument without quotes may go on with: `(?:[^\s()#"\\]|\\[^\r\n])*`. -/
def continuations : Language Char := (otherThan ['(', ')', '#', '"', '\\'] + escapes)∗

/-- What an argument without quotes may begin with: `[^\s()#"\\\[]|\\[^\r\n]`. -/
def beginnings : Language Char := otherThan ['(', ')', '#', '"', '\\', '['] + escapes

/-- The arguments without quotes that do not begin with a square bracket. -/
def unquotedArguments : Language Char := beginnings * continuations

/-- The longest word of the language with which the text begins. -/
structure IsLongest (l : Language Char) (s w : List Char) : Prop where
  mem : w ∈ l
  front : w <+: s
  longest : ∀ v ∈ l, v <+: s → v <+: w

theorem endsUnquoted_eq_false_iff {c : Char} :
    endsUnquoted c = false ↔ isBlank c = false ∧ c ∉ ['(', ')', '#', '"'] := by
  simp [endsUnquoted, and_assoc]

/-- The characters of arguments without quotes, as an expression and as they are cut off. -/
theorem mem_continuations_iff {w : List Char} : w ∈ continuations ↔ Bare w := by
  constructor
  · intro h
    obtain ⟨parts, rfl, hparts⟩ := Language.mem_kstar.1 h
    clear h
    induction parts with
    | nil => exact .nil
    | cons part parts ih =>
      obtain ⟨hpart, hrest⟩ := List.forall_mem_cons.1 hparts
      rw [List.flatten_cons]
      rcases hpart with ⟨c, rfl, hblank, hmarks⟩ | ⟨c, rfl, hline⟩
      · simp only [List.mem_cons, List.not_mem_nil, or_false, not_or] at hmarks
        refine .plain hmarks.2.2.2.2 (endsUnquoted_eq_false_iff.2 ⟨hblank, ?_⟩) (ih hrest)
        simp [hmarks]
      · simp only [List.mem_cons, List.not_mem_nil, or_false, not_or] at hline
        exact .escaped hline.2 hline.1 (ih hrest)
  · intro h
    have hgo : (otherThan ['(', ')', '#', '"', '\\'] + escapes) * continuations ≤ continuations :=
      mul_kstar_le_kstar
    induction h with
    | nil => exact Language.nil_mem_kstar _
    | @plain c cs hb he _ ih =>
      obtain ⟨hblank, hmarks⟩ := endsUnquoted_eq_false_iff.1 he
      have hword : [c] ∈ otherThan ['(', ')', '#', '"', '\\'] :=
        ⟨c, rfl, hblank, by simpa [hb] using hmarks⟩
      exact hgo (Language.append_mem_mul (a := [c]) (Or.inl hword) ih)
    | @escaped c cs hn hr _ ih =>
      have hword : ['\\', c] ∈ escapes := ⟨c, rfl, by simp [hn, hr]⟩
      exact hgo (Language.append_mem_mul (a := ['\\', c]) (Or.inr hword) ih)

theorem bare_of_mem_beginnings {u : List Char} (h : u ∈ beginnings) :
    Bare u ∧ ∃ c us, u = c :: us ∧ c ≠ '[' ∧ endsUnquoted c = false := by
  rcases h with ⟨c, rfl, hblank, hmarks⟩ | ⟨c, rfl, hline⟩
  · simp only [List.mem_cons, List.not_mem_nil, or_false, not_or] at hmarks
    have he : endsUnquoted c = false := endsUnquoted_eq_false_iff.2 ⟨hblank, by simp [hmarks]⟩
    exact ⟨.plain hmarks.2.2.2.2.1 he .nil, c, [], rfl, hmarks.2.2.2.2.2, he⟩
  · simp only [List.mem_cons, List.not_mem_nil, or_false, not_or] at hline
    exact ⟨.escaped hline.2 hline.1 .nil, '\\', [c], rfl, by decide, by decide⟩

theorem Bare.append {u v : List Char} (hu : Bare u) (hv : Bare v) : Bare (u ++ v) := by
  induction hu with
  | nil => exact hv
  | plain hb he _ ih => exact .plain hb he ih
  | escaped hn hr _ ih => exact .escaped hn hr ih

/-! ### The longest match -/

/-- What may be cut off first does not change what is cut off behind it. -/
theorem splitUnquoted_append_of_bare {u : List Char} (h : Bare u) (s : List Char) :
    splitUnquoted (u ++ s) = addFront u (splitUnquoted s) := by
  induction h with
  | nil => rfl
  | @plain c cs hb he _ ih =>
    rw [List.cons_append, splitUnquoted_cons hb, if_neg (by simp [he]), ih]
    rfl
  | @escaped c cs hn hr _ ih =>
    show splitUnquoted ('\\' :: c :: (cs ++ s)) = _
    rw [splitUnquoted, if_pos rfl]
    show (if c = '\n' ∨ c = '\r' then _ else addFront ['\\', c] (splitUnquoted (cs ++ s))) = _
    rw [if_neg (not_or.2 ⟨hn, hr⟩), ih]
    rfl

/-- **What is cut off is the longest match.** -/
theorem isLongest_splitUnquoted (s : List Char) : IsLongest continuations s (splitUnquoted s).1 where
  mem := mem_continuations_iff.2 (bare_splitUnquoted s)
  front := ⟨_, splitUnquoted_append s⟩
  longest := by
    rintro v hv ⟨behind, rfl⟩
    rw [splitUnquoted_append_of_bare (mem_continuations_iff.1 hv)]
    exact List.prefix_append _ _

/-- The longest match goes on behind the beginning of an argument as it does anywhere else. -/
theorem isLongest_append {u s w : List Char} (hu : u ∈ beginnings) (h : IsLongest continuations s w) :
    IsLongest unquotedArguments (u ++ s) (u ++ w) where
  mem := Language.append_mem_mul hu h.mem
  front := (List.prefix_append_right_inj u).2 h.front
  longest := by
    rintro v hv ⟨behind, hbehind⟩
    obtain ⟨begun, hbegun, more, hmore, rfl⟩ := Language.mem_mul.1 hv
    have hbare := (bare_of_mem_beginnings hbegun).1.append (mem_continuations_iff.1 hmore)
    -- all of it is what an argument may go on with, and of that nothing more is cut off
    have hall := (isLongest_splitUnquoted (u ++ s)).longest _ (mem_continuations_iff.2 hbare) ⟨behind, hbehind⟩
    rw [splitUnquoted_append_of_bare (bare_of_mem_beginnings hu).1] at hall
    exact hall.trans ((List.prefix_append_right_inj u).2
      (h.longest _ (isLongest_splitUnquoted s).mem (isLongest_splitUnquoted s).front))

/-! ### Words -/

/-- The word that is cut off is the only one. -/
theorem cutsOff_singleton_iff {c : Char} {cs rest : List Char} {w : Word} :
    CutsOff (c :: cs) [w] rest ↔ ∃ more, w.text = c :: more ∧ scan c cs = .found w.kind more rest := by
  constructor
  · rintro (_ | ⟨h, ⟨⟩⟩)
    exact ⟨_, rfl, h⟩
  · obtain ⟨k, text⟩ := w
    rintro ⟨more, htext, h⟩
    obtain rfl : text = c :: more := htext
    exact .next h (.done _)

theorem cutsOff_append_iff {s mid rest : List Char} {ws vs : List Word} (h : CutsOff s ws mid) :
    CutsOff s (ws ++ vs) rest ↔ CutsOff mid vs rest := by
  induction h with
  | done s => exact Iff.rfl
  | @next c cs more s mid k ws h _ ih =>
    rw [← ih, List.cons_append]
    constructor
    · rintro (_ | ⟨h', hs⟩)
      rw [h] at h'
      cases h'
      exact hs
    · exact .next h

/-- The lexemes of a text are those of what was cut off, and those of the rest. -/
theorem CutsOff.split_lexemesFrom {s rest : List Char} {ws : List Word} {start : Nat} {ls : List Lexeme}
    (h : CutsOff s ws rest) (hls : Tree.lexemesFrom start s = .ok ls) :
    ∃ us vs, ls = us ++ vs ∧ us.map Lexeme.word = ws ∧
      Tree.lexemesFrom (start + byteLength (textOf ws)) rest = .ok vs := by
  induction h generalizing start ls with
  | done s => exact ⟨[], ls, rfl, rfl, hls⟩
  | @next c cs more s rest k ws h _ ih =>
    obtain ⟨k', more', s', ls', h', hls', rfl⟩ := lexemesFrom_cons hls
    rw [h] at h'
    cases h'
    obtain ⟨us, vs, rfl, hus, hvs⟩ := ih hls'
    refine ⟨⟨k, ⟨start, c :: more⟩⟩ :: us, vs, rfl, by rw [List.map_cons, hus]; rfl, ?_⟩
    rw [textOf_cons, byteLength_append, ← Nat.add_assoc]
    exact hvs

theorem bracketLevel?_eq_none_iff {cs : List Char} :
    bracketLevel? cs = none ↔ ∀ level behind, cs ≠ signsAnd level '[' ++ behind := by
  constructor
  · rintro h level behind rfl
    rw [bracketLevel?_signsAnd] at h
    cases h
  · intro h
    cases hl : bracketLevel? cs with
    | none => rfl
    | some level => exact absurd (bracketLevel?_append hl) (h level _)

theorem cutsOff_of_mem_beginnings {u : List Char} (hu : u ∈ beginnings) (cs : List Char) :
    CutsOff (u ++ cs) [⟨.unquoted, u ++ (splitUnquoted cs).1⟩] (splitUnquoted cs).2 := by
  obtain ⟨hbare, c, us, rfl, hc, he⟩ := bare_of_mem_beginnings hu
  refine cutsOff_singleton_iff.2 ⟨us ++ (splitUnquoted cs).1, rfl, ?_⟩
  show scan c (us ++ cs) = _
  rw [scan_of_not_endsUnquoted he hc, scanUnquoted, ← List.cons_append, splitUnquoted_append_of_bare hbare]
  rfl

/-! ### Arguments that begin with a square bracket -/

/-- **An argument that begins with a square bracket ends where any argument without quotes ends.**  Where a word
begins with a square bracket that does not open a bracket, it is an argument without quotes: the bracket and the
longest match of what such an argument may go on with.  Behind whatever else an argument without quotes may
begin with, the same text is cut off, which is the longest match of all such arguments. -/
theorem cutsOff_square {source cs : List Char} {ws : List Word} (h : CutsOff source ws ('[' :: cs))
    (hno : ∀ level behind, cs ≠ signsAnd level '[' ++ behind) :
    ∃ more rest, cs = more ++ rest ∧ IsLongest continuations cs more ∧
      (∀ w rest', CutsOff source (ws ++ [w]) rest' ↔ w = ⟨.squareUnquoted, '[' :: more⟩ ∧ rest' = rest) ∧
      (∀ ls, lexemes source = .ok ls →
        ls[ws.length]? = some ⟨.squareUnquoted, ⟨byteLength (textOf ws), '[' :: more⟩⟩) ∧
      ∀ u ∈ beginnings, IsLongest unquotedArguments (u ++ cs) (u ++ more) ∧
        CutsOff (u ++ cs) [⟨.unquoted, u ++ more⟩] rest := by
  have hscan : scan '[' cs = .found .squareUnquoted (splitUnquoted cs).1 (splitUnquoted cs).2 := by
    show scanSquare cs = _
    rw [scanSquare, bracketLevel?_eq_none_iff.2 hno]
  refine ⟨(splitUnquoted cs).1, (splitUnquoted cs).2, (splitUnquoted_append cs).symm,
    isLongest_splitUnquoted cs, ?_, ?_, ?_⟩
  · intro w rest'
    rw [cutsOff_append_iff h, cutsOff_singleton_iff, hscan]
    constructor
    · rintro ⟨more, htext, hfound⟩
      obtain ⟨k, text⟩ := w
      cases hfound
      exact ⟨congrArg _ htext, rfl⟩
    · rintro ⟨rfl, rfl⟩
      exact ⟨_, rfl, rfl⟩
  · intro ls hls
    obtain ⟨us, vs, rfl, hus, hvs⟩ := h.split_lexemesFrom hls
    obtain ⟨k, more, rest, vs', hscan', -, rfl⟩ := lexemesFrom_cons hvs
    rw [hscan] at hscan'
    cases hscan'
    rw [← hus, List.length_map, Nat.zero_add]
    simp
  · exact fun u hu => ⟨isLongest_append hu (isLongest_splitUnquoted cs), cutsOff_of_mem_beginnings hu cs⟩

/-- An equals sign and an escaped parenthesis belong to the argument.  A backslash before the end of the line does
not, and nothing else can be cut off there. -/
theorem cutsOff_square_lineEnd :
    let cs := "=a\\)é\\\n[".toList
    let ws : List Word := [⟨.unquoted, ['x']⟩, ⟨.openParen, ['(']⟩]
    CutsOff ('x' :: '(' :: '[' :: cs) ws ('[' :: cs) ∧ (∀ level behind, cs ≠ signsAnd level '[' ++ behind) ∧
      IsLongest continuations cs "=a\\)é".toList ∧
      CutsOff ('x' :: '(' :: '[' :: cs) (ws ++ [⟨.squareUnquoted, '[' :: "=a\\)é".toList⟩]) "\\\n[".toList ∧
      ∀ u ∈ beginnings, CutsOff (u ++ cs) [⟨.unquoted, u ++ "=a\\)é".toList⟩] "\\\n[".toList := by
  intro cs ws
  have hname : scan 'x' ('(' :: '[' :: cs) = .found .unquoted [] ('(' :: '[' :: cs) := by decide +kernel
  have hparen : scan '(' ('[' :: cs) = .found .openParen [] ('[' :: cs) := rfl
  have hsquare : scan '[' cs = .found .squareUnquoted "=a\\)é".toList "\\\n[".toList := by decide +kernel
  have hws : CutsOff ('x' :: '(' :: '[' :: cs) ws ('[' :: cs) := .next hname (.next hparen (.done _))
  have hcut : CutsOff ('x' :: '(' :: '[' :: cs) (ws ++ [⟨.squareUnquoted, '[' :: "=a\\)é".toList⟩])
      "\\\n[".toList := .next hname (.next hparen (.next hsquare (.done _)))
  have hno : ∀ level behind, cs ≠ signsAnd level '[' ++ behind :=
    bracketLevel?_eq_none_iff.1 (by decide +kernel)
  obtain ⟨more, rest, -, hlongest, hword, -, hbehind⟩ := cutsOff_square hws hno
  obtain ⟨hmore, rfl⟩ := (hword _ _).1 hcut
  obtain rfl : "=a\\)é".toList = more := (List.cons.inj (congrArg Word.text hmore)).2
  exact ⟨hws, hno, hlongest, hcut, fun u hu => (hbehind u hu).2⟩

end Listfile.Tree
