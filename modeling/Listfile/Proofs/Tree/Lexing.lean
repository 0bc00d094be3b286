import Listfile.Proofs.Text.Trimming
import Listfile.Proofs.Tree.Cutting
import Mathlib.Data.List.Chain

/-!
# Cutting text into words and putting it together again

A *word* is a lexeme without its place.  Scanning looks only a little beyond the word it cuts off, so
whether some words can stand behind each other is decided by neighbouring kinds.

* `Word.StandsAlone`: a word that is cut off as a whole when nothing follows it.
* `Kind.mayPrecede`: the kinds whose words may stand directly behind each other.
* **`scan_local`**: what was cut off once is cut off again before any text that does not go on with it.
* **`lexemesFrom_textOf`**: words that stand alone, and may stand behind each other, are the lexemes of
  their text.
* `mayPrecede_of_scan`, `standsAlone_of_scan`: the words of a text are such words.
-/

namespace Listfile.Tree

/-- A lexeme without its place. -/
structure Word where
  kind : Kind
  text : List Char
deriving DecidableEq

/-- The word of a lexeme. -/
def Lexeme.word (l : Lexeme) : Word := ⟨l.kind, l.piece.text⟩

/-- The text of words. -/
def textOf (ws : List Word) : List Char := ws.flatMap Word.text

@[simp] theorem textOf_nil : textOf [] = [] := rfl

@[simp] theorem textOf_cons (w : Word) (ws : List Word) : textOf (w :: ws) = w.text ++ textOf ws := by
  simp [textOf]

@[simp] theorem textOf_append (vs ws : List Word) : textOf (vs ++ ws) = textOf vs ++ textOf ws := by
  simp [textOf]

/-- The word is cut off as a whole when nothing follows it. -/
def Word.StandsAlone (w : Word) : Prop :=
  ∃ c more, w.text = c :: more ∧ scan c more = .found w.kind more []

/-- Does a word of the kind go on an argument without quotes that stands directly before it? -/
def Kind.goesOn : Kind → Bool
  | .unquoted | .squareUnquoted | .bracket => true
  | _ => false

/-- May a word of the second kind stand directly behind one of the first? -/
def Kind.mayPrecede : Kind → Kind → Bool
  | .space, next => next != .space
  | .lineComment, next => next == .newline
  | .unquoted, next | .squareUnquoted, next => !next.goesOn
  | _, _ => true

/-- The text that follows a word of the kind does not go on with it. -/
def Kind.EndsBefore (rest : List Char) : Kind → Prop
  | .space => ∀ c ∈ rest.head?, isLineBlank c = false
  | .lineComment => EndsLine rest
  | .unquoted | .squareUnquoted => (splitUnquoted rest).1 = []
  | _ => True

/-! ### The first character of a word -/

/-- The characters with which words of a kind begin. -/
def Kind.beginsWith (c : Char) : Kind → Prop
  | .space => isLineBlank c = true
  | .newline => c = '\n' ∨ c = '\r'
  | .openParen => c = '('
  | .closeParen => c = ')'
  | .lineComment | .bracketComment => c = '#'
  | .quoted => c = '"'
  | .bracket | .squareUnquoted => c = '['
  | .unquoted => endsUnquoted c = false ∧ c ≠ '['

theorem scanBracket_kind {kind k : Kind} {opening cs more rest : List Char} {level : Nat}
    (h : scanBracket kind opening level cs = .found k more rest) : k = kind := by
  unfold scanBracket at h
  split at h
  · cases h
    rfl
  · cases h

theorem scanComment_kind {cs more rest : List Char} {k : Kind}
    (h : scanComment cs = .found k more rest) : k = .lineComment ∨ k = .bracketComment := by
  unfold scanComment at h
  split at h
  · split at h
    · exact .inr (scanBracket_kind h)
    · cases h
      exact .inl rfl
  · cases h
    exact .inl rfl

theorem scanQuoted_kind {cs more rest : List Char} {k : Kind}
    (h : scanQuoted cs = .found k more rest) : k = .quoted := by
  unfold scanQuoted at h
  split at h
  · cases h
    rfl
  · cases h

theorem scanSquare_kind {cs more rest : List Char} {k : Kind}
    (h : scanSquare cs = .found k more rest) : k = .bracket ∨ k = .squareUnquoted := by
  unfold scanSquare at h
  split at h
  · exact .inl (scanBracket_kind h)
  · cases h
    exact .inr rfl

theorem scanUnquoted_kind {c : Char} {cs more rest : List Char} {k : Kind}
    (h : scanUnquoted c cs = .found k more rest) : k = .unquoted ∧ endsUnquoted c = false := by
  unfold scanUnquoted at h
  split at h
  · rename_i hs
    cases h
    refine ⟨rfl, ?_⟩
    by_cases hb : c = '\\'
    · subst hb
      decide
    · by_contra he
      rw [splitUnquoted_cons hb, if_pos (by simpa using he)] at hs
      cases hs
  · cases h

/-- The kind of a word tells how it begins. -/
theorem beginsWith_of_scan {c : Char} {cs more rest : List Char} {k : Kind}
    (h : scan c cs = .found k more rest) : k.beginsWith c := by
  unfold scan at h
  split at h
  · rename_i hc
    cases h
    exact hc
  split at h
  · rename_i hc
    cases h
    exact .inl hc
  split at h
  · rename_i hc
    cases h
    exact .inr hc.1
  split at h
  · rename_i hc
    cases h
    exact hc
  split at h
  · rename_i hc
    cases h
    exact hc
  split at h
  · rename_i hc
    rcases scanComment_kind h with rfl | rfl <;> exact hc
  split at h
  · rename_i hc
    rw [scanQuoted_kind h]
    exact hc
  split at h
  · rename_i hc
    rcases scanSquare_kind h with rfl | rfl <;> exact hc
  · rename_i hc
    obtain ⟨rfl, he⟩ := scanUnquoted_kind h
    exact ⟨he, hc⟩

theorem endsUnquoted_of_beginsWith {k : Kind} {c : Char} (h : k.beginsWith c) :
    endsUnquoted c = !k.goesOn := by
  cases k with
  | space =>
    have hc : c = ' ' ∨ c = '\t' := by simpa [Kind.beginsWith, isLineBlank] using h
    rcases hc with rfl | rfl <;> decide
  | newline => rcases h with rfl | rfl <;> decide
  | unquoted => simpa [Kind.goesOn] using h.1
  | _ =>
    rw [show c = _ from h]
    decide

/-! ### Scanning again -/

theorem scanBracket_local {kind k : Kind} {opening cs more rest₀ : List Char} {level : Nat}
    (h : scanBracket kind opening level cs = .found k more rest₀) (rest : List Char) :
    ∃ ds, more = opening ++ ds ∧ bracketLevel? ds = some level ∧
      scanBracket kind opening level (ds ++ rest) = .found k more rest := by
  unfold scanBracket at h
  split at h
  · rename_i text r hs
    cases h
    obtain ⟨⟨a, b⟩, hab, hp⟩ := Option.map_eq_some_iff.1 hs
    cases hp
    have hdrop : (signsAnd level '[' ++ a ++ bracketCloser level ++ rest).drop (level + 1)
        = a ++ (bracketCloser level ++ rest) := by
      rw [List.append_assoc, List.append_assoc]
      exact List.drop_left' (by simp [signsAnd])
    refine ⟨_, rfl, ?_, ?_⟩
    · rw [List.append_assoc]
      exact bracketLevel?_signsAnd level _
    · rw [scanBracket, splitBracket, hdrop, splitOnce?_local hab rest]
      rfl
  · cases h

/-- The text begins with no bracket that a number sign would turn into a comment. -/
def OpensNoBracket (cs : List Char) : Prop := ∀ ds, cs = '[' :: ds → bracketLevel? ds = none

theorem OpensNoBracket.append {cs rest : List Char} (h : OpensNoBracket cs) (hr : EndsLine rest) :
    OpensNoBracket (cs ++ rest) := by
  have hhead : ∀ c ∈ rest.head?, c ≠ '=' ∧ c ≠ '[' := by
    rcases hr with rfl | ⟨cs, rfl⟩ | ⟨cs, rfl⟩ <;> simp
  intro ds hds
  cases cs with
  | nil =>
    rw [List.nil_append] at hds
    exact absurd rfl (hhead '[' (by rw [hds]; rfl)).2
  | cons c cs =>
    obtain ⟨rfl, rfl⟩ := List.cons.inj hds
    exact bracketLevel?_eq_none_append (h cs rfl) hhead

theorem OpensNoBracket.of_isPrefix {cs ds : List Char} (h : OpensNoBracket ds) (hp : cs <+: ds) :
    OpensNoBracket cs := by
  obtain ⟨rest, rfl⟩ := hp
  intro es hes
  subst hes
  have hnone := h (es ++ rest) rfl
  cases hl : bracketLevel? es with
  | none => rfl
  | some level =>
    rw [bracketLevel?_append_right hl] at hnone
    cases hnone

theorem scanComment_of_opensNoBracket {cs : List Char} (h : OpensNoBracket cs) :
    scanComment cs = .found .lineComment (splitLine cs).1 (splitLine cs).2 := by
  unfold scanComment
  split
  · rename_i ds
    rw [h ds rfl]
  · rfl

/-- A comment goes to the end of its bracket or to the end of its line. -/
theorem scanComment_cases {cs more rest : List Char} {k : Kind}
    (h : scanComment cs = .found k more rest) :
    (∃ ds level, cs = '[' :: ds ∧ bracketLevel? ds = some level ∧
        scanBracket .bracketComment ['['] level ds = .found k more rest) ∨
      (k = .lineComment ∧ OpensNoBracket cs ∧ more = restOfLine cs ∧
        rest = cs.drop (restOfLine cs).length) := by
  unfold scanComment at h
  split at h
  · rename_i ds
    split at h
    · rename_i level hl
      exact .inl ⟨ds, level, rfl, hl, h⟩
    · rename_i hl
      cases h
      refine .inr ⟨rfl, ?_, rfl, rfl⟩
      intro es hes
      rw [← (List.cons.inj hes).2]
      exact hl
  · rename_i hb
    cases h
    exact .inr ⟨rfl, fun ds hds => absurd hds (hb ds), rfl, rfl⟩

theorem scanComment_local {cs more rest₀ rest : List Char} {k : Kind}
    (h : scanComment cs = .found k more rest₀)
    (hk : k = .lineComment → more.getLast? ≠ some '\r') (hr : k.EndsBefore rest) :
    scanComment (more ++ rest) = .found k more rest := by
  rcases scanComment_cases h with ⟨ds, level, rfl, hl, hs⟩ | ⟨rfl, hno, rfl, -⟩
  · obtain ⟨es, rfl, hes, hs'⟩ := scanBracket_local hs rest
    show scanComment ('[' :: (es ++ rest)) = _
    simp only [scanComment, bracketLevel?_append_right hes rest]
    exact hs'
  · have hno' := (hno.of_isPrefix (restOfLine_isPrefix cs)).append hr
    have hline := restOfLine_append (newline_not_mem_restOfLine cs) (hk rfl) hr
    rw [scanComment_of_opensNoBracket hno', splitLine, hline, List.drop_left]

theorem scanQuoted_local {cs more rest₀ : List Char} {k : Kind}
    (h : scanQuoted cs = .found k more rest₀) (rest : List Char) :
    scanQuoted (more ++ rest) = .found k more rest := by
  unfold scanQuoted at h
  split at h
  · rename_i hs
    cases h
    rw [scanQuoted, splitQuoted_local hs rest]
  · cases h

theorem scanSquare_local {cs more rest₀ rest : List Char} {k : Kind}
    (h : scanSquare cs = .found k more rest₀) (hr : k.EndsBefore rest) :
    scanSquare (more ++ rest) = .found k more rest := by
  unfold scanSquare at h
  split at h
  · rename_i level hl
    obtain ⟨es, rfl, hes, hs'⟩ := scanBracket_local h rest
    rw [scanSquare, bracketLevel?_append_right hes rest]
    exact hs'
  · rename_i hl
    cases h
    have hhead : ∀ c ∈ rest.head?, c ≠ '=' ∧ c ≠ '[' := by
      intro c hc
      obtain ⟨ds, rfl⟩ := List.head?_eq_some_iff.1 hc
      constructor
      · rintro rfl
        exact absurd (endsUnquoted_of_splitUnquoted (by decide) hr) (by decide)
      · rintro rfl
        exact absurd (endsUnquoted_of_splitUnquoted (by decide) hr) (by decide)
    have hnone : bracketLevel? (splitUnquoted cs).1 = none := by
      cases hb : bracketLevel? (splitUnquoted cs).1 with
      | none => rfl
      | some level =>
        have := bracketLevel?_append_right hb (splitUnquoted cs).2
        rw [splitUnquoted_append, hl] at this
        cases this
    rw [scanSquare, bracketLevel?_eq_none_append hnone hhead]
    show Scan.found _ _ _ = _
    rw [splitUnquoted_local (Prod.eta _).symm hr]

theorem scanUnquoted_local {c : Char} {cs more rest₀ rest : List Char} {k : Kind}
    (h : scanUnquoted c cs = .found k more rest₀) (hr : k.EndsBefore rest) :
    scanUnquoted c (more ++ rest) = .found k more rest := by
  unfold scanUnquoted at h
  split at h
  · rename_i d more' rest' hs
    cases h
    have happ := splitUnquoted_append (c :: cs)
    rw [hs] at happ
    obtain rfl : d = c := (List.cons.inj happ).1
    have := splitUnquoted_local hs hr
    rw [List.cons_append] at this
    rw [scanUnquoted, this]
  · cases h

/-- **Scanning is local.**  A word that was cut off once is cut off again before any other text that does
not go on with it.  A carriage return at the end of a comment would belong to the end of its line. -/
theorem scan_local {c : Char} {cs more rest₀ rest : List Char} {k : Kind}
    (h : scan c cs = .found k more rest₀)
    (hk : k = .lineComment → more.getLast? ≠ some '\r') (hr : k.EndsBefore rest) :
    scan c (more ++ rest) = .found k more rest := by
  unfold scan at h ⊢
  by_cases h₁ : isLineBlank c = true
  · rw [if_pos h₁] at h ⊢
    cases h
    have hall : ∀ d ∈ cs.takeWhile isLineBlank, isLineBlank d = true :=
      fun d hd => List.mem_takeWhile_imp hd
    have hrest : rest.takeWhile isLineBlank = [] ∧ rest.dropWhile isLineBlank = rest := by
      cases rest with
      | nil => exact ⟨rfl, rfl⟩
      | cons d rest =>
        have hd : isLineBlank d = false := hr d rfl
        simp [hd]
    rw [List.takeWhile_append_of_pos hall, List.dropWhile_append_of_pos hall, hrest.1, hrest.2,
      List.append_nil]
  rw [if_neg h₁] at h ⊢
  by_cases h₂ : c = '\n'
  · rw [if_pos h₂] at h ⊢
    cases h
    rfl
  rw [if_neg h₂] at h ⊢
  by_cases h₃ : c = '\r'
  · subst h₃
    by_cases h₄ : cs.head? = some '\n'
    · rw [if_pos ⟨rfl, h₄⟩] at h
      cases h
      rfl
    · rw [if_neg (fun hc => h₄ hc.2), if_neg (by decide), if_neg (by decide), if_neg (by decide),
        if_neg (by decide), if_neg (by decide)] at h
      cases (scanUnquoted_kind h).2
  rw [if_neg (fun hc => h₃ hc.1)] at h ⊢
  by_cases h₄ : c = '('
  · rw [if_pos h₄] at h ⊢
    cases h
    rfl
  rw [if_neg h₄] at h ⊢
  by_cases h₅ : c = ')'
  · rw [if_pos h₅] at h ⊢
    cases h
    rfl
  rw [if_neg h₅] at h ⊢
  by_cases h₆ : c = '#'
  · rw [if_pos h₆] at h ⊢
    exact scanComment_local h hk hr
  rw [if_neg h₆] at h ⊢
  by_cases h₇ : c = '"'
  · rw [if_pos h₇] at h ⊢
    exact scanQuoted_local h rest
  rw [if_neg h₇] at h ⊢
  by_cases h₈ : c = '['
  · rw [if_pos h₈] at h ⊢
    exact scanSquare_local h hr
  · rw [if_neg h₈] at h ⊢
    exact scanUnquoted_local h hr

/-! ### Neighbours -/

theorem scan_of_not_endsUnquoted {c : Char} (he : endsUnquoted c = false) (hc : c ≠ '[')
    (cs : List Char) : scan c cs = scanUnquoted c cs := by
  have hne : ∀ d : Char, endsUnquoted d = true → c ≠ d := by
    rintro d hd rfl
    rw [hd] at he
    cases he
  have hb : ¬isLineBlank c = true := by
    intro h
    have hc : c = ' ' ∨ c = '\t' := by simpa [isLineBlank] using h
    rcases hc with hc | hc
    · exact hne ' ' (by decide) hc
    · exact hne '\t' (by decide) hc
  unfold scan
  rw [if_neg hb, if_neg (hne '\n' (by decide)), if_neg (fun h => hne '\r' (by decide) h.1),
    if_neg (hne '(' (by decide)), if_neg (hne ')' (by decide)), if_neg (hne '#' (by decide)),
    if_neg (hne '"' (by decide)), if_neg hc]

/-- What follows an argument without quotes does not go on with it. -/
theorem endsBefore_of_scan_unquoted {c : Char} {cs more rest : List Char} {k : Kind}
    (hk : k = .unquoted ∨ k = .squareUnquoted) (h : scan c cs = .found k more rest) :
    (splitUnquoted rest).1 = [] := by
  have hc := beginsWith_of_scan h
  rcases hk with rfl | rfl
  · rw [scan_of_not_endsUnquoted hc.1 hc.2] at h
    unfold scanUnquoted at h
    split at h
    · rename_i hs
      cases h
      have := splitUnquoted_snd (c :: cs)
      rw [hs] at this
      exact this
    · cases h
  · have hc' : c = '[' := hc
    subst hc'
    have h' : scanSquare cs = .found .squareUnquoted more rest := h
    unfold scanSquare at h'
    split at h'
    · cases scanBracket_kind h'
    · cases h'
      exact splitUnquoted_snd cs

/-- What follows a word that was cut off does not go on with it. -/
theorem mayPrecede_of_scan {c d : Char} {cs more ds more' rest' : List Char} {k k' : Kind}
    (h : scan c cs = .found k more (d :: ds)) (h' : scan d ds = .found k' more' rest') :
    k.mayPrecede k' = true := by
  have hd := beginsWith_of_scan h'
  have hunq : k = .unquoted ∨ k = .squareUnquoted → k'.goesOn = false := by
    intro hk
    have hrest := endsBefore_of_scan_unquoted hk h
    have hgo := endsUnquoted_of_beginsWith hd
    by_cases hb : d = '\\'
    · subst hb
      rw [scan_of_not_endsUnquoted (by decide) (by decide)] at h'
      unfold scanUnquoted at h'
      rw [splitUnquoted_eq_self hrest] at h'
      cases h'
    · rw [endsUnquoted_of_splitUnquoted hb hrest] at hgo
      simpa using hgo.symm
  cases k with
  | space =>
    have hc : isLineBlank c = true := beginsWith_of_scan h
    rw [scan, if_pos hc] at h
    have hdrop : cs.dropWhile isLineBlank = d :: ds := by
      injection h
    have hnot : isLineBlank d = false := by
      have := List.head?_dropWhile_not isLineBlank cs
      rwa [hdrop] at this
    have hne : k' ≠ .space := by
      rintro rfl
      rw [show isLineBlank d = true from hd] at hnot
      cases hnot
    simpa [Kind.mayPrecede] using hne
  | lineComment =>
    have hc : c = '#' := beginsWith_of_scan h
    subst hc
    rcases scanComment_cases h with ⟨es, level, -, -, hs⟩ | ⟨-, -, -, hrest⟩
    · cases scanBracket_kind hs
    · rcases drop_restOfLine cs with (hn | ⟨es, hn⟩ | ⟨es, hn⟩) | hn
      · rw [hn] at hrest
        cases hrest
      · rw [hn] at hrest
        cases hrest
        cases h'
        rfl
      · rw [hn] at hrest
        cases hrest
        cases h'
        rfl
      · rw [hn] at hrest
        cases hrest
        cases h'
  | unquoted => simpa [Kind.mayPrecede] using hunq (.inl rfl)
  | squareUnquoted => simpa [Kind.mayPrecede] using hunq (.inr rfl)
  | _ => rfl

/-! ### Words that make up a text -/

/-- The first word may stand directly before the second. -/
def Word.Precedes (v w : Word) : Prop := v.kind.mayPrecede w.kind = true

/-- The words stand alone, and neighbours may stand behind each other. -/
structure Separate (ws : List Word) : Prop where
  alone : ∀ w ∈ ws, w.StandsAlone
  chain : ws.IsChain Word.Precedes

theorem separate_cons {w : Word} {ws : List Word} :
    Separate (w :: ws) ↔ w.StandsAlone ∧ (∀ v ∈ ws.head?, w.Precedes v) ∧ Separate ws := by
  constructor
  · rintro ⟨ha, hc⟩
    obtain ⟨hw, hc'⟩ := List.isChain_cons.1 hc
    exact ⟨ha w (.head _), hw, ⟨fun v hv => ha v (.tail _ hv), hc'⟩⟩
  · rintro ⟨hw, hp, ha, hc⟩
    exact ⟨List.forall_mem_cons.2 ⟨hw, ha⟩, List.isChain_cons.2 ⟨hp, hc⟩⟩

/-- A word ends before a word that may stand directly behind it. -/
theorem endsBefore_of_precedes {v w : Word} (h : v.Precedes w) (hw : w.StandsAlone)
    (rest : List Char) : v.kind.EndsBefore (w.text ++ rest) := by
  obtain ⟨c, more, htext, hscan⟩ := hw
  have hc := beginsWith_of_scan hscan
  have hunq : w.kind.goesOn = false → (splitUnquoted (c :: (more ++ rest))).1 = [] := by
    intro hgo
    have he : endsUnquoted c = true := by
      rw [endsUnquoted_of_beginsWith hc, hgo]
      rfl
    have hb : c ≠ '\\' := by
      rintro rfl
      exact absurd he (by decide)
    rw [splitUnquoted_cons hb, if_pos he]
  obtain ⟨k, t⟩ := v
  rw [htext]
  cases k with
  | space =>
    intro d hd
    cases hd
    by_contra hblank
    have hblank' : isLineBlank c = true := by simpa using hblank
    rw [scan, if_pos hblank'] at hscan
    have hk : w.kind = .space := by
      injection hscan with hk
      exact hk.symm
    have h' : (w.kind != .space) = true := h
    rw [hk] at h'
    cases h'
  | lineComment =>
    have hk : w.kind = .newline := by simpa [Word.Precedes, Kind.mayPrecede] using h
    rw [hk] at hscan hc
    rcases hc with rfl | rfl
    · cases hscan
      exact .inr (.inl ⟨_, rfl⟩)
    · unfold scan at hscan
      rw [if_neg (by decide), if_neg (by decide)] at hscan
      split at hscan
      · cases hscan
        exact .inr (.inr ⟨_, rfl⟩)
      · rw [if_neg (by decide), if_neg (by decide), if_neg (by decide), if_neg (by decide),
          if_neg (by decide)] at hscan
        cases (scanUnquoted_kind hscan).1
  | unquoted => exact hunq (by simpa [Word.Precedes, Kind.mayPrecede] using h)
  | squareUnquoted => exact hunq (by simpa [Word.Precedes, Kind.mayPrecede] using h)
  | _ => trivial

theorem endsBefore_nil (k : Kind) : k.EndsBefore [] := by
  cases k with
  | space => intro c hc; cases hc
  | lineComment => exact .inl rfl
  | unquoted => rfl
  | squareUnquoted => rfl
  | _ => trivial

theorem endsBefore_textOf {w : Word} {ws : List Word} (h : Separate (w :: ws)) :
    w.kind.EndsBefore (textOf ws) := by
  obtain ⟨-, hp, hws⟩ := separate_cons.1 h
  cases ws with
  | nil => exact endsBefore_nil _
  | cons v vs =>
    rw [textOf_cons]
    exact endsBefore_of_precedes (hp v rfl) (separate_cons.1 hws).1 _

theorem getLast?_ne_of_restOfLine {more : List Char} (h : restOfLine more = more) :
    more.getLast? ≠ some '\r' := by
  intro hl
  have hlen : (restOfLine more).length ≤ (more.takeWhile (· != '\n')).length := by
    unfold restOfLine dropLastIf
    split
    · exact (List.dropLast_prefix _).length_le
    · exact le_rfl
  have htake : more.takeWhile (· != '\n') = more :=
    (List.takeWhile_prefix _).eq_of_length_le (by rw [h] at hlen; exact hlen)
  obtain ⟨line, hline⟩ := List.getLast?_eq_some_iff.1 hl
  rw [restOfLine, htake, hline, dropLastIf_concat] at h
  have := congrArg List.length h
  simp at this

/-- A word that stands alone is cut off before whatever does not go on with it. -/
theorem Word.StandsAlone.scan_append {w : Word} (h : w.StandsAlone) {rest : List Char}
    (hr : w.kind.EndsBefore rest) :
    ∃ c more, w.text = c :: more ∧ scan c (more ++ rest) = .found w.kind more rest := by
  obtain ⟨c, more, htext, hscan⟩ := h
  refine ⟨c, more, htext, scan_local hscan ?_ hr⟩
  intro hk
  rw [hk] at hscan
  have hc : c = '#' := beginsWith_of_scan hscan
  subst hc
  rcases scanComment_cases hscan with ⟨es, level, -, -, hs⟩ | ⟨-, -, hmore, -⟩
  · cases scanBracket_kind hs
  · exact getLast?_ne_of_restOfLine hmore.symm

theorem lexemesFrom_of_scan {c : Char} {cs more rest : List Char} {k : Kind}
    (h : scan c cs = .found k more rest) (start : Nat) :
    lexemesFrom start (c :: cs)
      = (lexemesFrom (start + byteLength (c :: more)) rest).map
          (⟨k, ⟨start, c :: more⟩⟩ :: ·) := by
  rw [lexemesFrom]
  split
  · rename_i hs
    rw [h] at hs
    cases hs
  · rename_i hs
    rw [h] at hs
    cases hs
    rfl

/-- The lexemes of a text that is not empty: the one at its front, and those of the rest. -/
theorem lexemesFrom_cons {start : Nat} {c : Char} {cs : List Char} {ls : List Lexeme}
    (h : lexemesFrom start (c :: cs) = .ok ls) :
    ∃ k more rest ls', scan c cs = .found k more rest ∧
      lexemesFrom (start + byteLength (c :: more)) rest = .ok ls' ∧
      ls = ⟨k, ⟨start, c :: more⟩⟩ :: ls' := by
  cases hscan : scan c cs with
  | fault cause =>
    rw [lexemesFrom] at h
    split at h
    · cases h
    · rename_i hs
      rw [hscan] at hs
      cases hs
  | found k more rest =>
    rw [lexemesFrom_of_scan hscan] at h
    cases hls : lexemesFrom (start + byteLength (c :: more)) rest with
    | error f =>
      rw [hls] at h
      cases h
    | ok ls' =>
      rw [hls] at h
      cases h
      exact ⟨k, more, rest, ls', rfl, hls, rfl⟩

/-- **Separate words are the lexemes of their text.** -/
theorem lexemesFrom_textOf {ws : List Word} (h : Separate ws) (start : Nat) :
    ∃ ls, lexemesFrom start (textOf ws) = .ok ls ∧ ls.map Lexeme.word = ws := by
  induction ws generalizing start with
  | nil => exact ⟨[], by rw [textOf_nil, lexemesFrom], rfl⟩
  | cons w ws ih =>
    obtain ⟨hw, -, hws⟩ := separate_cons.1 h
    obtain ⟨c, more, htext, hscan⟩ := hw.scan_append (endsBefore_textOf h)
    obtain ⟨ls, hls, hmap⟩ := ih hws (start + byteLength (c :: more))
    refine ⟨⟨w.kind, ⟨start, c :: more⟩⟩ :: ls, ?_, ?_⟩
    · rw [textOf_cons, htext, List.cons_append, lexemesFrom_of_scan hscan, hls]
      rfl
    · rw [List.map_cons, hmap]
      show (⟨w.kind, c :: more⟩ : Word) :: ws = w :: ws
      rw [← htext]

/-! ### The words of a text -/

/-- The word without the blanks at its end, if it is a comment to the end of a line. -/
def Word.trimmed (w : Word) : Word :=
  match w.kind with
  | .lineComment => ⟨.lineComment, trimEnd w.text⟩
  | k => ⟨k, w.text⟩

@[simp] theorem Word.kind_trimmed (w : Word) : w.trimmed.kind = w.kind := by
  obtain ⟨k, t⟩ := w
  cases k <;> rfl

theorem Word.trimmed_of_ne {w : Word} (h : w.kind ≠ .lineComment) : w.trimmed = w := by
  obtain ⟨k, t⟩ := w
  cases k with
  | lineComment => exact absurd rfl h
  | _ => rfl

/-- A word that was cut off stands alone.  Of a comment the blanks at its end have to go, since the last of
them may be a carriage return. -/
theorem standsAlone_of_scan {c : Char} {cs more rest : List Char} {k : Kind}
    (h : scan c cs = .found k more rest) : (Word.mk k (c :: more)).trimmed.StandsAlone := by
  by_cases hk : k = .lineComment
  · subst hk
    have hc : c = '#' := beginsWith_of_scan h
    subst hc
    rcases scanComment_cases h with ⟨es, level, -, -, hs⟩ | ⟨-, hno, hmore, -⟩
    · cases scanBracket_kind hs
    have hpre : trimEnd more <+: more := trimEnd_isPrefix more
    have hno' : OpensNoBracket (trimEnd more) :=
      hno.of_isPrefix (hpre.trans (hmore ▸ restOfLine_isPrefix cs))
    have hline : restOfLine (trimEnd more) = trimEnd more := by
      have hn : '\n' ∉ trimEnd more := by
        intro hmem
        exact newline_not_mem_restOfLine cs (hmore ▸ hpre.subset hmem)
      have hl : (trimEnd more).getLast? ≠ some '\r' := by
        intro hl
        exact absurd (isBlank_of_mem_getLast?_trimEnd hl) (by decide)
      have := restOfLine_append hn hl (.inl rfl)
      rwa [List.append_nil] at this
    refine ⟨'#', trimEnd more, trimEnd_cons (by decide) more, ?_⟩
    show scanComment (trimEnd more) = _
    rw [scanComment_of_opensNoBracket hno', splitLine, hline, List.drop_length]
    rfl
  · rw [Word.trimmed_of_ne hk]
    have := scan_local h (fun e => absurd e hk) (endsBefore_nil k)
    rw [List.append_nil] at this
    exact ⟨c, more, rfl, this⟩

end Listfile.Tree
