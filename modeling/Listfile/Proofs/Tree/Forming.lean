import Listfile.Proofs.Tree.Lexing

/-!
# What lexemes look like

* `Kind.Forms`: the texts that lexemes of a kind may have.
* `splitOnce?_first`: nothing is cut at a later occurrence than the first.
* `forms_of_scan`: what is cut off has such a text.
* `Cause.Explains`: what a text has to begin with for a cause to be right about it.
* **`explains_of_scan`**: where nothing can be cut off, the cause is right about what stands there.
-/

namespace Listfile.Tree

/-! ### The lexical grammar -/

/-- Characters of arguments without quotes.  A backslash goes together with the character behind it. -/
inductive Bare : List Char → Prop
  | nil : Bare []
  | plain {c : Char} {cs : List Char} (hb : c ≠ '\\') (he : endsUnquoted c = false) (h : Bare cs) :
    Bare (c :: cs)
  | escaped {c : Char} {cs : List Char} (hn : c ≠ '\n') (hr : c ≠ '\r') (h : Bare cs) :
    Bare ('\\' :: c :: cs)

/-- Characters that may stand between quotation marks. -/
inductive Quotable : List Char → Prop
  | nil : Quotable []
  | plain {c : Char} {cs : List Char} (hb : c ≠ '\\') (hq : c ≠ '"') (h : Quotable cs) : Quotable (c :: cs)
  | escaped {c : Char} {cs : List Char} (h : Quotable cs) : Quotable ('\\' :: c :: cs)

/-- A bracket, given what stands between its ends, without its first character. -/
def bracketText (level : Nat) (body : List Char) : List Char :=
  signsAnd level '[' ++ body ++ bracketCloser level

theorem bracketLevel?_bracketText (level : Nat) (body : List Char) :
    bracketLevel? (bracketText level body) = some level := by
  rw [bracketText, List.append_assoc]
  exact bracketLevel?_signsAnd level _

/-- The texts that lexemes of a kind may have. -/
def Kind.Forms (text : List Char) : Kind → Prop
  | .space => text ≠ [] ∧ ∀ c ∈ text, isLineBlank c = true
  | .newline => text = ['\n'] ∨ text = ['\r', '\n']
  | .openParen => text = ['(']
  | .closeParen => text = [')']
  | .lineComment => ∃ line, text = '#' :: line ∧ '\n' ∉ line ∧ OpensNoBracket line
  | .bracketComment => ∃ level body, text = '#' :: '[' :: bracketText level body
  | .quoted => ∃ body, text = '"' :: (body ++ ['"']) ∧ Quotable body
  | .bracket => ∃ level body, text = '[' :: bracketText level body
  | .squareUnquoted => ∃ more, text = '[' :: more ∧ Bare more
  | .unquoted => text ≠ [] ∧ text.head? ≠ some '[' ∧ Bare text

/-! ### What is cut off -/

theorem bare_splitUnquoted (s : List Char) : Bare (splitUnquoted s).1 := by
  fun_induction splitUnquoted s with
  | case1 => exact .nil
  | case2 => exact .nil
  | case3 d ds hd ih =>
    obtain ⟨hn, hr⟩ := not_or.1 hd
    exact .escaped hn hr ih
  | case4 => exact .nil
  | case5 => exact .nil
  | case6 c cs hb he ih => exact .plain hb (by simpa using he) ih

theorem quotable_of_splitQuoted {s a b : List Char} (h : splitQuoted s = some (a, b)) :
    ∃ body, a = body ++ ['"'] ∧ Quotable body := by
  fun_induction splitQuoted s generalizing a b with
  | case1 cs =>
    cases h
    exact ⟨[], rfl, .nil⟩
  | case2 c cs ih =>
    obtain ⟨⟨a', b'⟩, hs, h'⟩ := Option.map_eq_some_iff.1 h
    cases h'
    obtain ⟨body, rfl, hbody⟩ := ih hs
    exact ⟨'\\' :: c :: body, rfl, .escaped hbody⟩
  | case3 c cs hq hb ih =>
    obtain ⟨⟨a', b'⟩, hs, h'⟩ := Option.map_eq_some_iff.1 h
    cases h'
    obtain ⟨body, rfl, hbody⟩ := ih hs
    have hc : c ≠ '\\' := by
      rintro rfl
      cases cs with
      | nil => cases hs
      | cons d ds => exact hb d ds rfl rfl
    exact ⟨c :: body, rfl, .plain hc hq hbody⟩
  | case4 => cases h

/-- The mark stands behind the text, and nowhere earlier: not across the end of the text either. -/
def EndsAtFirst (mark text : List Char) : Prop :=
  ∀ front behind, text ++ mark = front ++ (mark ++ behind) → front = text

/-- Text is cut around the first occurrence of the mark. -/
theorem splitOnce?_first {mark text left right : List Char}
    (h : splitOnce? mark text = some (left, right)) : EndsAtFirst mark left := by
  intro front behind hfront
  induction text generalizing left front with
  | nil =>
    have hleft : left = [] := (List.append_eq_nil_iff.1 (splitOnce?_append h).symm).1
    subst hleft
    have hlength := congrArg List.length hfront
    simp only [List.length_append, List.length_nil] at hlength
    exact List.length_eq_zero_iff.1 (by omega)
  | cons c cs ih =>
    cases hd : dropPrefix? mark (c :: cs) with
    | some rest =>
      simp only [splitOnce?, hd, Option.some.injEq, Prod.mk.injEq] at h
      obtain ⟨rfl, -⟩ := h
      have hlength := congrArg List.length hfront
      simp only [List.length_append, List.length_nil] at hlength
      exact List.length_eq_zero_iff.1 (by omega)
    | none =>
      have htext := splitOnce?_append h
      simp only [splitOnce?, hd, Option.map_eq_some_iff, Prod.mk.injEq, Prod.exists] at h
      obtain ⟨a, b, hab, rfl, rfl⟩ := h
      cases front with
      | nil =>
        -- the mark would stand at the very front, where it was looked for
        rw [← List.append_assoc, hfront, List.nil_append, List.append_assoc] at htext
        rw [dropPrefix?_eq_some_iff.2 htext] at hd
        cases hd
      | cons d front =>
        obtain ⟨rfl, htail⟩ := List.cons.inj hfront
        rw [ih hab front htail]

/-- A bracket that is cut off ends where it is closed for the first time. -/
theorem exists_of_scanBracket {kind k : Kind} {opening cs more rest : List Char} {level : Nat}
    (h : scanBracket kind opening level cs = .found k more rest) :
    ∃ body, more = opening ++ bracketText level body ∧ EndsAtFirst (bracketCloser level) body := by
  unfold scanBracket at h
  split at h
  · rename_i text r hs
    cases h
    obtain ⟨⟨a, b⟩, hab, hp⟩ := Option.map_eq_some_iff.1 hs
    cases hp
    exact ⟨a, rfl, splitOnce?_first hab⟩
  · cases h

theorem forms_of_scanComment {cs more rest : List Char} {k : Kind}
    (h : scanComment cs = .found k more rest) : k.Forms ('#' :: more) := by
  rcases scanComment_cases h with ⟨ds, level, -, -, hs⟩ | ⟨rfl, hno, rfl, -⟩
  · obtain ⟨body, rfl, -⟩ := exists_of_scanBracket hs
    rw [scanBracket_kind hs]
    exact ⟨level, body, rfl⟩
  · exact ⟨restOfLine cs, rfl, newline_not_mem_restOfLine cs, hno.of_isPrefix (restOfLine_isPrefix cs)⟩

theorem forms_of_scanQuoted {cs more rest : List Char} {k : Kind}
    (h : scanQuoted cs = .found k more rest) : k.Forms ('"' :: more) := by
  rw [scanQuoted_kind h]
  unfold scanQuoted at h
  split at h
  · rename_i hs
    cases h
    obtain ⟨body, rfl, hbody⟩ := quotable_of_splitQuoted hs
    exact ⟨body, rfl, hbody⟩
  · cases h

theorem forms_of_scanSquare {cs more rest : List Char} {k : Kind}
    (h : scanSquare cs = .found k more rest) : k.Forms ('[' :: more) := by
  unfold scanSquare at h
  split at h
  · rename_i level hl
    obtain ⟨body, rfl, -⟩ := exists_of_scanBracket h
    rw [scanBracket_kind h]
    exact ⟨level, body, rfl⟩
  · cases h
    exact ⟨_, rfl, bare_splitUnquoted cs⟩

theorem forms_of_scanUnquoted {c : Char} {cs more rest : List Char} {k : Kind} (hc : c ≠ '[')
    (h : scanUnquoted c cs = .found k more rest) : k.Forms (c :: more) := by
  unfold scanUnquoted at h
  split at h
  · rename_i d more' rest' hs
    cases h
    have happ := splitUnquoted_append (c :: cs)
    rw [hs] at happ
    obtain rfl : d = c := (List.cons.inj happ).1
    have hbare := bare_splitUnquoted (d :: cs)
    rw [hs] at hbare
    exact ⟨List.cons_ne_nil _ _, fun hhead => hc (Option.some.inj hhead), hbare⟩
  · cases h

/-- **A lexeme looks as its kind says.** -/
theorem forms_of_scan {c : Char} {cs more rest : List Char} {k : Kind}
    (h : scan c cs = .found k more rest) : k.Forms (c :: more) := by
  unfold scan at h
  split at h
  · rename_i hc
    cases h
    refine ⟨List.cons_ne_nil _ _, List.forall_mem_cons.2 ⟨hc, ?_⟩⟩
    exact fun d hd => List.mem_takeWhile_imp hd
  split at h
  · rename_i hc
    cases h
    exact .inl (by rw [hc])
  split at h
  · rename_i hc
    cases h
    exact .inr (by rw [hc.1])
  split at h
  · rename_i hc
    cases h
    rw [hc]
    rfl
  split at h
  · rename_i hc
    cases h
    rw [hc]
    rfl
  split at h
  · rename_i hc
    rw [hc]
    exact forms_of_scanComment h
  split at h
  · rename_i hc
    rw [hc]
    exact forms_of_scanQuoted h
  split at h
  · rename_i hc
    rw [hc]
    exact forms_of_scanSquare h
  · rename_i hc
    exact forms_of_scanUnquoted hc h

/-! ### What a cause says -/

/-- How many backslashes stand at the end of a text. -/
def backslashesBehind (s : List Char) : Nat := (s.reverse.takeWhile (· == '\\')).length

/-- What a text has to begin with for a cause to be right about it.  A quotation mark is escaped if the number
of backslashes directly before it is odd. -/
def Cause.Explains (rest : List Char) : Cause → Prop
  | .unterminatedQuote =>
    ∃ cs, rest = '"' :: cs ∧
      ∀ body behind, cs = body ++ '"' :: behind → backslashesBehind body % 2 = 1
  | .unterminatedBracket closer =>
    ∃ opening level behind, (opening = ['['] ∨ opening = ['#', '[']) ∧
      rest = opening ++ (signsAnd level '[' ++ behind) ∧ closer = bracketCloser level ∧
      ¬closer <:+: behind
  | .unexpectedCharacter c =>
    rest.head? = some c ∧ ∀ (k : Kind) (text : List Char), k.Forms text → ¬text <+: rest
  | _ => False

/-! ### Nothing can be cut off -/

/-- Which of the scans comes upon a fault. -/
theorem scan_fault_cases {c : Char} {cs : List Char} {cause : Cause} (h : scan c cs = .fault cause) :
    (c = '#' ∧ scanComment cs = .fault cause) ∨ (c = '"' ∧ scanQuoted cs = .fault cause) ∨
      (c = '[' ∧ scanSquare cs = .fault cause) ∨
      (scanUnquoted c cs = .fault cause ∧ isLineBlank c = false ∧ c ≠ '\n' ∧
        ¬(c = '\r' ∧ cs.head? = some '\n') ∧ c ∉ ['(', ')', '#', '"', '[']) := by
  unfold scan at h
  split at h
  · cases h
  rename_i hblank
  split at h
  · cases h
  rename_i hnewline
  split at h
  · cases h
  rename_i hreturn
  split at h
  · cases h
  rename_i hopen
  split at h
  · cases h
  rename_i hclose
  split at h
  · rename_i hc
    exact .inl ⟨hc, h⟩
  rename_i hsign
  split at h
  · rename_i hc
    exact .inr (.inl ⟨hc, h⟩)
  rename_i hquote
  split at h
  · rename_i hc
    exact .inr (.inr (.inl ⟨hc, h⟩))
  rename_i hsquare
  refine .inr (.inr (.inr ⟨h, by simpa using hblank, hnewline, hreturn, ?_⟩))
  simp only [List.mem_cons, List.not_mem_nil, or_false, not_or]
  exact ⟨hopen, hclose, hsign, hquote, hsquare⟩

/-- A text that is not cut does not hold the mark. -/
theorem not_isInfix_of_splitOnce? {mark text : List Char} (h : splitOnce? mark text = none) :
    ¬mark <:+: text := by
  induction text with
  | nil =>
    intro hin
    rw [List.infix_nil.1 hin] at h
    cases h
  | cons c cs ih =>
    cases hd : dropPrefix? mark (c :: cs) with
    | some rest => simp [splitOnce?, hd] at h
    | none =>
      rw [splitOnce?, hd] at h
      rw [List.infix_cons_iff, not_or]
      refine ⟨?_, ih (Option.map_eq_none_iff.1 h)⟩
      rintro ⟨rest, hrest⟩
      rw [dropPrefix?_eq_some_iff.2 hrest.symm] at hd
      cases hd

/-- A bracket that is not closed. -/
theorem exists_of_scanBracket_fault {kind : Kind} {opening cs : List Char} {level : Nat} {cause : Cause}
    (hl : bracketLevel? cs = some level) (h : scanBracket kind opening level cs = .fault cause) :
    ∃ behind, cs = signsAnd level '[' ++ behind ∧ cause = .unterminatedBracket (bracketCloser level) ∧
      ¬bracketCloser level <:+: behind := by
  unfold scanBracket at h
  split at h
  · cases h
  · rename_i hs
    cases h
    exact ⟨cs.drop (level + 1), bracketLevel?_append hl, rfl,
      not_isInfix_of_splitOnce? (Option.map_eq_none_iff.1 hs)⟩

theorem explains_of_scanComment {cs : List Char} {cause : Cause} (h : scanComment cs = .fault cause) :
    cause.Explains ('#' :: cs) := by
  unfold scanComment at h
  split at h
  · split at h
    · rename_i hl
      obtain ⟨behind, rfl, rfl, hno⟩ := exists_of_scanBracket_fault hl h
      exact ⟨['#', '['], _, behind, .inr rfl, rfl, rfl, hno⟩
    · cases h
  · cases h

theorem explains_of_scanSquare {cs : List Char} {cause : Cause} (h : scanSquare cs = .fault cause) :
    cause.Explains ('[' :: cs) := by
  unfold scanSquare at h
  split at h
  · rename_i hl
    obtain ⟨behind, rfl, rfl, hno⟩ := exists_of_scanBracket_fault hl h
    exact ⟨['['], _, behind, .inl rfl, rfl, rfl, hno⟩
  · cases h

/-- What stands before a text counts only if the text is all backslashes. -/
theorem backslashesBehind_append (front s : List Char) :
    backslashesBehind (front ++ s)
      = if backslashesBehind s = s.length then s.length + backslashesBehind front
        else backslashesBehind s := by
  unfold backslashesBehind
  rw [List.reverse_append, List.takeWhile_append, List.length_reverse]
  split
  · rw [List.length_append, List.length_reverse]
  · rfl

/-- A text with another character before it has as many backslashes at its end. -/
theorem backslashesBehind_cons {c : Char} (hc : c ≠ '\\') (s : List Char) :
    backslashesBehind (c :: s) = backslashesBehind s := by
  have hsingle : backslashesBehind [c] = 0 := by simp [backslashesBehind, hc]
  rw [← List.singleton_append, backslashesBehind_append]
  split <;> omega

/-- A backslash and the character that it hides do not change whether the number is odd. -/
theorem backslashesBehind_pair (c : Char) (s : List Char) :
    backslashesBehind ('\\' :: c :: s) % 2 = backslashesBehind s % 2 := by
  have hpair : backslashesBehind ['\\', c] % 2 = 0 := by
    by_cases hc : c = '\\' <;> simp [backslashesBehind, hc]
  show backslashesBehind (['\\', c] ++ s) % 2 = _
  rw [backslashesBehind_append]
  split <;> omega

/-- Where no quotation mark ends a text, each of them is escaped. -/
theorem escaped_of_splitQuoted {s body behind : List Char} (h : splitQuoted s = none)
    (hs : s = body ++ '"' :: behind) : backslashesBehind body % 2 = 1 := by
  fun_induction splitQuoted s generalizing body with
  | case1 cs => cases h
  | case2 c cs ih =>
    cases body with
    | nil => cases hs
    | cons b body =>
      obtain ⟨rfl, htail⟩ := List.cons.inj hs
      cases body with
      | nil =>
        cases htail
        decide
      | cons d body =>
        obtain ⟨rfl, rfl⟩ := List.cons.inj htail
        rw [backslashesBehind_pair]
        exact ih (Option.map_eq_none_iff.1 h) rfl
  | case3 c cs hq hb ih =>
    cases body with
    | nil => exact absurd (List.cons.inj hs).1 hq
    | cons b body =>
      obtain ⟨rfl, rfl⟩ := List.cons.inj hs
      have hc : c ≠ '\\' := by
        rintro rfl
        cases body with
        | nil => exact hb '"' behind rfl rfl
        | cons d body => exact hb d _ rfl rfl
      rw [backslashesBehind_cons hc]
      exact ih (Option.map_eq_none_iff.1 h) rfl
  | case4 => cases body <;> cases hs

theorem explains_of_scanQuoted {cs : List Char} {cause : Cause} (h : scanQuoted cs = .fault cause) :
    cause.Explains ('"' :: cs) := by
  unfold scanQuoted at h
  split at h
  · cases h
  · rename_i hs
    cases h
    exact ⟨cs, rfl, fun body behind hcs => escaped_of_splitQuoted hs hcs⟩

theorem scanUnquoted_fault {c : Char} {cs : List Char} {cause : Cause}
    (h : scanUnquoted c cs = .fault cause) :
    cause = .unexpectedCharacter c ∧ (splitUnquoted (c :: cs)).1 = [] := by
  unfold scanUnquoted at h
  split at h
  · cases h
  · rename_i hs
    cases h
    rw [hs]
    exact ⟨rfl, rfl⟩

/-- No argument without quotes begins where none is cut off. -/
theorem not_isPrefix_of_bare {s text : List Char} (h : (splitUnquoted s).1 = []) (hne : text ≠ [])
    (hbare : Bare text) : ¬text <+: s := by
  rintro ⟨rest, rfl⟩
  cases hbare with
  | nil => exact hne rfl
  | @plain c cs hb he _ =>
    rw [List.cons_append] at h
    rw [endsUnquoted_of_splitUnquoted hb h] at he
    cases he
  | @escaped c cs hn hr _ =>
    rw [List.cons_append, List.cons_append, splitUnquoted, if_pos rfl] at h
    rw [if_neg (not_or.2 ⟨hn, hr⟩)] at h
    cases h

theorem explains_of_scanUnquoted {c : Char} {cs : List Char} {cause : Cause}
    (h : scanUnquoted c cs = .fault cause) (hblank : isLineBlank c = false) (hnewline : c ≠ '\n')
    (hreturn : ¬(c = '\r' ∧ cs.head? = some '\n')) (hmark : c ∉ ['(', ')', '#', '"', '[']) :
    cause.Explains (c :: cs) := by
  obtain ⟨rfl, hsplit⟩ := scanUnquoted_fault h
  refine ⟨rfl, ?_⟩
  rintro k text hforms hpre
  -- a lexeme that begins here begins with `c`
  have hhead : ∀ d more, text = d :: more → d = c := by
    rintro d more rfl
    exact (List.cons_prefix_cons.1 hpre).1
  cases k with
  | space =>
    obtain ⟨hne, hall⟩ := hforms
    obtain ⟨d, more, rfl⟩ := List.exists_cons_of_ne_nil hne
    have := hall d (.head _)
    rw [hhead d more rfl, hblank] at this
    cases this
  | newline =>
    rcases hforms with rfl | rfl
    · exact hnewline (hhead _ _ rfl).symm
    · obtain ⟨hc, ⟨rest, rfl⟩⟩ := List.cons_prefix_cons.1 hpre
      exact hreturn ⟨hc.symm, rfl⟩
  | openParen | closeParen =>
    exact hmark (by rw [← hhead _ _ hforms]; decide)
  | lineComment =>
    obtain ⟨line, htext, -⟩ := hforms
    exact hmark (by rw [← hhead _ _ htext]; decide)
  | bracketComment | bracket =>
    obtain ⟨level, body, htext⟩ := hforms
    exact hmark (by rw [← hhead _ _ htext]; decide)
  | quoted | squareUnquoted =>
    obtain ⟨body, htext, -⟩ := hforms
    exact hmark (by rw [← hhead _ _ htext]; decide)
  | unquoted =>
    obtain ⟨hne, -, hbare⟩ := hforms
    exact not_isPrefix_of_bare hsplit hne hbare hpre

/-- **Where nothing can be cut off, the cause is right about what stands there.** -/
theorem explains_of_scan {c : Char} {cs : List Char} {cause : Cause} (h : scan c cs = .fault cause) :
    cause.Explains (c :: cs) := by
  rcases scan_fault_cases h with ⟨rfl, h⟩ | ⟨rfl, h⟩ | ⟨rfl, h⟩ | ⟨h, hblank, hnewline, hreturn, hmark⟩
  · exact explains_of_scanComment h
  · exact explains_of_scanQuoted h
  · exact explains_of_scanSquare h
  · exact explains_of_scanUnquoted h hblank hnewline hreturn hmark

end Listfile.Tree
