import Listfile.Proofs.Outcome
import Listfile.Proofs.Tree.Covering
import Listfile.Proofs.Tree.Forming

/-!
# Texts that cannot be cut

A text is cut into lexemes, or it comes to a place where no lexeme begins.  What stands before that place is
cut by itself in the same way, unless it ends with a carriage return.

* `CutsOff`: words that are cut off one after the other.
* `cutsOff_total`: every text is cut, or cannot be cut at some place.
* `CutsOff.again`: what was cut off is cut again when the text ends behind it.
* `CutsOff.getLast?_ne`: a text that is cut does not end with a carriage return.
* **`lexemes_total`**: what the lexemes of a text are, or what is wrong with it.
-/

namespace Listfile.Tree

/-- The words are cut off one after the other, and `rest` is left. -/
inductive CutsOff : List Char → List Word → List Char → Prop
  | done (s : List Char) : CutsOff s [] s
  | next {c : Char} {cs more s rest : List Char} {k : Kind} {ws : List Word}
    (h : scan c cs = .found k more s) (hs : CutsOff s ws rest) :
    CutsOff (c :: cs) (⟨k, c :: more⟩ :: ws) rest

/-- Nothing is lost. -/
theorem CutsOff.textOf_append {s rest : List Char} {ws : List Word} (h : CutsOff s ws rest) :
    s = textOf ws ++ rest := by
  induction h with
  | done s => rfl
  | @next c cs more s rest k ws h _ ih =>
    rw [textOf_cons, List.append_assoc, ← ih, List.cons_append, ← scan_append h]

/-- A text is cut until nothing is left or nothing can be cut off. -/
theorem cutsOff_total (s : List Char) :
    (∃ ws, CutsOff s ws []) ∨ ∃ ws c cs cause, CutsOff s ws (c :: cs) ∧ scan c cs = .fault cause := by
  induction hn : s.length using Nat.strong_induction_on generalizing s with
  | _ n ih =>
    cases s with
    | nil => exact .inl ⟨[], .done []⟩
    | cons c cs =>
      cases hscan : scan c cs with
      | fault cause => exact .inr ⟨[], c, cs, cause, .done _, hscan⟩
      | found k more s =>
        rcases ih _ (hn ▸ length_lt_of_scan hscan) s rfl with ⟨ws, hs⟩ | ⟨ws, d, ds, cause, hs, hd⟩
        · exact .inl ⟨_, .next hscan hs⟩
        · exact .inr ⟨_, d, ds, cause, .next hscan hs, hd⟩

theorem lexemesFrom_of_fault {c : Char} {cs : List Char} {cause : Cause} (h : scan c cs = .fault cause)
    (start : Nat) : lexemesFrom start (c :: cs) = .error ⟨cause, start⟩ := by
  rw [lexemesFrom]
  split
  · rename_i hs
    rw [h] at hs
    cases hs
    rfl
  · rename_i hs
    rw [h] at hs
    cases hs

/-- What is cut until nothing is left has lexemes. -/
theorem CutsOff.lexemesFrom {s : List Char} {ws : List Word} (h : CutsOff s ws []) (start : Nat) :
    ∃ ls, lexemesFrom start s = .ok ls ∧ ls.map Lexeme.word = ws := by
  generalize hrest : [] = rest at h
  induction h generalizing start with
  | done s =>
    subst hrest
    exact ⟨[], by rw [Tree.lexemesFrom], rfl⟩
  | @next c cs more s rest k ws h _ ih =>
    obtain ⟨ls, hls, hmap⟩ := ih (start + byteLength (c :: more)) hrest
    refine ⟨⟨k, ⟨start, c :: more⟩⟩ :: ls, ?_, ?_⟩
    · rw [lexemesFrom_of_scan h, hls]
      rfl
    · rw [List.map_cons, hmap]
      rfl

/-- A text is refused where nothing can be cut off any more. -/
theorem CutsOff.lexemesFrom_fault {s cs : List Char} {c : Char} {ws : List Word} {cause : Cause}
    (h : CutsOff s ws (c :: cs)) (hc : scan c cs = .fault cause) (start : Nat) :
    Tree.lexemesFrom start s = .error ⟨cause, start + byteLength (textOf ws)⟩ := by
  generalize hrest : c :: cs = rest at h
  induction h generalizing start with
  | done s =>
    subst hrest
    rw [lexemesFrom_of_fault hc, textOf_nil, byteLength_nil, Nat.add_zero]
  | @next d ds more s rest k ws h _ ih =>
    rw [lexemesFrom_of_scan h, ih _ hrest, textOf_cons, byteLength_append, Nat.add_assoc]
    rfl

/-! ### Cutting what was cut off -/

/-- Where a line ends is decided by its line feed. -/
theorem restOfLine_lineFeed (line s t : List Char) :
    restOfLine (line ++ '\n' :: s) = restOfLine (line ++ '\n' :: t) := by
  have htake : ∀ u : List Char, (line ++ '\n' :: u).takeWhile (· != '\n') = line.takeWhile (· != '\n') := by
    intro u
    rw [List.takeWhile_append]
    split
    · rename_i hlen
      rw [List.takeWhile_cons_of_neg (by decide), List.append_nil]
      exact ((List.takeWhile_prefix _).eq_of_length hlen).symm
    · rfl
  rw [restOfLine, restOfLine, htake, htake]

theorem Word.trimmed_isPrefix (w : Word) : w.trimmed.text <+: w.text := by
  obtain ⟨k, t⟩ := w
  cases k with
  | lineComment => exact trimEnd_isPrefix t
  | _ => exact List.prefix_rfl

section
variable {c : Char} {cs more s rest : List Char} {k : Kind} {ws : List Word}

/-- What follows a word does not go on with it, also when the text ends behind the words after it. -/
theorem CutsOff.endsBefore (h : scan c cs = .found k more s) (hs : CutsOff s ws rest) :
    k.EndsBefore (textOf ws) := by
  cases hs with
  | done => exact endsBefore_nil k
  | @next d ds more' s' _ k' ws' h' _ =>
    obtain ⟨behind, hbehind⟩ := (Word.mk k' (d :: more')).trimmed_isPrefix
    have hpair : (Word.mk k (c :: more)).Precedes (Word.mk k' (d :: more')).trimmed := by
      rw [Word.Precedes, Word.kind_trimmed]
      exact mayPrecede_of_scan h h'
    rw [textOf_cons, ← hbehind, List.append_assoc]
    exact endsBefore_of_precedes hpair (standsAlone_of_scan h') _

/-- A comment is cut off again if its line is ended by another word. -/
theorem CutsOff.comment_again {w : Word} (h : scan c cs = .found .lineComment more s)
    (hs : CutsOff s (w :: ws) rest) :
    scan c (more ++ textOf (w :: ws)) = .found .lineComment more (textOf (w :: ws)) := by
  have hends := CutsOff.endsBefore h hs
  have hc : c = '#' := beginsWith_of_scan h
  subst hc
  rcases scanComment_cases h with ⟨es, level, -, -, hb⟩ | ⟨-, hno, hmore, -⟩
  · cases scanBracket_kind hb
  -- the end of the line is one word, and the same behind the comment in both texts
  have hline : ∃ front, (∃ t, s = front ++ '\n' :: t) ∧ ∃ t, textOf (w :: ws) = front ++ '\n' :: t := by
    cases hs with
    | @next d ds more' s' _ k' _ h' _ =>
      have hk : k' = .newline := by simpa [Kind.mayPrecede] using mayPrecede_of_scan h h'
      have hs' : d :: ds = d :: more' ++ s' := congrArg (d :: ·) (scan_append h')
      rw [hs', textOf_cons]
      rw [hk] at h'
      rcases forms_of_scan h' with htext | htext
      · rw [htext]
        exact ⟨[], ⟨s', rfl⟩, ⟨textOf ws, rfl⟩⟩
      · rw [htext]
        exact ⟨['\r'], ⟨s', rfl⟩, ⟨textOf ws, rfl⟩⟩
  obtain ⟨front, ⟨t, ht⟩, t', ht'⟩ := hline
  have hrest : restOfLine (more ++ textOf (w :: ws)) = more := by
    rw [ht', ← List.append_assoc, restOfLine_lineFeed (more ++ front) t' t, List.append_assoc, ← ht,
      ← scan_append h]
    exact hmore.symm
  have hno' : OpensNoBracket (more ++ textOf (w :: ws)) :=
    OpensNoBracket.append (hno.of_isPrefix (hmore ▸ restOfLine_isPrefix cs)) hends
  show scanComment (more ++ textOf (w :: ws)) = _
  rw [scanComment_of_opensNoBracket hno', splitLine, hrest, List.drop_left]

/-- A word is cut off again when the text ends behind the words after it. -/
theorem CutsOff.scan_again (h : scan c cs = .found k more s) (hs : CutsOff s ws rest)
    (hend : (c :: more ++ textOf ws).getLast? ≠ some '\r') :
    scan c (more ++ textOf ws) = .found k more (textOf ws) := by
  have hends := CutsOff.endsBefore h hs
  by_cases hk : k = .lineComment
  · subst hk
    cases ws with
    | nil =>
      refine scan_local h ?_ hends
      intro _ hlast
      rw [textOf_nil, List.append_nil, List.getLast?_cons, hlast] at hend
      exact hend rfl
    | cons w ws => exact CutsOff.comment_again h hs
  · exact scan_local h (fun e => absurd e hk) hends

end

/-- **What was cut off is cut again when the text ends behind it**, unless that ends with a carriage return. -/
theorem CutsOff.again {s rest : List Char} {ws : List Word} (h : CutsOff s ws rest)
    (hend : (textOf ws).getLast? ≠ some '\r') : CutsOff (textOf ws) ws [] := by
  induction h with
  | done s => exact .done []
  | @next c cs more s rest k ws h hs ih =>
    rw [textOf_cons] at hend ⊢
    refine .next (CutsOff.scan_again h hs hend) (ih ?_)
    intro hlast
    rw [List.getLast?_append, hlast] at hend
    exact hend rfl

/-! ### Texts that end with a carriage return -/

theorem getLast?_cons_ne {c d : Char} {s : List Char} (hc : c ≠ d) (hs : s.getLast? ≠ some d) :
    (c :: s).getLast? ≠ some d := by
  cases s with
  | nil => simpa using hc
  | cons e s => rwa [List.getLast?_cons_cons]

theorem Bare.getLast?_ne {text : List Char} (h : Bare text) : text.getLast? ≠ some '\r' := by
  induction h with
  | nil => simp
  | @plain c cs hb he _ ih =>
    refine getLast?_cons_ne ?_ ih
    rintro rfl
    exact absurd he (by decide)
  | escaped hn hr _ ih => exact getLast?_cons_ne (by decide) (getLast?_cons_ne hr ih)

theorem getLast?_bracketText (level : Nat) (body : List Char) :
    (bracketText level body).getLast? = some ']' := by
  have hsplit : bracketText level body
      = signsAnd level '[' ++ body ++ (']' :: List.replicate level '=') ++ [']'] := by
    simp [bracketText, bracketCloser, signsAnd]
  rw [hsplit, List.getLast?_concat]

/-- Only comments to the end of a line may end with a carriage return. -/
theorem Kind.Forms.getLast?_ne {k : Kind} {text : List Char} (h : k.Forms text) (hk : k ≠ .lineComment) :
    text.getLast? ≠ some '\r' := by
  cases k with
  | space =>
    intro hlast
    exact absurd (h.2 _ (List.mem_of_getLast? hlast)) (by decide)
  | newline => rcases h with rfl | rfl <;> decide
  | openParen | closeParen =>
    rw [show text = _ from h]
    decide
  | lineComment => exact absurd rfl hk
  | bracketComment =>
    obtain ⟨level, body, rfl⟩ := h
    refine getLast?_cons_ne (by decide) (getLast?_cons_ne (by decide) ?_)
    rw [getLast?_bracketText]
    decide
  | bracket =>
    obtain ⟨level, body, rfl⟩ := h
    refine getLast?_cons_ne (by decide) ?_
    rw [getLast?_bracketText]
    decide
  | quoted =>
    obtain ⟨body, rfl, -⟩ := h
    refine getLast?_cons_ne (by decide) ?_
    rw [List.getLast?_concat]
    decide
  | squareUnquoted =>
    obtain ⟨more, rfl, hbare⟩ := h
    exact getLast?_cons_ne (by decide) hbare.getLast?_ne
  | unquoted => exact h.2.2.getLast?_ne

/-- Only one of the carriage returns at the end of a line goes with its line feed, so behind a lexeme that ends
with one there is another, and nothing but a line feed may follow that. -/
theorem follows_of_getLast? {c : Char} {cs more rest : List Char} {k : Kind}
    (h : scan c cs = .found k more rest) (hlast : (c :: more).getLast? = some '\r') :
    rest = ['\r'] ∨ ∃ t, rest = '\r' :: '\n' :: t := by
  have hk : k = .lineComment := by
    by_contra hk
    exact (forms_of_scan h).getLast?_ne hk hlast
  subst hk
  obtain rfl : c = '#' := beginsWith_of_scan h
  rcases scanComment_cases h with ⟨es, level, -, -, hb⟩ | ⟨-, -, hmore, -⟩
  · cases scanBracket_kind hb
  have hlast' : more.getLast? = some '\r' := by
    by_contra hne
    exact getLast?_cons_ne (by decide) hne hlast
  by_cases hline : (cs.takeWhile (· != '\n')).getLast? = some '\r'
  · -- the line is the comment and one more carriage return
    obtain ⟨front, hfront⟩ := List.getLast?_eq_some_iff.1 hline
    rw [restOfLine, hfront, dropLastIf_concat] at hmore
    have hcs : more ++ rest = more ++ '\r' :: cs.dropWhile (· != '\n') := by
      calc more ++ rest = cs := (scan_append h).symm
        _ = cs.takeWhile (· != '\n') ++ cs.dropWhile (· != '\n') := List.takeWhile_append_dropWhile.symm
        _ = more ++ '\r' :: cs.dropWhile (· != '\n') := by rw [hfront, hmore]; simp
    rw [List.append_cancel_left hcs]
    cases hd : cs.dropWhile (· != '\n') with
    | nil => exact .inl rfl
    | cons d ds =>
      have hfeed : d = '\n' := by simpa [hd] using List.head?_dropWhile_not (· != '\n') cs
      exact .inr ⟨ds, by rw [hfeed]⟩
  · rw [restOfLine, dropLastIf_eq_self hline] at hmore
    rw [hmore] at hlast'
    exact absurd hlast' hline

/-- **A text that is cut does not end with a carriage return.** -/
theorem CutsOff.getLast?_ne {s : List Char} {ws : List Word} (h : CutsOff s ws []) :
    s.getLast? ≠ some '\r' := by
  generalize hrest : [] = rest at h
  induction h with
  | done s =>
    subst hrest
    simp
  | @next c cs more s rest k ws h hs ih =>
    have hcs : c :: cs = c :: more ++ s := congrArg (c :: ·) (scan_append h)
    rw [hcs, List.getLast?_append]
    cases s with
    | nil =>
      intro hlast
      rcases follows_of_getLast? h hlast with he | ⟨t, he⟩ <;> cases he
    | cons d ds =>
      have hlast := ih hrest
      rwa [List.getLast?_eq_getLast_of_ne_nil (List.cons_ne_nil _ _)] at hlast ⊢

/-- Where a text cannot be cut behind a carriage return, only another one follows. -/
theorem CutsOff.eq_of_getLast? {s cs : List Char} {c : Char} {ws : List Word} {cause : Cause}
    (h : CutsOff s ws (c :: cs)) (hc : scan c cs = .fault cause)
    (hlast : (textOf ws).getLast? = some '\r') : c :: cs = ['\r'] := by
  generalize hrest : c :: cs = rest at h
  induction h with
  | done s => simp at hlast
  | @next d ds more s rest k ws h hs ih =>
    rw [textOf_cons, List.getLast?_append] at hlast
    cases hs with
    | done =>
      subst hrest
      rcases follows_of_getLast? h hlast with he | ⟨t, he⟩
      · exact he
      · cases he
        cases hc
    | @next e es more' s' _ k' ws' h' hs' =>
      refine ih ?_ hrest
      rw [textOf_cons, List.cons_append] at hlast ⊢
      rwa [List.getLast?_eq_getLast_of_ne_nil (List.cons_ne_nil _ _)] at hlast ⊢

/-! ### Texts -/

/-- The words that lexemes are, one after the other. -/
theorem cutsOff_of_lexemesFrom {s : List Char} {start : Nat} {ls : List Lexeme}
    (h : lexemesFrom start s = .ok ls) : CutsOff s (ls.map Lexeme.word) [] := by
  rcases cutsOff_total s with ⟨ws, hs⟩ | ⟨ws, c, cs, cause, hs, hc⟩
  · obtain ⟨ls', hls', hmap⟩ := hs.lexemesFrom start
    rw [h] at hls'
    cases hls'
    rwa [hmap]
  · rw [hs.lexemesFrom_fault hc] at h
    cases h

/-- What was cut off has lexemes of its own exactly if it does not end with a carriage return. -/
theorem CutsOff.lexemes_iff {s rest : List Char} {ws : List Word} (h : CutsOff s ws rest) :
    (∃ ls, lexemes (textOf ws) = .ok ls) ↔ (textOf ws).getLast? ≠ some '\r' := by
  constructor
  · rintro ⟨ls, hls⟩
    exact (cutsOff_of_lexemesFrom hls).getLast?_ne
  · intro hend
    obtain ⟨ls, hls, -⟩ := (h.again hend).lexemesFrom 0
    exact ⟨ls, hls⟩

theorem forms_of_mem_cutsOff {s rest : List Char} {ws : List Word} (h : CutsOff s ws rest) :
    ∀ w ∈ ws, w.kind.Forms w.text ∧ w.text ≠ [] := by
  induction h with
  | done s => simp
  | next h _ ih => exact List.forall_mem_cons.2 ⟨⟨forms_of_scan h, List.cons_ne_nil _ _⟩, ih⟩

/-- **Every text has lexemes, or a cause that explains why not.**  Lexemes follow each other without a gap,
none is empty, and each looks as its kind says.  If there are none, the text ends before a place where the
cause is right about what follows.  What stands before that place has lexemes exactly if it does not end with
a carriage return; if it does, one more carriage return is all that follows. -/
theorem lexemes_total (source : List Char) :
    (∃ ls, lexemes source = .ok ls ∧ Tiles 0 (ls.map fun l => l.piece.span) (byteLength source) ∧
      ∀ l ∈ ls, l.piece.Stands source ∧ l.piece.span.start < l.piece.span.stop ∧
        l.kind.Forms l.piece.text) ∨
    ∃ fault before rest, lexemes source = .error fault ∧ source = before ++ rest ∧
      fault.offset = byteLength before ∧ fault.position source = .after before ∧
      fault.cause.Explains rest ∧ ((∃ ls, lexemes before = .ok ls) ↔ before.getLast? ≠ some '\r') ∧
      (before.getLast? = some '\r' → rest = ['\r']) := by
  rcases cutsOff_total source with ⟨ws, hs⟩ | ⟨ws, c, cs, cause, hs, hc⟩
  · obtain ⟨ls, hls, rfl⟩ := hs.lexemesFrom 0
    have hstart : lexemesFrom (byteLength []) source = .ok ls := hls
    obtain ⟨htiles, hstands⟩ := lexemes_tile hstart (List.nil_append source).symm
    refine .inl ⟨ls, hls, htiles, fun l hl => ⟨hstands l hl, ?_, ?_⟩⟩
    · have hne := (forms_of_mem_cutsOff hs l.word (List.mem_map_of_mem hl)).2
      have hpos : 0 < byteLength l.piece.text := byteLength_pos hne
      show l.piece.start < l.piece.start + byteLength l.piece.text
      omega
    · exact (forms_of_mem_cutsOff hs l.word (List.mem_map_of_mem hl)).1
  · refine .inr ⟨⟨cause, byteLength (textOf ws)⟩, textOf ws, c :: cs, ?_, hs.textOf_append, rfl, ?_,
      explains_of_scan hc, hs.lexemes_iff, hs.eq_of_getLast? hc⟩
    · have := hs.lexemesFrom_fault hc 0
      rwa [Nat.zero_add] at this
    · rw [Fault.position, Position.ofOffset, hs.textOf_append, takeBytes_append]
      rfl

/-- A comment at the end of a text leaves the last carriage return over, and so the text cannot be cut; nor can
the text before that carriage return, which leaves over another one. -/
theorem not_forall_lexemes_before :
    ¬∀ (source : List Char) (fault : Fault), lexemes source = .error fault →
      ∃ before ls, takeBytes fault.offset source = some before ∧ lexemes before = .ok ls := by
  intro hall
  obtain ⟨before, ls, hbefore, hls⟩ :=
    hall "#a\r\r".toList ⟨.unexpectedCharacter '\r', 3⟩ (by decide +kernel)
  obtain rfl : "#a\r".toList = before := Option.some.inj hbefore
  have hfault : lexemes "#a\r".toList = .error ⟨.unexpectedCharacter '\r', 2⟩ := by decide +kernel
  rw [hfault] at hls
  cases hls

end Listfile.Tree
