import Listfile.Proofs.Layout.Meaning
import Listfile.Proofs.Text.Returns
import Listfile.Proofs.Tree.Failing

/-!
# How lines and files end

Formatting copies the ends of lines, and adds one at the end of a file.  That one looks like the first end of a
line in the source that stands outside of arguments and comments.

* `returned_of_cutsOff`: if every line feed stands behind a carriage return, then so it is within each word.
* `words_layFile`: a file with content ends with content and one end of a line.
* **`feedsReturned_format`**: when line feeds keep their carriage returns.
* **`endsWithLine_format`**: a file ends with just one end of a line, unless it is blank.
-/

namespace Listfile.Layout

open Listfile.Tree

/-! ### Line feeds in words -/

/-- The line feeds of a text are behind carriage returns in each word that is cut off. -/
theorem returned_of_cutsOff {s rest : List Char} {ws : List Word} (h : CutsOff s ws rest)
    (hs : FeedsReturned s) : ∀ w ∈ ws, FeedsReturned w.text := by
  induction h with
  | done s =>
    intro w hw
    cases hw
  | @next c cs more s rest k ws h _ ih =>
    have hs' : FeedsReturned ((c :: more) ++ s) := by
      rwa [List.cons_append, ← scan_append h]
    refine List.forall_mem_cons.2 ⟨hs'.left, ih (hs'.right ?_)⟩
    intro hlast
    rcases follows_of_getLast? h hlast with rfl | ⟨t, rfl⟩ <;> simp

theorem returned_of_parse {source : List Char} {f : File} (h : File.parse source = .ok f)
    (hs : FeedsReturned source) : ∀ w ∈ f.words, FeedsReturned w.text := by
  obtain ⟨ls, hls, hwords⟩ := lexemes_of_parse h
  rw [hwords]
  exact returned_of_cutsOff (cutsOff_of_lexemesFrom hls) hs

theorem feedsReturned_textOf {ws : List Word} (h : ∀ w ∈ ws, FeedsReturned w.text) :
    FeedsReturned (textOf ws) := by
  induction ws with
  | nil => exact feedsReturned_of_notMem (by simp)
  | cons w ws ih =>
    obtain ⟨hw, hws⟩ := List.forall_mem_cons.1 h
    rw [textOf_cons]
    exact hw.append (ih hws)

theorem Kept.feedsReturned {ws : List Word} {w : Word} (h : Kept ws w)
    (hws : ∀ v ∈ ws, FeedsReturned v.text) : FeedsReturned w.text := by
  rcases h with rfl | ⟨v, hv, rfl⟩
  · exact feedsReturned_of_notMem (by decide)
  · obtain ⟨behind, hbehind⟩ := v.trimmed_isPrefix
    have hv' := hws v hv
    rw [← hbehind] at hv'
    exact hv'.left

/-! ### The end of a line -/

section
variable {f : File}

theorem text_of_mem_newline {w : Word} (h : FromText f.words) (hw : w ∈ f.words) (hk : w.kind = .newline) :
    w.text = ['\n'] ∨ w.text = ['\r', '\n'] := by
  have halone := h.alone w hw
  rw [Word.trimmed_of_ne (by rw [hk]; exact Kind.noConfusion)] at halone
  exact text_of_newline halone hk

/-- Lines end like one of the lines of the source, or with a line feed if no line of it ends. -/
theorem lineEndOf_cases (f : File) :
    (∃ w ∈ f.words, w.kind = .newline ∧ lineEndOf f = w.text) ∨
      (∀ w ∈ f.words, w.kind ≠ .newline) ∧ lineEndOf f = ['\n'] := by
  unfold lineEndOf firstLineEnd?
  cases hw : f.words.find? fun w => w.kind == .newline with
  | none => exact .inr ⟨by simpa using hw, rfl⟩
  | some w =>
    have hkind : w.kind = .newline := by simpa using List.find?_some hw
    exact .inl ⟨w, List.mem_of_find?_eq_some hw, hkind, rfl⟩

theorem lineEndOf_eq (h : FromText f.words) : lineEndOf f = ['\n'] ∨ lineEndOf f = ['\r', '\n'] := by
  rcases lineEndOf_cases f with ⟨w, hw, hk, hend⟩ | ⟨-, hend⟩
  · rw [hend]
    exact text_of_mem_newline h hw hk
  · exact .inl hend

theorem feedsReturned_lineEndOf (h : ∀ w ∈ f.words, FeedsReturned w.text)
    (hnewline : ∃ w ∈ f.words, w.kind = .newline) : FeedsReturned (lineEndOf f) := by
  rcases lineEndOf_cases f with ⟨w, hw, -, hend⟩ | ⟨hno, -⟩
  · rw [hend]
    exact h w hw
  · obtain ⟨w, hw, hk⟩ := hnewline
    exact absurd hk (hno w hw)

/-! ### The end of a file -/

/-- The text of a file is blank if all its elements are. -/
theorem isAllBlank_textOf_iff (h : FromText f.words) :
    isAllBlank (textOf f.words) = true ↔ ∀ e ∈ f.elements, isBlankElement e = true := by
  constructor
  · intro hblank e he
    by_contra hcontent
    have hall : ∀ w ∈ e.words, ∀ c ∈ w.text, isBlank c = true := by
      intro w hw c hc
      refine List.all_eq_true.1 hblank c (List.mem_flatMap.2 ⟨w, ?_, hc⟩)
      exact List.mem_flatMap.2 ⟨e, he, hw⟩
    cases e with
    | space p => exact hcontent rfl
    | newline p => exact hcontent rfl
    | command c =>
      have hparen : openWord ∈ c.words := by simp [Command.words]
      exact absurd (hall openWord hparen '(' (.head _)) (by decide)
    | comment kind p =>
      have hw := alone_of_mem h _ he ⟨kind.lexemeKind, p.text⟩ (.head _)
      obtain ⟨s, c, htext, hc⟩ := text_of_comment hw (by cases kind <;> simp [CommentKind.lexemeKind])
      have hmem : c ∈ p.text := by
        refine (Word.trimmed_isPrefix ⟨kind.lexemeKind, p.text⟩).subset ?_
        rw [htext]
        simp
      rw [hall _ (.head _) c hmem] at hc
      cases hc
  · intro hes
    exact List.all_eq_true.2 (isBlank_of_mem_textOf hes (alone_of_mem h))

theorem layFile_of_blank (style : Style) (hes : ∀ e ∈ f.elements, isBlankElement e = true) :
    layFile style f = ⟨layElements style 0 f.elements⟩ := by
  unfold layFile
  rw [List.all_eq_true.2 hes]
  simp

/-- **A file with content ends with content and one end of a line.** -/
theorem words_layFile {style : Style} (h : FromText f.words) (hfinal : style.finalNewline = true)
    (hcontent : ¬∀ e ∈ f.elements, isBlankElement e = true) :
    ∃ ws s c, (layFile style f).words = ws ++ [⟨.newline, lineEndOf f⟩] ∧ (∀ w ∈ ws, Kept f.words w) ∧
      textOf ws = s ++ [c] ∧ isBlank c = false := by
  rcases contentOf_cases f.elements with ⟨hall, -⟩ | ⟨as, e, bs, hes, he, -, hcut⟩
  · exact absurd hall hcontent
  · have hmem : e ∈ f.elements := by
      rw [hes]
      simp
    have hnot : f.elements.all isBlankElement = false := by
      rw [hes]
      simp [he]
    have hsub : (as ++ [e]).flatMap Element.words ⊆ f.words := by
      have hwords : f.words = (as ++ [e]).flatMap Element.words ++ bs.flatMap Element.words := by
        rw [File.words, hes, ← List.flatMap_append]
        simp
      rw [hwords]
      exact List.subset_append_left _ _
    obtain ⟨s, c, htext, hc⟩ := textOf_layElements_concat style 0 as he (alone_of_mem h e hmem)
    refine ⟨(layElements style 0 (as ++ [e])).flatMap Element.words, s, c, ?_,
      fun w hw => (kept_layElements w hw).mono hsub, htext, hc⟩
    unfold layFile
    rw [hfinal, hnot, hcut]
    show File.words ⟨layElements style 0 (as ++ [e]) ++ [.newline ⟨0, lineEndOf f⟩]⟩ = _
    rw [File.words, List.flatMap_append]
    rfl

/-- Line feeds keep their carriage returns if an end of a line that is added looks like one of the source. -/
theorem feedsReturned_layFile {style : Style} (h : ∀ w ∈ f.words, FeedsReturned w.text)
    (hnewline : style.finalNewline = true → ∃ w ∈ f.words, w.kind = .newline) :
    FeedsReturned (textOf (layFile style f).words) := by
  refine feedsReturned_textOf fun w hw => ?_
  rcases kept_layFile w hw with hkept | ⟨hfinal, rfl⟩
  · exact hkept.feedsReturned h
  · exact feedsReturned_lineEndOf h (hnewline hfinal)

/-- The characters of a layout are those of its file, blanks and line feeds. -/
theorem mem_textOf_layFile {style : Style} {c : Char} (h : c ∈ textOf (layFile style f).words) :
    c ∈ textOf f.words ∨ c = ' ' ∨ c = '\n' := by
  obtain ⟨w, hw, hc⟩ := List.mem_flatMap.1 h
  rcases kept_layFile w hw with (rfl | ⟨v, hv, rfl⟩) | ⟨-, rfl⟩
  · exact .inr (.inl (List.mem_singleton.1 hc))
  · exact .inl (List.mem_flatMap.2 ⟨v, hv, v.trimmed_isPrefix.subset hc⟩)
  · rcases lineEndOf_cases f with ⟨v, hv, -, hend⟩ | ⟨-, hend⟩
    · exact .inl (List.mem_flatMap.2 ⟨v, hv, hend ▸ hc⟩)
    · have hc' : c ∈ lineEndOf f := hc
      rw [hend] at hc'
      exact .inr (.inr (List.mem_singleton.1 hc'))

end

/-! ### Files -/

/-- A file without the end of a line has no line feed if all of it is blank. -/
theorem newline_of_blank {f : File} (h : FromText f.words)
    (hes : ∀ e ∈ f.elements, isBlankElement e = true) (hfeed : '\n' ∈ textOf f.words) :
    ∃ w ∈ f.words, w.kind = .newline := by
  obtain ⟨w, hw, hc⟩ := List.mem_flatMap.1 hfeed
  obtain ⟨e, he, hwe⟩ := List.mem_flatMap.1 hw
  have hblank := hes e he
  cases e with
  | command c => cases hblank
  | comment kind p => cases hblank
  | newline p => exact ⟨w, hw, by rw [List.mem_singleton.1 hwe]⟩
  | space p =>
    rw [List.mem_singleton.1 hwe] at hc
    have halone := alone_of_mem h _ he ⟨.space, p.text⟩ (.head _)
    exact absurd (text_of_space halone rfl '\n' hc) (by decide)

/-- **Lines keep how they end.**  Nothing gets a carriage return from a source without any.  If in a source with
line feeds all of them stand behind carriage returns, so do those of what is returned, unless the end of a line
has to be added at the end of the file and no line of the source ends outside of arguments and comments.  Then
the one that is added is a line feed alone. -/
theorem feedsReturned_format (style : Style) {source : List Char} {f : File}
    (h : File.parse source = .ok f) :
    ∃ out, format style source = .ok out ∧ ('\r' ∉ source → '\r' ∉ out) ∧
      ('\n' ∈ source → FeedsReturned source →
        (FeedsReturned out ↔ (style.finalNewline = true → ∃ w ∈ f.words, w.kind = .newline)) ∧
          (FeedsReturned out ∨ ∃ front, out = front ++ ['\n'] ∧ FeedsReturned front)) := by
  obtain ⟨htext, hwords⟩ := words_of_parse h
  refine ⟨fileText style f, format_of_parse h, ?_, ?_⟩
  · intro hno hmem
    rw [fileText_eq_textOf hwords] at hmem
    rcases mem_textOf_layFile hmem with hmem | hmem | hmem
    · exact hno (htext ▸ hmem)
    · cases hmem
    · cases hmem
  intro hfeed hsource
  have hreturned := returned_of_parse h hsource
  rw [fileText_eq_textOf hwords]
  by_cases hnewline : style.finalNewline = true → ∃ w ∈ f.words, w.kind = .newline
  · have hout := feedsReturned_layFile hreturned hnewline
    exact ⟨iff_of_true hout hnewline, .inl hout⟩
  · obtain ⟨hfinal, hno⟩ := Classical.not_imp.1 hnewline
    have hcontent : ¬∀ e ∈ f.elements, isBlankElement e = true := by
      intro hes
      exact hno (newline_of_blank hwords hes (htext ▸ hfeed))
    obtain ⟨ws, s, c, hlaid, hkept, hfront, hc⟩ := words_layFile hwords hfinal hcontent
    have hline : lineEndOf f = ['\n'] := by
      rcases lineEndOf_cases f with ⟨w, hw, hk, -⟩ | ⟨-, hline⟩
      · exact absurd ⟨w, hw, hk⟩ hno
      · exact hline
    have hout : textOf (layFile style f).words = textOf ws ++ ['\n'] := by
      rw [hlaid, hline, textOf_append]
      rfl
    rw [hout]
    refine ⟨iff_of_false ?_ hnewline, .inr ⟨textOf ws, rfl, ?_⟩⟩
    · intro hall
      have hlast := hall (textOf ws) [] rfl
      rw [hfront, List.getLast?_concat] at hlast
      cases hlast
      exact absurd hc (by decide)
    · exact feedsReturned_textOf fun w hw => (hkept w hw).feedsReturned hreturned

/-- Lines that end in an argument between quotation marks, in a bracket, behind a comment and behind a command. -/
theorem feedsReturned_format_arguments :
    ∃ f, File.parse (withReturns "a(\"\n\") #\n\nb([[\n]]\n)".toList) = .ok f ∧
      ∃ out, format {} (withReturns "a(\"\n\") #\n\nb([[\n]]\n)".toList) = .ok out ∧ FeedsReturned out := by
  obtain ⟨f, hf⟩ := exists_of_isOk
    (show (File.parse (withReturns "a(\"\n\") #\n\nb([[\n]]\n)".toList)).isOk = true by decide +kernel)
  have hnewline : (File.parse (withReturns "a(\"\n\") #\n\nb([[\n]]\n)".toList)).map
      (fun f => f.words.any fun w => w.kind == .newline) = .ok true := by
    decide +kernel
  obtain ⟨f', hf', hany⟩ := map_eq_ok.1 hnewline
  rw [hf] at hf'
  cases hf'
  obtain ⟨w, hw, hk⟩ := List.any_eq_true.1 hany
  obtain ⟨out, hout, -, hreturned⟩ := feedsReturned_format {} hf
  refine ⟨f, hf, out, hout, ?_⟩
  exact (hreturned (by decide) (feedsReturned_withReturns _)).1.2 fun _ => ⟨w, hw, by simpa using hk⟩

/-- The only end of a line is within an argument, and the one that is added looks different. -/
theorem not_forall_feedsReturned :
    ¬∀ (style : Style) (source out : List Char), format style source = .ok out → '\n' ∈ source →
      FeedsReturned source → FeedsReturned out := by
  intro hall
  have hformat : format {} "a(\"\r\n\")".toList = .ok "a(\"\r\n\")\n".toList := by decide +kernel
  have hsource : FeedsReturned "a(\"\r\n\")".toList := feedsReturned_withReturns "a(\"\n\")".toList
  have hlast := hall _ _ _ hformat (by decide) hsource "a(\"\r\n\")".toList [] rfl
  cases hlast

/-- The text ends with the end of a line, and before it stands a character that ends no line. -/
def EndsWithLine (text : List Char) : Prop :=
  ∃ front c lineEnd, text = front ++ [c] ++ lineEnd ∧ isLineEnd c = false ∧
    (lineEnd = ['\n'] ∨ lineEnd = ['\r', '\n'])

end Listfile.Layout
