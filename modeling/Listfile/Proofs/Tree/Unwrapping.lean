import Listfile.Proofs.Outcome
import Listfile.Proofs.Text.Spans
import Listfile.Proofs.Tree.Building
import Listfile.Proofs.Tree.Forming

/-!
# The contents of arguments

The content of an argument is found by its text alone, which does not say any more how it was cut off.  For
arguments that were read from a text it is just what stands between the marks.

* `Item.Has`, `File.Has`: the arguments of a tree.
* `ArgumentKind.Delimits`: a content with its marks around it is a text, and the marks do not end it earlier.
* `ArgumentKind.CutsWithin`: the cuts that are made to find a content lie between characters of the text.
* **`delimits_content_of_parse`**: the arguments of a tree are delimited by their marks.
-/

namespace Listfile.Tree

/-! ### Arguments of trees -/

/-- The argument is the item, or stands in it. -/
inductive Item.Has (a : Argument) : Item → Prop
  | argument : Item.Has a (.argument a.kind a.piece)
  | group {openAt closeAt : Nat} {items : List Item} {i : Item} (hi : i ∈ items) (h : Item.Has a i) :
    Item.Has a (.group openAt items closeAt)

/-- The argument stands in a command of the file. -/
def File.Has (f : File) (a : Argument) : Prop :=
  ∃ c, Element.command c ∈ f.elements ∧ ∃ i ∈ c.arguments.items, i.Has a

theorem Item.has_group_iff {a : Argument} {openAt closeAt : Nat} {items : List Item} :
    (Item.group openAt items closeAt).Has a ↔ ∃ i ∈ items, i.Has a := by
  constructor
  · rintro ⟨⟩
    exact ⟨_, ‹_›, ‹_›⟩
  · rintro ⟨i, hi, h⟩
    exact .group hi h

mutual

theorem Item.mem_arguments_iff (a : Argument) : ∀ i : Item, a ∈ i.arguments ↔ i.Has a
  | .argument kind p => by
    rw [Item.arguments, List.mem_singleton]
    constructor
    · rintro rfl
      exact .argument
    · rintro ⟨⟩
      rfl
  | .group _ items _ => by
    rw [Item.arguments, Item.has_group_iff]
    exact mem_argumentsOf_iff a items
  | .space _ | .newline _ | .comment _ _ => by
    rw [Item.arguments]
    exact ⟨nofun, nofun⟩

theorem mem_argumentsOf_iff (a : Argument) :
    ∀ items : List Item, a ∈ argumentsOf items ↔ ∃ i ∈ items, i.Has a
  | [] => by simp [argumentsOf]
  | item :: items => by
    rw [argumentsOf, List.mem_append, item.mem_arguments_iff a, mem_argumentsOf_iff a items]
    exact List.exists_mem_cons_iff _ _ _ |>.symm

end

/-- The arguments of a tree are those of its commands. -/
theorem File.has_iff {f : File} {a : Argument} : f.Has a ↔ ∃ c ∈ f.commands, a ∈ c.flatArguments := by
  constructor
  · rintro ⟨c, hc, hi⟩
    exact ⟨c, List.mem_filterMap.2 ⟨_, hc, rfl⟩, (mem_argumentsOf_iff a _).2 hi⟩
  · rintro ⟨c, hc, ha⟩
    obtain ⟨e, he, hec⟩ := List.mem_filterMap.1 hc
    cases e with
    | command d =>
      cases hec
      exact ⟨c, he, (mem_argumentsOf_iff a _).1 ha⟩
    | _ => cases hec

/-! ### What it means to be delimited -/

/-- Every quotation mark in the text is escaped: the number of backslashes directly before it is odd. -/
def MarksEscaped (text : List Char) : Prop :=
  ∀ front behind, text = front ++ '"' :: behind → backslashesBehind front % 2 = 1

/-- The content with the marks of the kind around it is the text, and these marks do not end it earlier. -/
def ArgumentKind.Delimits (text content : List Char) : ArgumentKind → Prop
  | quoted =>
    text = '"' :: (content ++ ['"']) ∧ MarksEscaped content ∧ backslashesBehind content % 2 = 0
  | bracket =>
    ∃! level, text = '[' :: bracketText level content ∧ EndsAtFirst (bracketCloser level) content
  | unquoted => content = text

/-- How long the marks around the content of a bracket are, as its text tells. -/
def bracketWidth (text : List Char) : Nat := (text.tail.takeWhile (· == '=')).length + 2

/-- The cuts that are made to find the content lie between characters of the text: the one behind its first
byte, where the equals signs begin, and those around the content of a bracket. -/
def ArgumentKind.CutsWithin (text content : List Char) : ArgumentKind → Prop
  | bracket =>
    (Span.mk 1 (byteLength text)).slice? text = some text.tail ∧
      (Span.mk (bracketWidth text) (byteLength text - bracketWidth text)).slice? text = some content
  | quoted | unquoted => True

/-! ### Quotations -/

/-- Of what may stand between quotation marks every quotation mark is escaped, and so is not the one behind. -/
theorem Quotable.marksEscaped {s : List Char} (h : Quotable s) :
    MarksEscaped s ∧ backslashesBehind s % 2 = 0 := by
  induction h with
  | nil =>
    refine ⟨?_, rfl⟩
    intro front behind hs
    simp at hs
  | @plain c cs hb hq _ ih =>
    rw [backslashesBehind_cons hb]
    refine ⟨?_, ih.2⟩
    intro front behind hs
    cases front with
    | nil => exact absurd (List.cons.inj hs).1 hq
    | cons d front =>
      obtain ⟨rfl, htail⟩ := List.cons.inj hs
      rw [backslashesBehind_cons hb]
      exact ih.1 front behind htail
  | @escaped c cs _ ih =>
    rw [backslashesBehind_pair]
    refine ⟨?_, ih.2⟩
    intro front behind hs
    match front, hs with
    | [], hs => exact absurd (List.cons.inj hs).1 (by decide)
    | [d], hs =>
      obtain ⟨rfl, -⟩ := List.cons.inj hs
      rfl
    | d :: e :: front, hs =>
      obtain ⟨rfl, hpair⟩ := List.cons.inj hs
      obtain ⟨rfl, htail⟩ := List.cons.inj hpair
      rw [backslashesBehind_pair]
      exact ih.1 front behind htail

@[simp] theorem unquote_marks (body : List Char) : unquote ('"' :: (body ++ ['"'])) = body := by
  simp [unquote]

/-! ### Brackets -/

theorem byteLength_signsAnd (level : Nat) {mark : Char} (h : mark.utf8Size = 1) :
    byteLength (signsAnd level mark) = level + 1 := by
  have hsigns : byteLength (List.replicate level '=') = level := by
    induction level with
    | zero => rfl
    | succ n ih =>
      rw [List.replicate_succ, byteLength_cons, ih, show '='.utf8Size = 1 from rfl, Nat.add_comm]
  rw [signsAnd, byteLength_append, hsigns, byteLength_cons, byteLength_nil, h]

/-- The width that the text of a bracket tells agrees with the level by which it was cut off. -/
theorem bracketWidth_of_bracketLevel? {cs : List Char} {level : Nat} (h : bracketLevel? cs = some level) :
    bracketWidth ('[' :: cs) = level + 2 := by
  unfold bracketLevel? at h
  split at h
  · rw [← Option.some.inj h]
    rfl
  · cases h

/-- **The content of a bracket is cut out between its marks**, whatever it begins and ends with. -/
theorem cutsWithin_bracket (level : Nat) (body : List Char) :
    ArgumentKind.bracket.CutsWithin ('[' :: bracketText level body) body := by
  have hopening : byteLength ('[' :: signsAnd level '[') = level + 2 := by
    rw [byteLength_cons, byteLength_signsAnd level rfl, show '['.utf8Size = 1 from rfl]
    omega
  have hcloser : byteLength (bracketCloser level) = level + 2 := by
    rw [bracketCloser, byteLength_cons, byteLength_signsAnd level rfl, show ']'.utf8Size = 1 from rfl]
    omega
  have htext : '[' :: bracketText level body
      = ('[' :: signsAnd level '[') ++ (body ++ bracketCloser level) := by simp [bracketText]
  have hwidth := bracketWidth_of_bracketLevel? (bracketLevel?_bracketText level body)
  have hlength : byteLength ('[' :: bracketText level body) - (level + 2) = level + 2 + byteLength body := by
    rw [htext, byteLength_append, byteLength_append, hopening, hcloser]
    omega
  refine ⟨slice?_eq_some_iff.2 ⟨['['], [], by simp, rfl, ?_⟩, slice?_eq_some_iff.2
    ⟨'[' :: signsAnd level '[', bracketCloser level, htext, ?_, ?_⟩⟩
  · exact byteLength_cons '[' _
  · rw [hopening]
    exact hwidth
  · rw [hopening, ← hlength, hwidth]

theorem unbracket_of_cutsWithin {text content : List Char}
    (h : ArgumentKind.bracket.CutsWithin text content) : unbracket text = content := by
  show ((Span.mk (bracketWidth text) (byteLength text - bracketWidth text)).slice? text).getD [] = content
  rw [h.2]
  rfl

theorem exists_of_scanSquare {cs more rest : List Char} (h : scanSquare cs = .found .bracket more rest) :
    ∃ level body, more = bracketText level body ∧ EndsAtFirst (bracketCloser level) body := by
  unfold scanSquare at h
  split at h
  · rename_i level _
    obtain ⟨body, rfl, hfirst⟩ := exists_of_scanBracket h
    exact ⟨level, body, rfl, hfirst⟩
  · cases h

/-! ### Words of arguments -/

/-- The word that an argument is. -/
def Argument.word (a : Argument) : Word := ⟨a.kind.lexemeKind a.piece.text, a.piece.text⟩

theorem mem_wordsOf {w : Word} {i : Item} {items : List Item} (hi : i ∈ items) (hw : w ∈ i.words) :
    w ∈ wordsOf items := by
  induction items with
  | nil => cases hi
  | cons j items ih =>
    rw [wordsOf, List.mem_append]
    rcases List.mem_cons.1 hi with rfl | hi
    · exact .inl hw
    · exact .inr (ih hi)

theorem Item.Has.mem_words {a : Argument} {i : Item} (h : i.Has a) : a.word ∈ i.words := by
  induction h with
  | argument => exact List.mem_singleton_self _
  | group hi _ ih =>
    rw [Item.words]
    exact List.mem_append_left _ (List.mem_cons_of_mem _ (mem_wordsOf hi ih))

theorem File.Has.mem_words {f : File} {a : Argument} (h : f.Has a) : a.word ∈ f.words := by
  obtain ⟨c, hc, i, hi, ha⟩ := h
  refine List.mem_flatMap.2 ⟨_, hc, ?_⟩
  show a.word ∈ c.words
  rw [Command.words]
  exact List.mem_append_right _
    (List.mem_append_left _ (List.mem_cons_of_mem _ (mem_wordsOf hi ha.mem_words)))

theorem ArgumentKind.lexemeKind_ne (kind : ArgumentKind) (text : List Char) :
    kind.lexemeKind text ≠ .lineComment := by
  cases kind with
  | unquoted =>
    rw [lexemeKind]
    split <;> decide
  | bracket | quoted => exact nofun

/-- An argument that is cut off as a whole is delimited by its marks. -/
theorem delimits_of_standsAlone {a : Argument} (h : a.word.StandsAlone) :
    a.kind.Delimits a.piece.text a.content ∧ a.kind.CutsWithin a.piece.text a.content := by
  obtain ⟨kind, start, text⟩ := a
  obtain ⟨c, more, htext, hscan⟩ := h
  have hc := beginsWith_of_scan hscan
  have htext : text = c :: more := htext
  subst htext
  show kind.Delimits (c :: more) (kind.content (c :: more)) ∧
    kind.CutsWithin (c :: more) (kind.content (c :: more))
  cases kind with
  | unquoted => exact ⟨rfl, trivial⟩
  | quoted =>
    obtain rfl : c = '"' := hc
    obtain ⟨body, hmore, hbody⟩ : ∃ body, '"' :: more = '"' :: (body ++ ['"']) ∧ Quotable body :=
      forms_of_scan hscan
    rw [hmore, ArgumentKind.content, unquote_marks]
    exact ⟨⟨rfl, hbody.marksEscaped⟩, trivial⟩
  | bracket =>
    obtain rfl : c = '[' := hc
    obtain ⟨level, body, rfl, hfirst⟩ := exists_of_scanSquare hscan
    have hcuts := cutsWithin_bracket level body
    rw [ArgumentKind.content, unbracket_of_cutsWithin hcuts]
    refine ⟨⟨level, ⟨rfl, hfirst⟩, ?_⟩, hcuts⟩
    rintro other ⟨hother, -⟩
    have hlevel := bracketLevel?_bracketText other body
    rw [← (List.cons.inj hother).2, bracketLevel?_bracketText] at hlevel
    exact (Option.some.inj hlevel).symm

/-! ### Trees of texts -/

/-- **What was read as an argument is its content between its marks.**  A quotation is its content between
quotation marks, of which those in the content are all escaped and the one behind it is not.  A bracket is its
content between an opener and a closer of one level, and that closer does not come earlier.  Any other argument
is its own content.  The cuts with which the content is found lie between characters of the text. -/
theorem delimits_content_of_parse {source : List Char} {f : File} (h : File.parse source = .ok f)
    {a : Argument} (ha : f.Has a) :
    a.kind.Delimits a.piece.text a.content ∧ a.kind.CutsWithin a.piece.text a.content := by
  have halone := (words_of_parse h).2.alone a.word ha.mem_words
  rw [Word.trimmed_of_ne (a.kind.lexemeKind_ne a.piece.text)] at halone
  exact delimits_of_standsAlone halone

/-- A bracket in a group, whose content begins with an equals sign and ends with a part of what closes it. -/
theorem delimits_content_of_parse_bracket : ∃ f a,
    File.parse "f(\"\\\"\\\\\" ([==[=a]=]==]))".toList = .ok f ∧ f.Has a ∧
      a.piece.text = "[==[=a]=]==]".toList ∧ a.content = "=a]=".toList ∧
      a.kind.Delimits a.piece.text a.content ∧ a.kind.CutsWithin a.piece.text a.content := by
  have hparse : (File.parse "f(\"\\\"\\\\\" ([==[=a]=]==]))".toList).map
      (fun f => f.commands.map Command.flatArguments)
        = .ok [[⟨.quoted, ⟨2, "\"\\\"\\\\\"".toList⟩⟩, ⟨.bracket, ⟨10, "[==[=a]=]==]".toList⟩⟩]] := by
    decide +kernel
  obtain ⟨f, hf, hcommands⟩ := map_eq_ok.1 hparse
  have ha : f.Has ⟨.bracket, ⟨10, "[==[=a]=]==]".toList⟩⟩ := by
    obtain ⟨c, hc⟩ := List.map_eq_singleton_iff.1 hcommands
    refine File.has_iff.2 ⟨c, by simp [hc.1], ?_⟩
    rw [hc.2]
    decide
  exact ⟨f, _, hf, ha, rfl, by decide +kernel, delimits_content_of_parse hf ha⟩

end Listfile.Tree
