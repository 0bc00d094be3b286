import Listfile.Proofs.Highlight.Commanding
import Listfile.Proofs.Tree.Forming

/-!
# Arguments between quotation marks

Highlighting and cutting into lexemes agree on where an argument between quotation marks ends, whatever lines and
escapes it has.

* `Enclosable`: text between quotation marks that opens no references.
* `Comes.enclosed`: highlighting passes such text without events.
* **`highlight_quoted`**: the context of the argument is entered at the first quotation mark and left at the last.
-/

namespace Listfile.Highlight

open Grammar Regex Listfile.Tree

/-! ### Text without references -/

/-- What a dollar sign opens a reference with. -/
def referenceOpeners : List String := ["\x7b", "ENV\x7b", "CACHE\x7b", "(", "<"]

/-- No dollar sign opens a reference, unless it is escaped: the number of backslashes directly before it is odd. -/
def OpensNoReference (body : List Char) : Prop :=
  ∀ front behind, body = front ++ '$' :: behind → backslashesBehind front % 2 = 0 →
    ∀ opener ∈ referenceOpeners, ¬ opener.toList <+: behind

theorem quote_notMem_of_opener : ∀ opener ∈ referenceOpeners, '"' ∉ opener.toList := by decide

theorem opensNoReference_iff {body : List Char} : OpensNoReference body ↔
    ∀ i < body.length, body[i]? = some '$' → backslashesBehind (body.take i) % 2 = 0 →
      ∀ opener ∈ referenceOpeners, ¬ opener.toList <+: body.drop (i + 1) := by
  constructor
  · intro h i hi hdollar
    refine h (body.take i) (body.drop (i + 1)) ?_
    obtain ⟨hlt, hget⟩ := List.getElem?_eq_some_iff.1 hdollar
    rw [← hget, ← List.drop_eq_getElem_cons hlt, List.take_append_drop]
  · rintro h front behind rfl
    simpa using h front.length (by simp)

instance (body : List Char) : Decidable (OpensNoReference body) := decidable_of_iff _ opensNoReference_iff.symm

/-- Text that may stand between quotation marks and opens no references. -/
structure Enclosable (body : List Char) : Prop where
  quotable : Quotable body
  free : OpensNoReference body

section
variable {c d : Char} {cs u v : List Char}

theorem Enclosable.plain (hc : c ≠ '\\') (h : Enclosable (c :: cs)) : c ≠ '"' ∧ Enclosable cs := by
  obtain ⟨hquotable, hfree⟩ := h
  cases hquotable with
  | escaped => exact absurd rfl hc
  | plain _ hq hquotable =>
    refine ⟨hq, hquotable, fun front behind hcs heven => hfree (c :: front) behind (by rw [hcs]; rfl) ?_⟩
    rwa [backslashesBehind_cons hc]

theorem Enclosable.escaped (h : Enclosable ('\\' :: cs)) : ∃ d ds, cs = d :: ds ∧ Enclosable ds := by
  obtain ⟨hquotable, hfree⟩ := h
  cases hquotable with
  | plain hb => exact absurd rfl hb
  | @escaped d ds hquotable =>
    refine ⟨d, ds, rfl, hquotable, fun front behind hds heven => ?_⟩
    refine hfree ('\\' :: d :: front) behind (by rw [hds]; rfl) ?_
    rwa [backslashesBehind_pair]

/-- Text without backslashes may be left out. -/
theorem Enclosable.drop (hu : '\\' ∉ u) (h : Enclosable (u ++ v)) : Enclosable v := by
  induction u with
  | nil => exact h
  | cons c u ih =>
    refine ih (fun hmem => hu (List.mem_cons_of_mem c hmem)) (Enclosable.plain ?_ h).2
    rintro rfl
    exact hu List.mem_cons_self

end

/-! ### Rules -/

section
variable {g : Grammar} {text body behind : List Char} {n : Nat} {captures : List (Option (List Char))}
  {below : Stack} {events : List Event}

theorem IsListFiles.quoted (hg : IsListFiles g) : List.Forall₂ Obeys quotedSketches (g.context 12).rules :=
  hg.obeys rfl rfl

/-- No rule matches at the end of a line. -/
theorem findMatch_quoted_of_nil (hg : IsListFiles g) {place : Cursor} (hplace : place.after = []) :
    findMatch g (⟨12, captures⟩ :: below) place = none := by
  refine findSome?_of_all (IsListFiles.quoted hg) ?_
  rw [hplace]
  rfl

/-- A backslash is matched with the character behind it, if no rule before those for escapes may match. -/
theorem exists_escape (front behind : List Sketch) (d : Char) (ds : List Char)
    (hfront : front.all (Sketch.excludes ('\\' :: d :: ds)) = true) : ∃ s others,
    (front ++ (escapeSketches ++ behind)).dropWhile (Sketch.excludes ('\\' :: d :: ds))
      = ⟨.sets [.single '\\', s], .stay, []⟩ :: others := by
  have hone (s : CharSet) : Sketch.excludes ('\\' :: d :: ds) ⟨.sets [.single '\\', s], .stay, []⟩
      = !s.contains d := by
    simp [Sketch.excludes, Trait.excludes, fitsFront, CharSet.contains]
  have hsome : escapable.contains d = true ∨ alphanumerics.contains d = true := by
    simp [escapable, alphanumerics, CharSet.contains]
    grind
  rw [List.dropWhile_append_of_pos (List.all_eq_true.1 hfront)]
  unfold escapeSketches
  rw [List.cons_append]
  by_cases hd : escapable.contains d = true
  · exact ⟨_, _, List.dropWhile_cons_of_neg (by simp [hone, hd])⟩
  · rw [List.dropWhile_cons_of_pos (by simp [hone, hd])]
    exact ⟨_, _, List.dropWhile_cons_of_neg (by simp [hone, hsome.resolve_left hd])⟩

/-- Text that opens no reference is passed without crossing quotation marks or backslashes. -/
theorem all_of_plain {c : Char} {cs : List Char} (hb : c ≠ '\\') (hq : c ≠ '"')
    (hfree : c = '$' → ∀ opener ∈ referenceOpeners, ¬ opener.toList <+: cs) :
    quotedSketches.all (fun k => k.excludes (c :: cs) || k.staysOff ['"', '\\']) = true := by
  have hopener {o : String} (ho : o ∈ referenceOpeners) (action : Action) :
      Sketch.excludes (c :: cs) ⟨.text ("$" ++ o), action, []⟩ = true := by
    rw [excludes_text, String.toList_append]
    intro hprefix
    obtain ⟨hc, hmore⟩ := List.cons_prefix_cons.1 hprefix
    exact hfree hc.symm o ho hmore
  have hopeners : ∀ k ∈ openerSketches, k.excludes (c :: cs) = true := by
    simp only [openerSketches, List.forall_mem_cons]
    exact ⟨hopener (o := "\x7b") (by decide) _, hopener (o := "ENV\x7b") (by decide) _,
      hopener (o := "CACHE\x7b") (by decide) _, hopener (o := "(") (by decide) _, hopener (o := "<") (by decide) _,
      List.forall_mem_nil _⟩
  simp only [quotedSketches, escapeSketches, List.all_append, List.all_cons, List.all_nil, Bool.and_true,
    Bool.and_eq_true, Bool.or_eq_true, List.all_eq_true]
  exact ⟨⟨⟨⟨.inl (excludes_of_first? rfl hq cs), .inl (excludes_of_first? rfl hb cs),
    .inl (excludes_of_first? rfl hb cs)⟩, .inl (excludes_of_first? rfl hb cs)⟩,
    fun k hk => .inl (hopeners k hk)⟩, .inr rfl, .inr rfl, .inr rfl⟩

/-! ### Ways through the argument -/

/-- At the end of a line the next one follows, which belongs to the argument too. -/
theorem Comes.enclosed_newline (hg : IsListFiles g) (hend : restOfLine (body ++ '"' :: behind) = [])
    (hbody : Enclosable body.tail)
    (h : Comes g text n (body ++ '"' :: behind) (⟨12, captures⟩ :: below) events) :
    ∃ u v, body = u ++ v ∧ Enclosable v ∧ u ≠ [] ∧
      Comes g text (n + byteLength u) (v ++ '"' :: behind) (⟨12, captures⟩ :: below) events := by
  obtain ⟨u, v, hu, rfl⟩ := exists_ending (by decide) hend
  have hv : Enclosable v := by
    rcases hu with rfl | rfl
    · exact hbody
    · exact (Enclosable.plain (by decide) hbody).2
  have hne : u ≠ [] := by rcases hu with rfl | rfl <;> exact List.cons_ne_nil _ _
  rw [List.append_assoc] at h
  refine ⟨u, v, rfl, hv, hne, h.newline hu ?_ fun _ hplace => findMatch_quoted_of_nil hg hplace⟩
  exact List.append_ne_nil_of_right_ne_nil v (List.cons_ne_nil _ _)

/-- A backslash takes the character behind it along, or the end of its line. -/
theorem Comes.enclosed_escape (hg : IsListFiles g) {d : Char} {ds : List Char} (hds : Enclosable ds)
    (h : Comes g text n ('\\' :: d :: ds ++ '"' :: behind) (⟨12, captures⟩ :: below) events) :
    ∃ u v, '\\' :: d :: ds = u ++ v ∧ Enclosable v ∧ u ≠ [] ∧
      Comes g text (n + byteLength u) (v ++ '"' :: behind) (⟨12, captures⟩ :: below) events := by
  have hrules := IsListFiles.quoted hg
  have hahead : restOfLine ('\\' :: d :: ds ++ '"' :: behind) = '\\' :: restOfLine (d :: ds ++ '"' :: behind) :=
    restOfLine_append_of_oneLine (u := ['\\']) (by decide) (d :: ds ++ '"' :: behind)
  by_cases hend : restOfLine (d :: ds ++ '"' :: behind) = []
  · -- whether or not a rule matches the backslash at the end of the line, it is passed alone
    rw [hend] at hahead
    obtain ⟨u, rest', -, hu, hprefix, hrest, hnext⟩ := h.moves (by rw [hahead]; exact List.cons_ne_nil _ _)
      (P := fun u => ∀ x ∈ ['"'], x ∉ u) fun place hplace =>
        fires_of_staysOff hrules (List.cons_ne_nil _ _) (by rw [hplace, hahead]; rfl)
    obtain rfl : u = ['\\'] := by
      rw [hahead] at hprefix
      obtain ⟨e, u, rfl⟩ := List.exists_cons_of_ne_nil hu
      obtain ⟨rfl, hmore⟩ := List.cons_prefix_cons.1 hprefix
      rw [List.prefix_nil.1 hmore]
    obtain rfl : d :: ds ++ '"' :: behind = rest' := (List.cons_eq_cons.1 hrest).2
    obtain ⟨u, v, hsplit, hv, -, hdone⟩ := hnext.enclosed_newline hg hend hds
    refine ⟨'\\' :: u, v, by rw [hsplit]; rfl, hv, List.cons_ne_nil _ _, ?_⟩
    rwa [Nat.add_assoc, ← byteLength_append] at hdone
  · have hmore : restOfLine (d :: ds ++ '"' :: behind) = d :: restOfLine (ds ++ '"' :: behind) :=
      (restOfLine_of_cons hend).2.1
    obtain ⟨u, action, rest', texts, ⟨rfl, hlength⟩, hu, hrest, hnext⟩ := h.fires
      (P := fun u action => action = .stay ∧ u.length = 2) fun place hplace => by
        obtain ⟨s, others, hks⟩ := exists_escape [⟨.text "\"", .pop, []⟩] (quotedSketches.drop 3) d
          (restOfLine (ds ++ '"' :: behind)) rfl
        obtain ⟨u, hfires, hfits⟩ := fires_of_sets place captures below hrules
          (List.cons_ne_nil _ _) (by rw [hplace, hahead, hmore]; exact hks)
        exact ⟨u, .stay, hfires, rfl, hfits.length_eq⟩
    have hrest : ['\\', d] ++ (ds ++ '"' :: behind) = u ++ rest' := hrest
    obtain ⟨rfl, rfl⟩ := List.append_inj hrest (by rw [hlength]; rfl)
    exact ⟨['\\', d], ds, rfl, hds, List.cons_ne_nil _ _, hnext⟩

/-- **One step** in the argument passes some of its text without events. -/
theorem Comes.enclosed_step (hg : IsListFiles g) {c : Char} {cs : List Char} (hbody : Enclosable (c :: cs))
    (h : Comes g text n (c :: cs ++ '"' :: behind) (⟨12, captures⟩ :: below) events) :
    ∃ u v, c :: cs = u ++ v ∧ Enclosable v ∧ u ≠ [] ∧
      Comes g text (n + byteLength u) (v ++ '"' :: behind) (⟨12, captures⟩ :: below) events := by
  by_cases hc : c = '\\'
  · subst hc
    obtain ⟨d, ds, rfl, hds⟩ := hbody.escaped
    exact h.enclosed_escape hg hds
  · obtain ⟨hq, hcs⟩ := hbody.plain hc
    by_cases hend : restOfLine (c :: cs ++ '"' :: behind) = []
    · exact h.enclosed_newline hg hend hcs
    · have hahead : restOfLine (c :: cs ++ '"' :: behind) = c :: restOfLine (cs ++ '"' :: behind) :=
        (restOfLine_of_cons hend).2.1
      have hfree : c = '$' → ∀ opener ∈ referenceOpeners, ¬ opener.toList <+: restOfLine (cs ++ '"' :: behind) := by
        rintro rfl opener hopener hprefix
        obtain ⟨more, hmore⟩ := hprefix.trans (restOfLine_isPrefix (cs ++ '"' :: behind))
        obtain ⟨v, hv, -⟩ := exists_of_append_eq (quote_notMem_of_opener opener hopener) hmore.symm
        exact hbody.free [] cs rfl rfl opener hopener ⟨v, hv.symm⟩
      obtain ⟨u, rest', hu, hune, -, hrest, hnext⟩ := h.moves hend (P := fun u => ∀ x ∈ ['"', '\\'], x ∉ u)
        fun place hplace => fires_of_staysOff (IsListFiles.quoted hg) (List.cons_ne_nil _ _)
          (by rw [hplace, hahead]; exact all_of_plain hc hq hfree)
      have hoff : '"' ∉ u ∧ '\\' ∉ u := by
        rcases hu with ⟨d, rfl⟩ | hu
        · obtain ⟨rfl, -⟩ := List.cons_eq_cons.1 hrest
          exact ⟨fun hmem => hq (List.mem_singleton.1 hmem).symm, fun hmem => hc (List.mem_singleton.1 hmem).symm⟩
        · exact ⟨hu _ (by decide), hu _ (by decide)⟩
      obtain ⟨v, hv, rfl⟩ := exists_of_append_eq hoff.1 hrest
      rw [hv] at hbody
      exact ⟨u, v, hv, hbody.drop hoff.2, hune, hnext⟩

/-- **The whole argument** is passed without events. -/
theorem Comes.enclosed (hg : IsListFiles g) (hbody : Enclosable body)
    (h : Comes g text n (body ++ '"' :: behind) (⟨12, captures⟩ :: below) events) :
    Comes g text (n + byteLength body) ('"' :: behind) (⟨12, captures⟩ :: below) events := by
  induction hlength : body.length using Nat.strongRecOn generalizing body n with
  | ind length ih =>
    cases body with
    | nil => exact h
    | cons c cs =>
      obtain ⟨u, v, hsplit, hv, hu, hnext⟩ := h.enclosed_step hg hbody
      rw [hsplit] at hlength ⊢
      have hfewer : v.length < length := by
        have hpos := List.length_pos_of_ne_nil hu
        rw [List.length_append] at hlength
        omega
      have hdone := ih _ hfewer hv hnext rfl
      rwa [Nat.add_assoc, ← byteLength_append] at hdone

end

/-! ### Whole arguments -/

/-- What follows the argument. -/
def closing : List Char := ['"', ')']

/-- An argument between quotation marks. -/
def quotedText (body : List Char) : List Char := '"' :: (body ++ ['"'])

theorem quotable_of_lexemes {body : List Char}
    (h : lexemes (quotedText body) = .ok [⟨.quoted, ⟨0, quotedText body⟩⟩]) : Quotable body := by
  obtain ⟨k, more, rest, ls, hscan, -, hls⟩ := lexemesFrom_cons h
  obtain ⟨hlexeme, -⟩ := List.cons_eq_cons.1 hls
  obtain ⟨rfl, hpiece⟩ := Lexeme.mk.inj hlexeme
  obtain ⟨-, htext⟩ := Piece.mk.inj hpiece
  obtain ⟨body', hbody', hquotable⟩ := forms_of_scan hscan
  rw [← htext] at hbody'
  rwa [List.append_cancel_right (List.cons_eq_cons.1 hbody').2]

/-- **The context of an argument is that of its lexeme.**  Where a text between quotation marks is a single lexeme and
opens no reference, highlighting it as an argument enters the context at the first quotation mark, leaves it at the
last, and does nothing else to the stack in between. -/
theorem highlight_quoted {body : List Char}
    (hlex : lexemes (quotedText body) = .ok [⟨.quoted, ⟨0, quotedText body⟩⟩]) (hfree : OpensNoReference body) :
    ∃ g, cmake.compile = .ok g ∧
      (highlight g ("set(x ".toList ++ quotedText body ++ [')'])).events =
        [⟨0, .push, "arguments"⟩, ⟨6, .push, "quoted_argument"⟩,
          ⟨7 + byteLength body, .pop, "quoted_argument"⟩, ⟨8 + byteLength body, .pop, "arguments"⟩] ∧
      (highlight g ("set(x ".toList ++ quotedText body ++ [')'])).openContexts = ["main"] := by
  obtain ⟨g, hg⟩ := exists_isListFiles
  refine ⟨g, hg.compile, ?_⟩
  have harguments : List.Forall₂ Obeys argumentsSketches (g.context 0).rules := hg.obeys rfl rfl
  have htext : "set(x ".toList ++ quotedText body ++ [')']
      = "set(".toList ++ ("x ".toList ++ '"' :: (body ++ closing)) := by
    simp [quotedText, closing]
  rw [htext]
  obtain ⟨captures, hstart⟩ := Comes.command hg (.inr rfl : Opens "set(") ("x ".toList ++ '"' :: (body ++ closing))
  -- the name before the argument is passed up to the quotation mark
  have hname := hstart.pass harguments (by decide) (by decide) (by
    intro d hd ds
    rcases List.mem_pair.1 hd with rfl | rfl <;> rfl)
  obtain ⟨captures', hopen⟩ :=
    hname.matchText (s := "\"") harguments (by decide) (List.cons_ne_nil _ _) fun _ => ⟨_, rfl⟩
  have hbody : Enclosable body := ⟨quotable_of_lexemes hlex, hfree⟩
  have hinside := Comes.enclosed hg hbody hopen
  obtain ⟨captures'', hclose⟩ :=
    hinside.matchText (s := "\"") (IsListFiles.quoted hg) (by decide) (List.cons_ne_nil _ _) fun _ => ⟨_, rfl⟩
  obtain ⟨hevents, hcontexts⟩ := highlight_of_comes hg hclose
  refine ⟨?_, hcontexts⟩
  have hset : byteLength "set(".toList + byteLength "x ".toList = 6 := by decide
  have hquote : byteLength "\"".toList = 1 := by decide
  have hname : (g.context 12).name = "quoted_argument" := hg.name rfl
  rw [hevents, hset, hquote]
  show [_, Event.mk 6 .push (g.context 12).name, Event.mk (7 + byteLength body) .pop (g.context 12).name,
    Event.mk (7 + byteLength body + 1) .pop "arguments"] = _
  rw [hname, Nat.add_right_comm 7]

/-- An escaped end of a line, an escaped quotation mark, and dollar signs that open nothing. -/
def continuedBody : List Char := "a\\\n$b \\\"\\$\x7b".toList

/-- The context of the argument ends at the quotation mark that is not escaped. -/
theorem highlight_quoted_continued :
    lexemes (quotedText continuedBody) = .ok [⟨.quoted, ⟨0, quotedText continuedBody⟩⟩] ∧
      OpensNoReference continuedBody ∧
      ∃ g, cmake.compile = .ok g ∧
        (highlight g ("set(x ".toList ++ quotedText continuedBody ++ [')'])).events =
          [⟨0, .push, "arguments"⟩, ⟨6, .push, "quoted_argument"⟩, ⟨18, .pop, "quoted_argument"⟩,
            ⟨19, .pop, "arguments"⟩] ∧
        (highlight g ("set(x ".toList ++ quotedText continuedBody ++ [')'])).openContexts = ["main"] := by
  have hlex : lexemes (quotedText continuedBody) = .ok [⟨.quoted, ⟨0, quotedText continuedBody⟩⟩] := by decide +kernel
  have hfree : OpensNoReference continuedBody := by decide
  exact ⟨hlex, hfree, highlight_quoted hlex hfree⟩

end Listfile.Highlight
