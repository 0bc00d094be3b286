import Listfile.Proofs.Highlight.Bracketing
import Listfile.Proofs.Highlight.Commanding

/-!
# Blanks, ends of lines and comments

What may stand anywhere between commands and arguments leaves the contexts as they are.

* `Skips`, **`Stands.spaces`**: blanks, at which no rule matches.
* `exists_nameRule`, `passes_of_tryRule_word`: the rules for names of functions.
* `HasFillers`, `hasFillers_main`, `hasFillers_definitionName`, `hasFillers_arguments`: the contexts that have such
  text.
* `exists_split_of_scanBracket`: what a bracket is cut into.
* `isFiller`, `Apart`, **`Stands.filler`**: behind such text the same contexts are open.
-/

namespace Listfile.Highlight

open Grammar Regex Listfile.Tree

variable {g : Grammar} {text rest : List Char} {n k id : Nat} {last : Option Char}
  {captures : List (Option (List Char))} {below : Stack} {events : List Event} {place : Cursor}

/-! ### Blanks -/

/-- Behind the character no rule of the context matches at a blank. -/
def Skips (g : Grammar) (id : Nat) (last : Option Char) : Prop :=
  ∀ captures below place, place.before.head? = last → place.after.head?.any isLineBlank = true →
    findMatch g (⟨id, captures⟩ :: below) place = none

theorem exists_blank (h : place.after.head?.any isLineBlank = true) :
    ∃ c cs, place.after = c :: cs ∧ (c = ' ' ∨ c = '\t') := by
  obtain ⟨c, hc, hblank⟩ := (Option.any_eq_true ..).1 h
  obtain ⟨cs, hcs⟩ := List.head?_eq_some_iff.1 hc
  refine ⟨c, cs, hcs, ?_⟩
  simpa [isLineBlank] using hblank

theorem isWordChar_of_isLineBlank {c : Char} (hc : isLineBlank c = true) : isWordChar c = false := by
  have hc : c = ' ' ∨ c = '\t' := by simpa [isLineBlank] using hc
  rcases hc with rfl | rfl <;> decide

/-- The rules for comments match at number signs only. -/
theorem tryRule_of_openComments {comment line : Rule} (h : OpenComments comment line) (frame : Frame)
    (hplace : place.after.head? ≠ some '#') :
    tryRule frame place comment = none ∧ tryRule frame place line = none := by
  constructor
  · refine tryRule_opener_eq_none frame h.bracket fun level hprefix => hplace ?_
    obtain ⟨more, hmore⟩ := hprefix
    rw [← hmore]
    rfl
  · exact tryRule_of_head? h.line rfl hplace

theorem skips_arguments (hg : IsListFiles g) (last : Option Char) : Skips g 0 last := by
  intro captures below place _ hblank
  have hobeys : List.Forall₂ Obeys argumentsSketches (g.context 0).rules := hg.obeys rfl rfl
  obtain ⟨c, cs, hafter, hc⟩ := exists_blank hblank
  refine findSome?_of_all hobeys ?_
  rw [hafter]
  rcases hc with rfl | rfl <;> rfl

/-- The rules for the name of a function that may match where no comment stands ahead. -/
theorem exists_nameRule (hg : IsListFiles g) : ∃ name close other, name.Uses word ∧ name.action = .set [0] ∧
    Obeys ⟨.text ")", .pop, []⟩ close ∧ other.Uses anything ∧ other.action = .set [0] ∧
    ∀ captures below place, place.after.head? ≠ some '#' →
      findMatch g (⟨5, captures⟩ :: below) place = [name, close, other].findSome? (tryRule ⟨5, captures⟩ place) := by
  obtain ⟨comment, line, name, close, other, hrules, hcomments, hname, hset, hclose, hother, hset'⟩ :=
    hg.exists_definitionName
  refine ⟨name, close, other, hname, hset, hclose, hother, hset', fun captures below place hplace => ?_⟩
  obtain ⟨hcommentOff, hlineOff⟩ := tryRule_of_openComments hcomments ⟨5, captures⟩ hplace
  rw [findMatch_of_rules hrules]
  simp only [List.findSome?_cons, hcommentOff, hlineOff]

/-- A name is matched where it begins. -/
theorem passes_of_tryRule_word {name : Rule} {frame : Frame} {hit : Hit} (hname : name.Uses word)
    (h : tryRule frame place name = some hit) : hit.rule = name ∧ hit.whole.first = place ∧
      ∃ x u, firstOfName.contains x = true ∧ place.Passes (x :: u) hit.whole.last ∧ ∀ y ∈ delimiters, y ∉ x :: u := by
  obtain ⟨source, hname⟩ := hname
  rw [tryRule_fixed hname] at h
  obtain ⟨hrule, hsearch, -⟩ := hit?_eq_some h
  exact ⟨hrule, first_of_search rfl (by decide) hsearch, passes_of_search_word hsearch⟩

theorem tryRule_word_eq_none {name : Rule} {frame : Frame} (hname : name.Uses word)
    (hplace : place.after.head?.any firstOfName.contains = false) : tryRule frame place name = none := by
  refine Option.eq_none_iff_forall_ne_some.2 fun hit hhit => ?_
  obtain ⟨-, -, x, u, hx, hpasses, -⟩ := passes_of_tryRule_word hname hhit
  rw [hpasses.after] at hplace
  cases hx.symm.trans hplace

/-- At blanks and at the end of a line there is no name. -/
theorem findMatch_definitionName_eq_none (hg : IsListFiles g)
    (hplace : place.after = [] ∨ place.after.head?.any isLineBlank = true) :
    findMatch g (⟨5, captures⟩ :: below) place = none := by
  obtain ⟨name, close, other, hname, -, hclose, ⟨source, hother⟩, -, hrules⟩ := exists_nameRule hg
  have hhead : place.after.head? ∈ [none, some ' ', some '\t'] := by
    rcases hplace with hnil | hblank
    · simp [hnil]
    · obtain ⟨c, cs, hafter, rfl | rfl⟩ := exists_blank hblank <;> simp [hafter]
  have hoff {x : Char} (hx : some x ∉ [none, some ' ', some '\t']) : place.after.head? ≠ some x :=
    fun h => hx (h ▸ hhead)
  have hnameOff : tryRule ⟨5, captures⟩ place name = none := by
    refine tryRule_word_eq_none hname ?_
    generalize place.after.head? = head at hhead
    revert head
    decide
  have hcloseOff : tryRule ⟨5, captures⟩ place close = none := tryRule_of_head? hclose rfl (hoff (by decide))
  have hotherOff : tryRule ⟨5, captures⟩ place other = none := by
    rw [tryRule_fixed hother]
    rcases search_anything_cases place with ⟨hany, -⟩ | ⟨-, hno⟩
    · exfalso
      generalize place.after.head? = head at hhead hany
      revert head
      decide
    · exact hit?_of_notFound hno
  rw [hrules captures below place (hoff (by decide))]
  simp only [List.findSome?_cons, List.findSome?_nil, hnameOff, hcloseOff, hotherOff]

theorem skips_definitionName (hg : IsListFiles g) (last : Option Char) : Skips g 5 last :=
  fun _ _ _ _ hblank => findMatch_definitionName_eq_none hg (.inr hblank)

/-- Between commands no word ends at a blank, so no command begins there. -/
theorem skips_main (hg : IsListFiles g) (hlast : last.any isWordChar = false) : Skips g 10 last := by
  intro captures below place hbefore hblank
  obtain ⟨c, cs, hafter, hc⟩ := exists_blank hblank
  obtain ⟨comment, line, commands, hrules, hcomments, hguarded⟩ := hg.guards_main
  have hhead : place.after.head? ≠ some '#' := by rcases hc with rfl | rfl <;> simp [hafter]
  obtain ⟨hcommentOff, hlineOff⟩ := tryRule_of_openComments hcomments ⟨10, captures⟩ hhead
  have hcommandsOff : commands.findSome? (tryRule ⟨10, captures⟩ place) = none := by
    refine List.findSome?_eq_none_iff.2 fun rule hrule => ?_
    obtain ⟨r, ⟨source, hr⟩, hguards⟩ := hguarded rule hrule
    obtain ⟨hanchored, hguards⟩ := Bool.and_eq_true_iff.1 hguards
    refine tryRule_of_search hr fun whole groups hsearch => ?_
    have hboundary := holds_of_search hanchored hguards hsearch
    have hword : isWordChar c = false := by rcases hc with rfl | rfl <;> decide
    simp [Assertion.holds, hbefore, hlast, hafter, hword] at hboundary
  rw [findMatch_of_rules hrules]
  simp only [List.findSome?_cons, hcommentOff, hlineOff]
  exact hcommandsOff

/-! ### Contexts -/

/-- In the context there may be blanks, ends of lines and comments. -/
structure HasFillers (g : Grammar) (id : Nat) : Prop where
  comments : HasComments g id
  blanks : ∀ c, isLineBlank c = true → Skips g id (some c)
  ends : ∀ captures below place, place.after = [] → findMatch g (⟨id, captures⟩ :: below) place = none

theorem hasFillers_main (hg : IsListFiles g) : HasFillers g 10 where
  comments := hasComments_main hg
  blanks _ hc := skips_main hg (by simpa using isWordChar_of_isLineBlank hc)
  ends captures _ _ hplace := findMatch_main_of_nil hg captures hplace

theorem hasFillers_definitionName (hg : IsListFiles g) : HasFillers g 5 where
  comments := hasComments_definitionName hg
  blanks _ _ := skips_definitionName hg _
  ends _ _ _ hplace := findMatch_definitionName_eq_none hg (.inl hplace)

theorem hasFillers_arguments (hg : IsListFiles g) : HasFillers g 0 where
  comments := hasComments_arguments hg
  blanks _ _ := skips_arguments hg _
  ends captures below place hplace := by
    have hobeys : List.Forall₂ Obeys argumentsSketches (g.context 0).rules := hg.obeys rfl rfl
    have hoff : argumentsSketches.all (fun k => k.excludes place.after || k.staysOff [' ']) = true := by
      rw [hplace]
      decide
    -- a word would have to be passed, and there is nothing left to pass
    rcases stays_or_none ⟨0, captures⟩ hobeys (List.cons_ne_nil ' ' []) hoff with
      hnone | ⟨hit, u, -, -, -, hu, hpasses, -⟩
    · exact hnone
    · exact absurd (List.append_eq_nil_iff.1 (hpasses.after.symm.trans hplace)).1 hu

/-! ### What stands between arguments and commands -/

/-- No word stands directly before what is left of the line. -/
def Apart (last : Option Char) (rest : List Char) : Prop := last.any isWordChar = false ∨ restOfLine rest = []

theorem Apart.of_oneLine {u : List Char} (h : Apart last (u ++ rest)) (hne : u ≠ []) (hu : OneLine u) :
    last.any isWordChar = false := by
  refine h.resolve_right fun hend => hne ?_
  rw [restOfLine_append_of_oneLine hu] at hend
  exact (List.append_eq_nil_iff.1 hend).1

theorem Stands.skipBlank {c : Char} (hc : isLineBlank c = true) (hlast : Skips g id last)
    (h : Stands g text n (c :: rest) last k (⟨id, captures⟩ :: below) events) :
    Stands g text (n + c.utf8Size) rest (some c) k (⟨id, captures⟩ :: below) events := by
  have hline : OneLine [c] := by
    have hc : c = ' ' ∨ c = '\t' := by simpa [isLineBlank] using hc
    rcases hc with rfl | rfl <;> decide
  exact h.skip (restOfLine_append_of_oneLine hline rest) fun place hplace hbefore =>
    hlast captures below place hbefore (by simpa [hplace] using hc)

/-- **Blanks are passed.** -/
theorem Stands.spaces (hid : HasFillers g id) {c : Char} {space : List Char}
    (hspace : ∀ d ∈ c :: space, isLineBlank d = true) (hlast : Skips g id last)
    (h : Stands g text n (c :: (space ++ rest)) last k (⟨id, captures⟩ :: below) events) :
    ∃ d, isLineBlank d = true ∧
      Stands g text (n + byteLength (c :: space)) rest (some d) k (⟨id, captures⟩ :: below) events := by
  induction space generalizing n c last with
  | nil =>
    have hc := hspace c List.mem_cons_self
    have hnext := h.skipBlank hc hlast
    refine ⟨c, hc, ?_⟩
    rw [byteLength_cons, byteLength_nil, Nat.add_zero]
    exact hnext
  | cons d space ih =>
    have hc := hspace c List.mem_cons_self
    have hnext := h.skipBlank hc hlast
    obtain ⟨e, he, hdone⟩ := ih (fun x hx => hspace x (List.mem_cons_of_mem c hx)) (hid.blanks c hc) hnext
    rw [Nat.add_assoc, ← byteLength_cons] at hdone
    exact ⟨e, he, hdone⟩

/-- A bracket that is cut off ends where what closes it stands for the first time. -/
theorem exists_split_of_scanBracket {kind kind' : Kind} {opening cs more : List Char} {level : Nat}
    (hlevel : bracketLevel? cs = some level) (h : scanBracket kind opening level cs = .found kind' more rest) :
    ∃ body, more = opening ++ bracketText level body ∧
      cs = signsAnd level '[' ++ (body ++ (bracketCloser level ++ rest)) ∧
      splitOnce? (bracketCloser level) (body ++ (bracketCloser level ++ rest)) = some (body, rest) := by
  unfold scanBracket splitBracket at h
  cases hsplit : splitOnce? (bracketCloser level) (cs.drop (level + 1)) with
  | none =>
    rw [hsplit] at h
    cases h
  | some p =>
    obtain ⟨body, behind⟩ := p
    rw [hsplit] at h
    cases h
    have hbody := splitOnce?_append hsplit
    refine ⟨body, rfl, ?_, ?_⟩
    · rw [← hbody]
      exact bracketLevel?_append hlevel
    · rw [← hbody]
      exact hsplit

/-- Does text of the kind leave the contexts as they are? -/
def isFiller (kind : Kind) : Bool :=
  match kind with
  | .space | .newline | .lineComment | .bracketComment => true
  | _ => false

/-- **Behind blanks, the end of a line or a comment** the same contexts are open, and no word stands before the
place. -/
theorem Stands.filler (hg : IsListFiles g) (hid : HasFillers g id) {c : Char} {cs more : List Char} {kind : Kind}
    (hscan : scan c cs = .found kind more rest) (hkind : isFiller kind = true)
    (hlast : kind = .space → Skips g id last) (hmore : kind = .newline → rest ≠ []) (hk : 1 ≤ k)
    (h : Stands g text n (c :: cs) last k (⟨id, captures⟩ :: below) events) : ∃ last' events', Apart last' rest ∧
      Stands g text (n + byteLength (c :: more)) rest last' k (⟨id, captures⟩ :: below) events' := by
  have hforms := forms_of_scan hscan
  have hbegins := beginsWith_of_scan hscan
  obtain rfl := scan_append hscan
  cases kind with
  | space =>
    obtain ⟨d, hd, hnext⟩ := h.spaces hid hforms.2 (hlast rfl)
    exact ⟨some d, events, .inl (by simpa using isWordChar_of_isLineBlank hd), hnext⟩
  | newline =>
    exact ⟨none, events, .inl rfl, (h.comes.nextLine hforms (hmore rfl) (hid.ends captures below)).mono (Nat.zero_le k)⟩
  | lineComment =>
    obtain rfl : c = '#' := hbegins
    rcases scanComment_cases hscan with ⟨ds, level, -, -, hbracket⟩ | ⟨-, hopens, hline, -⟩
    · cases scanBracket_kind hbracket
    · obtain ⟨rest', last', events', hsplit, hend, hnext⟩ := h.comes.lineComment hg hid.comments hopens
      rw [← hline] at hsplit hnext
      obtain rfl := List.append_cancel_left hsplit
      exact ⟨last', events', .inr hend, hnext.mono hk⟩
  | bracketComment =>
    obtain rfl : c = '#' := hbegins
    rcases scanComment_cases hscan with ⟨ds, level, hds, hlevel, hbracket⟩ | ⟨hkind, -⟩
    · obtain ⟨body, rfl, rfl, hsplit⟩ := exists_split_of_scanBracket hlevel hbracket
      rw [hds] at h
      obtain ⟨events', hnext⟩ := h.comes.bracketComment hg hid.comments hsplit
      exact ⟨some ']', events', .inl (by decide), hnext.mono (Nat.zero_le k)⟩
    · cases hkind
  | _ => cases hkind

theorem Within.filler (hg : IsListFiles g) (hid : HasFillers g id) {c : Char} {cs more : List Char} {kind : Kind}
    {ids : List Nat} (hscan : scan c cs = .found kind more rest) (hkind : isFiller kind = true)
    (hlast : kind = .space → Skips g id last) (hmore : kind = .newline → rest ≠ []) (hk : 1 ≤ k)
    (h : Within g text n (c :: cs) last k (id :: ids)) : ∃ last', Apart last' rest ∧
      Within g text (n + byteLength (c :: more)) rest last' k (id :: ids) := by
  obtain ⟨captures, below, events, rfl, hat⟩ := h.exists_frame
  obtain ⟨last', events', hapart, hnext⟩ := hat.filler hg hid hscan hkind hlast hmore hk
  exact ⟨last', hapart, hnext.within⟩

end Listfile.Highlight
