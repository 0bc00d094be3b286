import Listfile.Proofs.Highlight.Closing
import Listfile.Proofs.Highlight.Commanding
import Listfile.Proofs.Tree.Forming

/-!
# Comments in brackets

A comment in brackets ends where as many equals signs stand between brackets as it began with.  Cutting into lexemes
and highlighting agree on that, whatever brackets and lines the comment has.

* `bracketComment`, `ClosesOnce`: comments that are not closed before their end.
* `lexemes_bracketComment`: they are cut off as one lexeme.
* `Covers`: tokens for all bytes but those of the ends of lines.
* `Arrived.opening`, `Arrived.filler`, `Arrived.closer`: the steps; **`exists_tokens_body`**: all of them.
* **`highlight_bracketComment`**: their context is entered at the start and left at what closes them, and all that
  stands in them has its scope.
-/

namespace Listfile.Highlight

open Grammar Regex Listfile.Tree

/-! ### Comments and their lexemes -/

/-- A comment in brackets with so many equals signs. -/
def bracketComment (level : Nat) (body : List Char) : List Char := '#' :: '[' :: bracketText level body

/-- What closes the bracket does not stand before its end. -/
def ClosesOnce (level : Nat) (body : List Char) : Prop :=
  ∀ front behind, body ++ bracketCloser level = front ++ bracketCloser level ++ behind → behind = []

section
variable {level : Nat} {body : List Char}

theorem closesOnce_iff : ClosesOnce level body ↔
    ∀ i < body.length, ¬ bracketCloser level <+: (body ++ bracketCloser level).drop i := by
  constructor
  · rintro h i hi ⟨behind, hbehind⟩
    have htext : body ++ bracketCloser level = body.take i ++ bracketCloser level ++ behind := by
      rw [List.append_assoc, hbehind, List.drop_append_of_le_length (Nat.le_of_lt hi), ← List.append_assoc,
        List.take_append_drop]
    obtain rfl := h _ _ htext
    have hlength := congrArg List.length htext
    simp only [List.length_append, List.length_take, List.length_nil] at hlength
    omega
  · intro h front behind htext
    by_contra hbehind
    have hlength := congrArg List.length htext
    have hpos := List.length_pos_of_ne_nil hbehind
    simp only [List.length_append] at hlength
    refine h front.length (by omega) ⟨behind, ?_⟩
    rw [htext, List.append_assoc, List.drop_left]

instance (level : Nat) (body : List Char) : Decidable (ClosesOnce level body) :=
  decidable_of_iff _ closesOnce_iff.symm

theorem ClosesOnce.right {u : List Char} (h : ClosesOnce level (u ++ body)) : ClosesOnce level body := by
  intro front behind hbody
  refine h (u ++ front) behind ?_
  rw [List.append_assoc, hbody]
  simp only [List.append_assoc]

theorem splitOnce?_of_closesOnce (h : ClosesOnce level body) :
    splitOnce? (bracketCloser level) (body ++ bracketCloser level) = some (body, []) := by
  cases hsplit : splitOnce? (bracketCloser level) (body ++ bracketCloser level) with
  | none => exact absurd ⟨body, [], by simp⟩ (not_isInfix_of_splitOnce? hsplit)
  | some p =>
    obtain ⟨front, behind⟩ := p
    have htext := splitOnce?_append hsplit
    rw [← List.append_assoc] at htext
    obtain rfl := h front behind htext
    rw [List.append_nil] at htext
    rw [List.append_cancel_right htext]

/-- **The comment is one lexeme.** -/
theorem lexemes_bracketComment (h : ClosesOnce level body) :
    lexemes (bracketComment level body) = .ok [⟨.bracketComment, ⟨0, bracketComment level body⟩⟩] := by
  have hscan : scan '#' ('[' :: bracketText level body)
      = .found .bracketComment ('[' :: bracketText level body) [] := by
    have hdrop : (bracketText level body).drop (level + 1) = body ++ bracketCloser level := by
      have hlength : (signsAnd level '[').length = level + 1 := by simp [signsAnd]
      rw [bracketText, List.append_assoc, ← hlength, List.drop_left]
    show scanComment ('[' :: bracketText level body) = _
    simp only [scanComment, bracketLevel?_bracketText, scanBracket, splitBracket, hdrop,
      splitOnce?_of_closesOnce h]
    rfl
  unfold lexemes bracketComment
  rw [lexemesFrom_of_scan hscan, lexemesFrom]
  rfl

end

/-! ### Tokens for all bytes -/

/-- A character of a text stands in its first part or behind that. -/
theorem cases_append_eq_cons {u rest before after : List Char} {c : Char}
    (h : u ++ rest = before ++ c :: after) :
    (∃ inner, u = before ++ c :: inner ∧ after = inner ++ rest) ∨
      (∃ front, before = u ++ front ∧ rest = front ++ c :: after) := by
  rcases List.append_eq_append_iff.1 h with ⟨front, hbefore, hrest⟩ | ⟨inner, hu, hinner⟩
  · exact .inr ⟨front, hbefore, hrest⟩
  · cases inner with
    | nil => exact .inr ⟨[], by simpa using hu.symm, by simpa using hinner.symm⟩
    | cons d inner =>
      obtain ⟨rfl, hafter⟩ := List.cons_eq_cons.1 hinner
      exact .inl ⟨inner, hu, hafter⟩

/-- The tokens have the scope, and from the offset on they cover each byte of the text but those that end lines. -/
structure Covers (selector : String) (n : Nat) (text : List Char) (tokens : List Token) : Prop where
  scope : ∀ t ∈ tokens, t.hasScope selector = true
  start : ∀ t ∈ tokens, n ≤ t.span.start
  bytes : ∀ before c after, text = before ++ c :: after → ∀ i, n + byteLength before ≤ i →
    i < n + byteLength before + c.utf8Size →
      ((∃ t ∈ tokens, t.span.start ≤ i ∧ i < t.span.stop) ↔ ¬ Terminates c after)

section
variable {selector : String} {n : Nat} {u rest : List Char} {tokens : List Token} {t : Token}

theorem Covers.nil (selector : String) (n : Nat) : Covers selector n [] [] := by
  refine ⟨List.forall_mem_nil _, List.forall_mem_nil _, fun before c after h => ?_⟩
  cases before <;> cases h

/-- One token more covers the text before. -/
theorem Covers.cons (h : Covers selector (n + byteLength u) rest tokens) (ht : t.hasScope selector = true)
    (hspan : t.span = ⟨n, n + byteLength u⟩)
    (hu : ∀ before c inner, u = before ++ c :: inner → ¬ Terminates c (inner ++ rest)) :
    Covers selector n (u ++ rest) (t :: tokens) := by
  refine ⟨List.forall_mem_cons.2 ⟨ht, h.scope⟩, List.forall_mem_cons.2 ⟨?_, fun t ht => ?_⟩, ?_⟩
  · rw [hspan]
  · have hstart := h.start t ht
    omega
  · intro before c after htext i hlow hhigh
    rcases cases_append_eq_cons htext with ⟨inner, rfl, rfl⟩ | ⟨front, rfl, hrest⟩
    · refine iff_of_true ⟨t, List.mem_cons_self, ?_⟩ (hu before c inner rfl)
      rw [hspan]
      simp only [byteLength_append, byteLength_cons]
      omega
    · rw [byteLength_append] at hlow hhigh
      rw [← h.bytes front c after hrest i (by omega) (by omega), List.exists_mem_cons_iff]
      refine or_iff_right ?_
      rw [hspan]
      dsimp only
      omega

/-- Nothing covers the end of a line. -/
theorem Covers.newline (h : Covers selector (n + byteLength u) rest tokens) (hu : u = ['\n'] ∨ u = ['\r', '\n']) :
    Covers selector n (u ++ rest) tokens := by
  refine ⟨h.scope, fun t ht => ?_, ?_⟩
  · have hstart := h.start t ht
    omega
  · intro before c after htext i hlow hhigh
    rcases cases_append_eq_cons htext with ⟨inner, hinner, rfl⟩ | ⟨front, rfl, hrest⟩
    · have hends : Terminates c (inner ++ rest) := by
        rcases hu with rfl | rfl
        · cases before with
          | nil =>
            cases hinner
            exact .inl rfl
          | cons d before => cases before <;> cases hinner
        · cases before with
          | nil =>
            cases hinner
            exact .inr ⟨rfl, rfl⟩
          | cons d before =>
            cases before with
            | nil =>
              cases hinner
              exact .inl rfl
            | cons e before => cases before <;> cases hinner
      refine iff_of_false ?_ (not_not_intro hends)
      rintro ⟨t, ht, hi, -⟩
      have hstart := h.start t ht
      rw [hinner, byteLength_append, byteLength_cons] at hstart
      omega
    · rw [byteLength_append] at hlow hhigh
      exact h.bytes front c after hrest i (by omega) (by omega)

end

/-! ### Scopes of the context -/

/-- The scopes are those of text within a comment in brackets. -/
def InBracketComment (scopes : List Scope) : Prop :=
  1 < scopes.length ∧ (scopes.any (·.selectedBy "comment.block.bracket")) = true

section
variable {g : Grammar}

theorem inBracketComment_of_mem {scope : Scope} {scopes : List Scope}
    (h : ⟨"comment.block.bracket.cmake"⟩ ∈ scopes) : InBracketComment (scope :: scopes) := by
  refine ⟨?_, List.any_eq_true.2 ⟨_, List.mem_cons_of_mem _ h, by decide +kernel⟩⟩
  have hpos := List.length_pos_of_mem h
  rw [List.length_cons]
  omega

theorem metaScope_bracketComment (hg : IsListFiles g) :
    (g.context 2).metaScope = [⟨"comment.block.bracket.cmake"⟩] := by
  obtain ⟨fillers, -, -, hmeta⟩ := hg.exists_bracketed (i := 2) rfl
  rw [hmeta]
  decide +kernel

/-- **What opens, fills and closes a comment in brackets has its scope.** -/
theorem inBracketComment_front (hg : IsListFiles g) {stack : Stack} {action : Action}
    (h : stack = .initial g ∧ action = .push [2] ∨
      (∃ captures, stack = [⟨2, captures⟩, ⟨10, []⟩]) ∧ (action = .stay ∨ action = .pop)) :
    InBracketComment (frontScopes g stack action) := by
  have hmeta := metaScope_bracketComment hg
  rcases h with ⟨rfl, rfl⟩ | ⟨⟨captures, rfl⟩, rfl | rfl⟩
  all_goals
    refine inBracketComment_of_mem ?_
    simp [metaScopes, hmeta]

end

/-! ### Steps -/

section
variable {g : Grammar} {text rest u body : List Char} {n level : Nat} {place : Cursor} {stack : Stack}
  {f : Findings} {captures : List (Option (List Char))}

/-- A match in a comment adds one token, which has the scope of the comment. -/
theorem Arrived.forward_comment (h : Arrived g text n rest place stack f) {hit : Hit}
    (hmatch : findMatch g stack place = some hit) (hfirst : hit.whole.first = place)
    (hcaptures : hit.rule.captures = []) (hfront : InBracketComment (frontScopes g stack hit.rule.action))
    (hu : u ≠ []) (hpasses : place.Passes u hit.whole.last) : ∃ rest' t, rest = u ++ rest' ∧
      Arrived g text (n + byteLength u) rest' hit.whole.last
        (applyAction g n hit.texts stack hit.rule.action).1
        (f.add [t] (applyAction g n hit.texts stack hit.rule.action).2) ∧
      ∀ tokens, Covers "comment.block.bracket" (n + byteLength u) rest' tokens →
        Covers "comment.block.bracket" n rest (t :: tokens) := by
  obtain ⟨rest', found, rfl, hfound, hnext⟩ := h.forward hmatch hfirst hu hpasses
  have hlength : 1 < (frontScopes g stack hit.rule.action ++ hit.rule.scope).length := by
    have hlt := hfront.1
    rw [List.length_append]
    omega
  rw [hfound hcaptures hlength] at hnext
  refine ⟨rest', _, rfl, hnext, fun tokens hcovers => hcovers.cons ?_ rfl fun before c inner hsplit => ?_⟩
  · show (_ ++ _ : List Scope).any _ = true
    rw [List.any_append, hfront.2, Bool.true_or]
  · exact not_terminates_of_append (h.ahead.symm.trans hpasses.after) hsplit

/-! ### The body of a comment -/

section
variable (hg : IsListFiles g) (hlevel : captures[1]? = some (some (List.replicate level '=')))
include hg hlevel

/-- **Where the bracket is not closed**, a closing square bracket or text without any is passed. -/
theorem Arrived.filler (h : Arrived g text n rest place [⟨2, captures⟩, ⟨10, []⟩] f) (hne : restOfLine rest ≠ [])
    (hno : ¬ bracketCloser level <+: restOfLine rest) : ∃ u rest' place' t, u ≠ [] ∧ (']' ∉ u ∨ u = [']']) ∧
      rest = u ++ rest' ∧
      Arrived g text (n + byteLength u) rest' place' [⟨2, captures⟩, ⟨10, []⟩] (f.add [t] []) ∧
      ∀ tokens, Covers "comment.block.bracket" (n + byteLength u) rest' tokens →
        Covers "comment.block.bracket" n rest (t :: tokens) := by
  rw [← h.ahead] at hne hno
  obtain ⟨hit, u, hfind, haction, hcaptures, hfirst, hu, hpasses, hbracket⟩ :=
    (isBracketed_comment hg).exists_filler hlevel [⟨10, []⟩] hne hno
  obtain ⟨rest', t, hrest, hnext, hcovers⟩ := h.forward_comment hfind hfirst hcaptures
    (inBracketComment_front hg (.inr ⟨⟨captures, rfl⟩, .inl haction⟩)) hu hpasses
  rw [haction] at hnext
  exact ⟨u, rest', _, t, hu, hbracket, hrest, hnext, hcovers⟩

/-- **What closes the bracket leaves the context.** -/
theorem Arrived.closer (h : Arrived g text n (bracketCloser level) place [⟨2, captures⟩, ⟨10, []⟩] f) :
    ∃ tokens, highlight g text
        = ⟨f.tokens.reverse ++ tokens, f.events.reverse ++ [⟨n, .pop, "bracket_comment"⟩], ["main"]⟩ ∧
      Covers "comment.block.bracket" n (bracketCloser level) tokens := by
  have hahead : place.after = bracketCloser level := by
    have hline := restOfLine_append_of_oneLine (oneLine_bracketCloser level) []
    rw [List.append_nil] at hline
    rw [h.ahead, hline]
    exact List.append_nil _
  obtain ⟨hit, hfind, haction, hcaptures, hfirst, hpasses⟩ :=
    (isBracketed_comment hg).exists_closer hlevel [⟨10, []⟩] (by rw [hahead])
  obtain ⟨rest', t, hrest, hnext, hcovers⟩ := h.forward_comment hfind hfirst hcaptures
    (inBracketComment_front hg (.inr ⟨⟨captures, rfl⟩, .inr haction⟩)) (List.cons_ne_nil _ _) hpasses
  obtain rfl : rest' = [] := List.self_eq_append_right.1 hrest
  refine ⟨[t], ?_, hcovers [] (Covers.nil _ _)⟩
  rw [haction, applyAction_pop] at hnext
  rw [hnext.finish (findMatch_main_of_nil hg [] hnext.ahead) rfl rfl]
  show Highlighted.mk (t :: f.tokens).reverse (Event.mk n .pop (g.context 2).name :: f.events).reverse
    [(g.context 10).name] = _
  rw [hg.name rfl, hg.name rfl, List.reverse_cons, List.reverse_cons]

/-- **From any place in the body on**, what closes the bracket ends the comment, and tokens cover it up to there. -/
theorem exists_tokens_body (hbody : ClosesOnce level body)
    (h : Arrived g text n (body ++ bracketCloser level) place [⟨2, captures⟩, ⟨10, []⟩] f) :
    ∃ tokens, highlight g text = ⟨f.tokens.reverse ++ tokens,
        f.events.reverse ++ [⟨n + byteLength body, .pop, "bracket_comment"⟩], ["main"]⟩ ∧
      Covers "comment.block.bracket" n (body ++ bracketCloser level) tokens := by
  -- each match and each end of a line leaves a shorter body, for which what closes the bracket is as far away
  induction hlength : body.length using Nat.strongRecOn generalizing body n place f with
  | ind length ih =>
    have hfewer {u v : List Char} (hv : body = u ++ v) (hu : u ≠ []) : v.length < length := by
      have hpos := List.length_pos_of_ne_nil hu
      rw [hv, List.length_append] at hlength
      omega
    by_cases hnil : body = []
    · subst hnil
      exact h.closer hg hlevel
    by_cases hend : restOfLine (body ++ bracketCloser level) = []
    · obtain ⟨ending, v, hending, hv⟩ := exists_ending (by decide : OneLine [']']) hend
      have hmore : v ++ bracketCloser level ≠ [] :=
        List.append_ne_nil_of_right_ne_nil _ (List.cons_ne_nil _ _)
      have hnone := (isBracketed_comment hg).findMatch_of_nil hlevel [⟨10, []⟩] (h.ahead.trans hend)
      have hlt := hfewer hv (by rcases hending with rfl | rfl <;> exact List.cons_ne_nil _ _)
      subst hv
      rw [List.append_assoc] at h ⊢
      obtain ⟨tokens, hfound, hcovers⟩ := ih _ hlt hbody.right (h.nextLine hending hmore hnone) rfl
      refine ⟨tokens, ?_, hcovers.newline hending⟩
      rw [hfound, byteLength_append, Nat.add_assoc]
    · -- what closes the bracket stands nowhere but at the end
      have hno : ¬ bracketCloser level <+: restOfLine (body ++ bracketCloser level) := by
        rintro ⟨v, hv⟩
        obtain ⟨rest', hrest, -, -⟩ := exists_of_restOfLine hv.symm
        obtain rfl := hbody [] rest' hrest
        rw [List.append_nil] at hrest
        exact hnil (List.append_cancel_right (hrest.trans (List.nil_append _).symm))
      obtain ⟨u, rest', place', t, hu, hbracket, hrest, hnext, hcovers⟩ := h.filler hg hlevel hend hno
      obtain ⟨v, rfl, rfl⟩ : ∃ v, body = u ++ v ∧ rest' = v ++ bracketCloser level :=
        exists_of_filler hbracket hnil hrest
      obtain ⟨tokens, hfound, hmore⟩ := ih _ (hfewer rfl hu) hbody.right hnext rfl
      refine ⟨t :: tokens, ?_, hcovers tokens hmore⟩
      rw [hfound, byteLength_append, Nat.add_assoc]
      show Highlighted.mk ((t :: f.tokens).reverse ++ tokens) _ _ = _
      rw [List.reverse_cons, List.append_assoc]
      rfl

end

/-! ### Comments as a whole -/

/-- What opens a comment in brackets. -/
def commentOpening (level : Nat) : List Char := '#' :: '[' :: signsAnd level '['

theorem commentOpening_ne_nil (level : Nat) : commentOpening level ≠ [] := List.cons_ne_nil _ _

theorem bracketComment_eq (level : Nat) (body : List Char) :
    bracketComment level body = commentOpening level ++ (body ++ bracketCloser level) := by
  simp [bracketComment, bracketText, commentOpening]

theorem byteLength_commentOpening (level : Nat) : byteLength (commentOpening level) = level + 3 := by
  have hsigns : byteLength (List.replicate level '=') = level := by
    induction level with
    | zero => rfl
    | succ level ih =>
      rw [List.replicate_succ, byteLength_cons, ih, show ('=').utf8Size = 1 from rfl, Nat.add_comm]
  rw [commentOpening, signsAnd, byteLength_cons, byteLength_cons, byteLength_append, hsigns, byteLength_cons,
    byteLength_nil, show ('#').utf8Size = 1 from rfl, show ('[').utf8Size = 1 from rfl]
  omega

theorem oneLine_commentOpening (level : Nat) : OneLine (commentOpening level) :=
  (oneLine_append (u := ['#', '['])).2 ⟨by decide, oneLine_signsAnd level (by decide)⟩

/-- **The opening enters the context**, and the equals signs are captured. -/
theorem Arrived.opening (hg : IsListFiles g) (level : Nat) (rest : List Char) :
    ∃ captures place t, captures[1]? = some (some (List.replicate level '=')) ∧
      Arrived g (commentOpening level ++ rest) (level + 3) rest place [⟨2, captures⟩, ⟨10, []⟩]
        ⟨[t], [⟨0, .push, "bracket_comment"⟩]⟩ ∧
      ∀ tokens, Covers "comment.block.bracket" (level + 3) rest tokens →
        Covers "comment.block.bracket" 0 (commentOpening level ++ rest) (t :: tokens) := by
  obtain ⟨comment, line, definition, control, builtin, command, hrules, hcomment, -⟩ := hg.exists_main
  have hobeys : List.Forall₂ Obeys mainSketches (g.context 10).rules := hg.obeys rfl rfl
  rw [hrules] at hobeys
  obtain _ | ⟨hsketch, -⟩ := hobeys
  have hstart := Arrived.start g (List.append_ne_nil_of_left_ne_nil (commentOpening_ne_nil level) rest)
  rw [restOfLine_append_of_oneLine (oneLine_commentOpening level)] at hstart
  generalize hplace : Cursor.ofText (commentOpening level ++ restOfLine rest) = place at hstart
  have hafter : place.after = ['#', '['] ++ (signsAnd level '[' ++ restOfLine rest) := by
    rw [← hplace]
    rfl
  obtain ⟨hit, htry, rfl, hfirst, hpasses, hlevel⟩ := exists_tryRule_opener (s := ['#', '[']) ⟨10, []⟩ hcomment hafter
  have hmatch : findMatch g (.initial g) place = some hit := by
    rw [Stack.initial, hg.main, findMatch_of_rules hrules, List.findSome?_cons, htry]
  obtain ⟨rest', t, hrest, hnext, hcovers⟩ := hstart.forward_comment hmatch hfirst
    (List.map_eq_nil_iff.1 hsketch.groups) (inBracketComment_front hg (.inl ⟨rfl, hsketch.action⟩))
    (commentOpening_ne_nil level) hpasses
  obtain rfl := List.append_cancel_left hrest
  rw [byteLength_commentOpening, Nat.zero_add] at hnext hcovers
  rw [show hit.rule.action = .push [2] from hsketch.action, Stack.initial, hg.main] at hnext
  refine ⟨hit.texts, hit.whole.last, t, hlevel, ?_, hcovers⟩
  have hname : (g.context 2).name = "bracket_comment" := hg.name rfl
  rw [← hname]
  exact hnext

/-- **A comment in brackets ends only where what closes it stands.**  It is one lexeme; highlighting enters its
context at its start and leaves it at what closes it; all tokens have its scope, and they cover all bytes but those
of the ends of lines. -/
theorem highlight_bracketComment (hbody : ClosesOnce level body) :
    lexemes (bracketComment level body) = .ok [⟨.bracketComment, ⟨0, bracketComment level body⟩⟩] ∧
      ∃ g tokens, cmake.compile = .ok g ∧
        highlight g (bracketComment level body) = ⟨tokens, [⟨0, .push, "bracket_comment"⟩,
          ⟨level + 3 + byteLength body, .pop, "bracket_comment"⟩], ["main"]⟩ ∧
        (∀ t ∈ tokens, t.hasScope "comment.block.bracket" = true) ∧
        ∀ before c after, bracketComment level body = before ++ c :: after → ∀ i, byteLength before ≤ i →
          i < byteLength before + c.utf8Size →
            ((∃ t ∈ tokens, t.span.start ≤ i ∧ i < t.span.stop) ↔ ¬ Terminates c after) := by
  refine ⟨lexemes_bracketComment hbody, ?_⟩
  obtain ⟨g, hg⟩ := exists_isListFiles
  obtain ⟨captures, place, t, hlevel, harrived, hcovers⟩ :=
    Arrived.opening hg level (body ++ bracketCloser level)
  obtain ⟨tokens, hfound, hmore⟩ := exists_tokens_body hg hlevel hbody harrived
  rw [← bracketComment_eq] at hcovers hfound
  have hall := hcovers tokens hmore
  refine ⟨g, t :: tokens, hg.compile, hfound, hall.scope, fun before c after htext i hlow hhigh => ?_⟩
  exact hall.bytes before c after htext i (by omega) (by omega)

end

/-- Brackets that are closed by more and by fewer equals signs, the end of a line within what would close the comment,
and a carriage return that does not end a line. -/
def nearlyClosedBody : List Char := "é ]] ]==]\n]=\r\n\r#[=[ ]".toList

/-- None of them closes the comment. -/
theorem highlight_bracketComment_nearlyClosed : ClosesOnce 1 nearlyClosedBody ∧
    lexemes (bracketComment 1 nearlyClosedBody)
      = .ok [⟨.bracketComment, ⟨0, bracketComment 1 nearlyClosedBody⟩⟩] ∧
    ∃ g tokens, cmake.compile = .ok g ∧
      highlight g (bracketComment 1 nearlyClosedBody) = ⟨tokens, [⟨0, .push, "bracket_comment"⟩,
        ⟨26, .pop, "bracket_comment"⟩], ["main"]⟩ ∧
      (∀ t ∈ tokens, t.hasScope "comment.block.bracket" = true) ∧
      ∀ before c after, bracketComment 1 nearlyClosedBody = before ++ c :: after → ∀ i, byteLength before ≤ i →
        i < byteLength before + c.utf8Size →
          ((∃ t ∈ tokens, t.span.start ≤ i ∧ i < t.span.stop) ↔ ¬ Terminates c after) := by
  have hbody : ClosesOnce 1 nearlyClosedBody := by decide
  exact ⟨hbody, highlight_bracketComment hbody⟩

end Listfile.Highlight
