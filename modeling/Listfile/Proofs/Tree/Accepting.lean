import Listfile.Proofs.Outcome
import Listfile.Proofs.Tree.Building

/-!
# Which files are accepted

Whether the lexemes of a text make a list file is seen in one pass from the left, which counts the open
parentheses and remembers where they were opened.  It builds nothing.

* `firstFault`: the pass, and the first fault that it comes upon.
* `Place.Counts`: what a builder has read is what the pass has counted.
* `fault?_eq_firstFault`: a builder and the pass, side by side.
* **`parse_iff_firstFault`**: a text is refused with just that fault, and accepted if there is none.
-/

namespace Listfile.Tree

/-! ### The pass -/

/-- The lexemes from the first one on that is not blank. -/
def behindSpaces (ls : List Lexeme) : List Lexeme := ls.dropWhile (·.kind == .space)

theorem length_behindSpaces_le (ls : List Lexeme) : (behindSpaces ls).length ≤ ls.length :=
  (List.dropWhile_suffix _).length_le

/-- What the lexemes of a text have against them, if anything: the first fault from the left.  `depth` counts
the parentheses that are open, `opened` tells where they are, the innermost first; `stop` is where the text
ends.  Behind the name of a command the pass looks ahead over the blanks. -/
def firstFault (stop depth : Nat) (opened : List Nat) (ls : List Lexeme) : Option Fault :=
  match ls with
  | [] => opened.head?.map fun start => ⟨.unclosedArguments, start⟩
  | l :: rest =>
    match depth with
    | 0 =>
      match l.kind with
      | .space | .newline | .lineComment | .bracketComment => firstFault stop 0 opened rest
      | .closeParen => some ⟨.unexpectedCloseParen, l.piece.start⟩
      | .unquoted =>
        if isCommandName l.piece.text then
          match (behindSpaces rest).head? with
          | none => some ⟨.missingOpenParen l.piece.text, stop⟩
          | some next =>
            if next.kind = .openParen then
              firstFault stop 1 [next.piece.start] (behindSpaces rest).tail
            else some ⟨.missingOpenParen l.piece.text, next.piece.start⟩
        else some ⟨.expectedCommand l.piece.text, l.piece.start⟩
      | _ => some ⟨.expectedCommand l.piece.text, l.piece.start⟩
    | below + 1 =>
      match l.kind with
      | .openParen =>
        if below + 1 = maxNesting then some ⟨.nestingTooDeep maxNesting, l.piece.start⟩
        else firstFault stop (below + 2) (l.piece.start :: opened) rest
      | .closeParen => firstFault stop below opened.tail rest
      | _ => firstFault stop (below + 1) opened rest
termination_by ls.length
decreasing_by
  all_goals simp only [List.length_cons, List.length_tail]
  all_goals have := length_behindSpaces_le rest; omega

/-! ### Builders -/

namespace Builder

/-- What a builder has against the lexemes that follow, if anything. -/
def fault? (b : Builder) (stop : Nat) (ls : List Lexeme) : Option Fault :=
  match ls.foldlM Builder.add b >>= (·.finish stop) with
  | .ok _ => none
  | .error f => some f

section
variable {b b' : Builder} {stop : Nat} {l : Lexeme} {ls : List Lexeme} {f : Fault}

theorem fault?_cons_of_ok (h : b.add l = .ok b') : b.fault? stop (l :: ls) = b'.fault? stop ls := by
  rw [fault?, List.foldlM_cons, h]
  rfl

theorem fault?_cons_of_error (h : b.add l = .error f) : b.fault? stop (l :: ls) = some f := by
  rw [fault?, List.foldlM_cons, h]
  rfl

end

/-- Behind the name of a command only the lexeme behind the blanks counts. -/
theorem fault?_named (es : List Element) (header : Header) (stop : Nat) (ls : List Lexeme) :
    ∃ header', (Builder.mk es (.named header)).fault? stop ls
      = match (behindSpaces ls).head? with
        | none => some ⟨.missingOpenParen header.name.text, stop⟩
        | some next =>
          if next.kind = .openParen then
            (Builder.mk es (.inside header' ⟨next.piece.start, []⟩ [])).fault? stop
              (behindSpaces ls).tail
          else some ⟨.missingOpenParen header.name.text, next.piece.start⟩ := by
  induction ls generalizing header with
  | nil => exact ⟨header, rfl⟩
  | cons l ls ih =>
    obtain ⟨k, p⟩ := l
    cases k with
    | space =>
      obtain ⟨header', h⟩ := ih { header with space := header.space ++ p.text }
      exact ⟨header', (fault?_cons_of_ok rfl).trans h⟩
    | openParen => exact ⟨header, fault?_cons_of_ok rfl⟩
    | _ => exact ⟨header, fault?_cons_of_error rfl⟩

end Builder

/-- What is being read, as the pass counts it.  It never counts beyond the limit. -/
def Place.Counts : Place → Nat → List Nat → Prop
  | .outside, depth, opened => depth = 0 ∧ opened = []
  | .named _, _, _ => False
  | .inside _ top outer, depth, opened =>
    depth = outer.length + 1 ∧ opened = (top :: outer).map Pending.openAt ∧ depth ≤ maxNesting

theorem Place.eq_of_counts_zero {place : Place} {opened : List Nat} (h : place.Counts 0 opened) :
    place = .outside ∧ opened = [] := by
  cases place with
  | outside => exact ⟨rfl, h.2⟩
  | named header => exact h.elim
  | inside header top outer => exact absurd h.1 (by omega)

theorem Place.eq_of_counts_succ {place : Place} {below : Nat} {opened : List Nat}
    (h : place.Counts (below + 1) opened) :
    ∃ header top outer, place = .inside header top outer ∧ below = outer.length ∧
      opened = (top :: outer).map Pending.openAt ∧ outer.length < maxNesting := by
  cases place with
  | outside => exact absurd h.1 (by omega)
  | named header => exact h.elim
  | inside header top outer =>
    obtain ⟨hdepth, hopened, hroom⟩ := h
    exact ⟨header, top, outer, rfl, Nat.succ.inj hdepth, hopened, by omega⟩

/-! ### One lexeme -/

section
variable {es : List Element} {header : Header} {top : Pending} {outer : List Pending} {l : Lexeme}

/-- Outside of commands, blanks and comments are passed over. -/
theorem Builder.add_outside_of_filler
    (hk : l.kind = .space ∨ l.kind = .newline ∨ l.kind = .lineComment ∨ l.kind = .bracketComment) :
    ∃ es', (Builder.mk es .outside).add l = .ok ⟨es', .outside⟩ := by
  obtain ⟨k, p⟩ := l
  rcases hk with rfl | rfl | rfl | rfl <;> exact ⟨_, rfl⟩

theorem Builder.add_outside_of_name (hk : l.kind = .unquoted)
    (hname : isCommandName l.piece.text = true) :
    (Builder.mk es .outside).add l = .ok ⟨es, .named ⟨l.piece, []⟩⟩ := by
  obtain ⟨k, p⟩ := l
  obtain rfl : k = .unquoted := hk
  exact if_pos hname

/-- Outside of commands, nothing else can stand than blanks, comments and the names of commands. -/
theorem Builder.add_outside_of_other (hspace : l.kind ≠ .space) (hnewline : l.kind ≠ .newline)
    (hline : l.kind ≠ .lineComment) (hbracket : l.kind ≠ .bracketComment)
    (hclose : l.kind ≠ .closeParen)
    (hname : l.kind = .unquoted → ¬isCommandName l.piece.text = true) :
    (Builder.mk es .outside).add l = .error ⟨.expectedCommand l.piece.text, l.piece.start⟩ := by
  obtain ⟨k, p⟩ := l
  cases k with
  | unquoted => exact if_neg (hname rfl)
  | openParen | quoted | bracket | squareUnquoted => rfl
  | _ => contradiction

/-- Between parentheses all but parentheses are taken as they come. -/
theorem Builder.add_inside_of_other (hopen : l.kind ≠ .openParen) (hclose : l.kind ≠ .closeParen) :
    ∃ item, (Builder.mk es (.inside header top outer)).add l
      = .ok ⟨es, .inside header (top.add item) outer⟩ := by
  obtain ⟨k, p⟩ := l
  cases k with
  | openParen | closeParen => contradiction
  | _ => exact ⟨_, rfl⟩

/-- Closing parentheses takes the innermost off. -/
theorem Builder.counts_close (hroom : outer.length < maxNesting) (closeAt : Nat) :
    ((Builder.mk es (.inside header top outer)).close header top outer closeAt).place.Counts
      outer.length (outer.map Pending.openAt) := by
  cases outer with
  | nil => exact ⟨rfl, rfl⟩
  | cons below outer => exact ⟨rfl, rfl, hroom.le⟩

end

/-! ### Side by side -/

/-- **A builder comes upon the same fault as the pass.** -/
theorem fault?_eq_firstFault {b : Builder} {stop depth : Nat} {opened : List Nat} {ls : List Lexeme}
    (h : b.place.Counts depth opened) : b.fault? stop ls = firstFault stop depth opened ls := by
  obtain ⟨es, place⟩ := b
  -- along the pass; what is open outside of commands and between parentheses tells the builder's place
  fun_induction firstFault stop depth opened ls generalizing es place with
  | case1 depth opened =>
    cases place with
    | outside =>
      obtain ⟨-, rfl⟩ := h
      rfl
    | named header => exact h.elim
    | inside header top outer =>
      obtain ⟨-, rfl, -⟩ := h
      rfl
  | case2 opened l rest hk ih | case3 opened l rest hk ih | case4 opened l rest hk ih
  | case5 opened l rest hk ih =>
    obtain ⟨rfl, rfl⟩ := Place.eq_of_counts_zero h
    obtain ⟨es', hadd⟩ : ∃ es', (Builder.mk es .outside).add l = .ok ⟨es', .outside⟩ :=
      Builder.add_outside_of_filler (by simp [hk])
    rw [Builder.fault?_cons_of_ok hadd]
    exact ih es' .outside ⟨rfl, rfl⟩
  | case6 opened l rest hk =>
    obtain ⟨rfl, rfl⟩ := Place.eq_of_counts_zero h
    obtain ⟨k, p⟩ := l
    obtain rfl : k = .closeParen := hk
    exact Builder.fault?_cons_of_error rfl
  | case7 opened l rest hk hname hnext =>
    obtain ⟨rfl, rfl⟩ := Place.eq_of_counts_zero h
    obtain ⟨header', hnamed⟩ := Builder.fault?_named es ⟨l.piece, []⟩ stop rest
    rw [Builder.fault?_cons_of_ok (Builder.add_outside_of_name hk hname), hnamed, hnext]
  | case8 opened l rest hk hname next hnext hopen ih =>
    obtain ⟨rfl, rfl⟩ := Place.eq_of_counts_zero h
    obtain ⟨header', hnamed⟩ := Builder.fault?_named es ⟨l.piece, []⟩ stop rest
    rw [Builder.fault?_cons_of_ok (Builder.add_outside_of_name hk hname), hnamed, hnext]
    dsimp only
    rw [if_pos hopen]
    exact ih es _ ⟨rfl, rfl, by decide⟩
  | case9 opened l rest hk hname next hnext hopen =>
    obtain ⟨rfl, rfl⟩ := Place.eq_of_counts_zero h
    obtain ⟨header', hnamed⟩ := Builder.fault?_named es ⟨l.piece, []⟩ stop rest
    rw [Builder.fault?_cons_of_ok (Builder.add_outside_of_name hk hname), hnamed, hnext]
    exact if_neg hopen
  | case10 opened l rest hk hname =>
    obtain ⟨rfl, rfl⟩ := Place.eq_of_counts_zero h
    refine Builder.fault?_cons_of_error (Builder.add_outside_of_other ?_ ?_ ?_ ?_ ?_ fun _ => hname)
    all_goals simp [hk]
  | case11 opened l rest hspace hnewline hline hbracket hclose hunquoted =>
    obtain ⟨rfl, rfl⟩ := Place.eq_of_counts_zero h
    exact Builder.fault?_cons_of_error
      (Builder.add_outside_of_other hspace hnewline hline hbracket hclose fun hk => (hunquoted hk).elim)
  | case12 opened l rest below hk hdeep =>
    obtain ⟨header, top, outer, rfl, rfl, rfl, hlimit⟩ := Place.eq_of_counts_succ h
    obtain ⟨k, p⟩ := l
    obtain rfl : k = .openParen := hk
    exact Builder.fault?_cons_of_error (if_pos (by omega))
  | case13 opened l rest below hk hroom ih =>
    obtain ⟨header, top, outer, rfl, rfl, rfl, hlimit⟩ := Place.eq_of_counts_succ h
    obtain ⟨k, p⟩ := l
    obtain rfl : k = .openParen := hk
    have hadd : (Builder.mk es (.inside header top outer)).add ⟨.openParen, p⟩
        = .ok ⟨es, .inside header ⟨p.start, []⟩ (top :: outer)⟩ := if_neg (by omega)
    rw [Builder.fault?_cons_of_ok hadd]
    exact ih es _ ⟨rfl, rfl, by omega⟩
  | case14 opened l rest below hk ih =>
    obtain ⟨header, top, outer, rfl, rfl, rfl, hlimit⟩ := Place.eq_of_counts_succ h
    obtain ⟨k, p⟩ := l
    obtain rfl : k = .closeParen := hk
    have hadd : (Builder.mk es (.inside header top outer)).add ⟨.closeParen, p⟩
        = .ok ((Builder.mk es (.inside header top outer)).close header top outer p.start) := rfl
    rw [Builder.fault?_cons_of_ok hadd]
    exact ih _ _ (Builder.counts_close hlimit p.start)
  | case15 opened l rest below hopen hclose ih =>
    obtain ⟨header, top, outer, rfl, rfl, rfl, hlimit⟩ := Place.eq_of_counts_succ h
    obtain ⟨item, hadd⟩ : ∃ item, (Builder.mk es (.inside header top outer)).add l
        = .ok ⟨es, .inside header (top.add item) outer⟩ :=
      Builder.add_inside_of_other hopen hclose
    rw [Builder.fault?_cons_of_ok hadd]
    exact ih es _ ⟨rfl, rfl, hlimit⟩

/-! ### Texts -/

section
variable {source : List Char} {ls : List Lexeme}

theorem mem_elements_of_mem_commands {f : File} {c : Command} (h : c ∈ f.commands) :
    Element.command c ∈ f.elements := by
  obtain ⟨e, he, hec⟩ := List.mem_filterMap.1 h
  cases e with
  | command c' =>
    cases hec
    exact he
  | _ => cases hec

/-- The tree of a text whose lexemes are known. -/
theorem parse_of_lexemes (h : lexemes source = .ok ls) :
    File.parse source = (ls.foldlM Builder.add .start >>= (·.finish (byteLength source))) := by
  unfold File.parse
  rw [h]
  rfl

theorem fault?_start_of_lexemes (h : lexemes source = .ok ls) :
    Builder.start.fault? (byteLength source) ls
      = match File.parse source with
        | .ok _ => none
        | .error f => some f := by
  rw [parse_of_lexemes h]
  rfl

end

end Listfile.Tree
