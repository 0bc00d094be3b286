import Listfile.Proofs.Tree.Failing
import Mathlib.Data.List.Forall2

/-!
# Arguments of trees and their lexemes

The lexemes that can be arguments are the names of commands and their arguments, however these are nested.

* `Part`, `File.parts`: the names and arguments of a file, one after the other.
* `Lexeme.Reads`: a lexeme that is read as a name or as an argument.
* `Builder.parts_add`, `Builder.parts_foldlM`: what the next lexeme, and what all lexemes are read as.
* `Increasing`: spans one behind the other.
* **`parts_of_parse`**: no lexeme that can be an argument is lost, and none is read twice.
-/

namespace Listfile.Tree

/-! ### Names and arguments -/

/-- The name of a command, or an argument. -/
inductive Part
  | name (piece : Piece)
  | argument (a : Argument)

/-- The text of a part, and where it begins. -/
def Part.piece : Part → Piece
  | name p => p
  | argument a => a.piece

/-- The name of a command, and its arguments. -/
def Command.parts (c : Command) : List Part := .name c.name :: c.flatArguments.map .argument

/-- The names and arguments of a file. -/
def File.parts (f : File) : List Part := f.commands.flatMap Command.parts

/-- A lexeme is read as a name or as an argument.  An argument without quotes is one however it begins. -/
inductive Lexeme.Reads : Lexeme → Part → Prop
  | name (p : Piece) : Reads ⟨.unquoted, p⟩ (.name p)
  | quoted (p : Piece) : Reads ⟨.quoted, p⟩ (.argument ⟨.quoted, p⟩)
  | bracket (p : Piece) : Reads ⟨.bracket, p⟩ (.argument ⟨.bracket, p⟩)
  | squareUnquoted (p : Piece) : Reads ⟨.squareUnquoted, p⟩ (.argument ⟨.unquoted, p⟩)
  | unquoted (p : Piece) : Reads ⟨.unquoted, p⟩ (.argument ⟨.unquoted, p⟩)

theorem Lexeme.Reads.piece_eq {l : Lexeme} {part : Part} (h : l.Reads part) : part.piece = l.piece := by
  cases h <;> rfl

/-- Those of the lexemes that can be arguments are read as the parts, in order. -/
def ReadAs (ls : List Lexeme) (parts : List Part) : Prop :=
  List.Forall₂ Lexeme.Reads (ls.filter (·.kind.isArgument)) parts

theorem ReadAs.append {ls ms : List Lexeme} {parts more : List Part} (h : ReadAs ls parts)
    (h' : ReadAs ms more) : ReadAs (ls ++ ms) (parts ++ more) := by
  rw [ReadAs, List.filter_append]
  exact List.rel_append h h'

/-- A lexeme that cannot be an argument is read as none. -/
theorem readAs_nil {l : Lexeme} (h : l.kind.isArgument = false) : ReadAs [l] [] := by
  rw [ReadAs, List.filter_cons_of_neg (by simp [h])]
  exact .nil

theorem readAs_singleton {l : Lexeme} {part : Part} (h : l.Reads part) : ReadAs [l] [part] := by
  have hfilter : [l].filter (·.kind.isArgument) = [l] := by cases h <;> rfl
  rw [ReadAs, hfilter]
  exact .cons h .nil

/-! ### What a builder has read -/

@[simp] theorem argumentsOf_append (is js : List Item) :
    argumentsOf (is ++ js) = argumentsOf is ++ argumentsOf js := by
  induction is with
  | nil => rfl
  | cons i is ih => rw [List.cons_append, argumentsOf, argumentsOf, ih, List.append_assoc]

/-- The arguments of an item, as parts. -/
def Item.parts (i : Item) : List Part := i.arguments.map .argument

/-- The names and arguments of an element. -/
def Element.parts : Element → List Part
  | .command c => c.parts
  | .comment _ _ | .space _ | .newline _ => []

/-- The arguments in parentheses that are not closed. -/
def Pending.parts (p : Pending) : List Part := (argumentsOf p.items.reverse).map .argument

/-- The arguments in parentheses that are not closed, the innermost first. -/
def pendingParts : List Pending → List Part
  | [] => []
  | p :: ps => pendingParts ps ++ p.parts

/-- The name and the arguments of what is being read. -/
def Place.parts : Place → List Part
  | .outside => []
  | .named header => [.name header.name]
  | .inside header top outer => .name header.name :: pendingParts (top :: outer)

/-- The names and arguments that a builder has read. -/
def Builder.parts (b : Builder) : List Part := b.elements.reverse.flatMap Element.parts ++ b.place.parts

theorem Pending.parts_add (p : Pending) (i : Item) : (p.add i).parts = p.parts ++ i.parts := by
  simp [Pending.parts, Pending.add, Item.parts, argumentsOf]

theorem pendingParts_add (p : Pending) (i : Item) (ps : List Pending) :
    pendingParts (p.add i :: ps) = pendingParts (p :: ps) ++ i.parts := by
  simp [pendingParts, Pending.parts_add]

section
variable {b b' : Builder} {es : List Element} {header : Header} {top : Pending} {outer : List Pending}
  {l : Lexeme}

theorem Builder.parts_push (e : Element) :
    ((Builder.mk es .outside).push e).parts = (Builder.mk es .outside).parts ++ e.parts := by
  simp [Builder.parts, Builder.push, Place.parts]

/-- An item more between the parentheses. -/
theorem Builder.parts_item (i : Item) :
    (Builder.mk es (.inside header (top.add i) outer)).parts
      = (Builder.mk es (.inside header top outer)).parts ++ i.parts := by
  simp [Builder.parts, Place.parts, pendingParts_add]

/-- Closing parentheses reads nothing. -/
theorem Builder.parts_close (closeAt : Nat) :
    ((Builder.mk es (.inside header top outer)).close header top outer closeAt).parts
      = (Builder.mk es (.inside header top outer)).parts := by
  cases outer with
  | nil => simp [Builder.close, Builder.push, Builder.parts, Place.parts, Element.parts, Command.parts,
      Command.flatArguments, pendingParts, Pending.parts]
  | cons below outer =>
    show (Builder.mk es (.inside header (below.add (.group top.openAt top.items.reverse closeAt)) outer)).parts = _
    rw [Builder.parts_item]
    simp [Builder.parts, Place.parts, pendingParts, Pending.parts, Item.parts, Item.arguments]

theorem Lexeme.IsElement.readAs {e : Element} (he : l.IsElement e) : ReadAs [l] e.parts := by
  cases he <;> exact readAs_nil rfl

theorem Lexeme.IsItem.readAs {i : Item} (hi : l.IsItem i) : ReadAs [l] i.parts := by
  cases hi with
  | quoted p => exact readAs_singleton (.quoted p)
  | bracket p => exact readAs_singleton (.bracket p)
  | squareUnquoted p => exact readAs_singleton (.squareUnquoted p)
  | unquoted p => exact readAs_singleton (.unquoted p)
  | _ => exact readAs_nil rfl

/-- **The next lexeme is read as a name or as an argument**, unless it cannot be an argument. -/
theorem Builder.parts_add (h : b.add l = .ok b') :
    ∃ parts, b'.parts = b.parts ++ parts ∧ ReadAs [l] parts := by
  cases Builder.takes_of_add h with
  | element he => exact ⟨_, Builder.parts_push _, he.readAs⟩
  | @name _ p hname => exact ⟨[.name p], by simp [Builder.parts, Place.parts], readAs_singleton (.name p)⟩
  | item hi => exact ⟨_, Builder.parts_item _, hi.readAs⟩
  | close header top outer p => exact ⟨[], by rw [Builder.parts_close, List.append_nil], readAs_nil rfl⟩
  | blanks header p | arguments header p | nested hroom =>
    refine ⟨[], ?_, readAs_nil rfl⟩
    simp [Builder.parts, Place.parts, pendingParts, Pending.parts, argumentsOf]

/-- All lexemes are read, in order. -/
theorem Builder.parts_foldlM {ls : List Lexeme} (h : ls.foldlM Builder.add b = .ok b') :
    ∃ parts, b'.parts = b.parts ++ parts ∧ ReadAs ls parts := by
  induction ls generalizing b with
  | nil =>
    cases h
    exact ⟨[], (List.append_nil _).symm, .nil⟩
  | cons l ls ih =>
    obtain ⟨b₁, hadd, hfold⟩ := Builder.exists_add_of_foldlM h
    obtain ⟨first, hfirst, hl⟩ := Builder.parts_add hadd
    obtain ⟨rest, hrest, hls⟩ := ih hfold
    refine ⟨first ++ rest, ?_, hl.append hls⟩
    rw [hrest, hfirst, List.append_assoc]

end

/-- Only commands have names and arguments. -/
theorem File.parts_eq (f : File) : f.parts = f.elements.flatMap Element.parts := by
  obtain ⟨es⟩ := f
  show (File.mk es).commands.flatMap Command.parts = es.flatMap Element.parts
  rw [File.commands]
  induction es with
  | nil => rfl
  | cons e es ih =>
    rw [List.flatMap_cons, ← ih]
    cases e <;> rfl

/-! ### Places -/

/-- None of the spans is empty, and each stands behind those before it. -/
def Increasing (ss : List Span) : Prop :=
  (∀ s ∈ ss, s.start < s.stop) ∧ ss.Pairwise fun s t => s.stop ≤ t.start

theorem Increasing.sublist {ss ts : List Span} (h : ss.Sublist ts) (ht : Increasing ts) : Increasing ss :=
  ⟨fun s hs => ht.1 s (h.subset hs), ht.2.sublist h⟩

/-- Spans without gaps stand one behind the other. -/
theorem pairwise_of_tiles {start stop : Nat} {ss : List Span} (h : Tiles start ss stop) :
    (∀ s ∈ ss, start ≤ s.start) ∧ ss.Pairwise fun s t => s.stop ≤ t.start := by
  induction ss generalizing start with
  | nil => exact ⟨List.forall_mem_nil _, .nil⟩
  | cons s ss ih =>
    obtain ⟨rfl, hle, hss⟩ := h
    obtain ⟨hbehind, hpairs⟩ := ih hss
    exact ⟨List.forall_mem_cons.2 ⟨le_rfl, fun t ht => hle.trans (hbehind t ht)⟩,
      List.pairwise_cons.2 ⟨hbehind, hpairs⟩⟩

/-- Lexemes stand one behind the other. -/
theorem increasing_lexemes {source : List Char} {ls : List Lexeme} (h : lexemes source = .ok ls) :
    Increasing (ls.map fun l => l.piece.span) := by
  rcases lexemes_total source with ⟨ls', hls, htiles, hall⟩ | ⟨fault, before, rest, herror, -⟩
  · rw [h] at hls
    cases hls
    refine ⟨?_, (pairwise_of_tiles htiles).2⟩
    intro s hs
    obtain ⟨l, hl, rfl⟩ := List.mem_map.1 hs
    exact (hall l hl).2.1
  · rw [h] at herror
    cases herror

theorem spans_of_readAs {ls : List Lexeme} {parts : List Part} (h : ReadAs ls parts) :
    parts.map (fun part => part.piece.span)
      = (ls.filter (·.kind.isArgument)).map fun l => l.piece.span := by
  unfold ReadAs at h
  generalize ls.filter (·.kind.isArgument) = read at h
  induction h with
  | nil => rfl
  | cons hread _ ih => rw [List.map_cons, List.map_cons, ih, hread.piece_eq]

/-! ### Trees of texts -/

/-- **No argument is lost, and none is read twice.**  The lexemes that can be arguments are the names of the
commands and their arguments, one after the other: behind each name the arguments of its command, those in
groups as well.  Every lexeme stands where the name or the argument stands that it is read as, and these stand
one behind the other. -/
theorem parts_of_parse {source : List Char} {f : File} (h : File.parse source = .ok f) :
    ∃ ls, lexemes source = .ok ls ∧
      List.Forall₂ Lexeme.Reads (ls.filter (·.kind.isArgument)) f.parts ∧
      Increasing (f.parts.map fun part => part.piece.span) := by
  obtain ⟨ls, es, hls, hfold, hf⟩ := parse_steps h
  obtain ⟨parts, hparts, hread⟩ := Builder.parts_foldlM hfold
  have hfile : f.parts = parts := by
    rw [File.parts_eq, hf]
    simpa [Builder.parts, Builder.start, Place.parts] using hparts
  rw [hfile]
  refine ⟨ls, hls, hread, ?_⟩
  rw [spans_of_readAs hread]
  exact (increasing_lexemes hls).sublist (List.filter_sublist.map _)

/-- Groups in a group, arguments of all kinds, and a command without arguments. -/
theorem parts_of_parse_groups : ∃ f ls,
    File.parse "if (a (\"b\" ([[c]])[d))# e\nf()".toList = .ok f ∧
      lexemes "if (a (\"b\" ([[c]])[d))# e\nf()".toList = .ok ls ∧
      f.parts.map (fun part => part.piece.text)
        = ["if".toList, ['a'], "\"b\"".toList, "[[c]]".toList, "[d".toList, ['f']] ∧
      List.Forall₂ Lexeme.Reads (ls.filter (·.kind.isArgument)) f.parts ∧
      Increasing (f.parts.map fun part => part.piece.span) := by
  have hparse : (File.parse "if (a (\"b\" ([[c]])[d))# e\nf()".toList).map
      (fun f => f.parts.map fun part => part.piece.text)
        = .ok ["if".toList, ['a'], "\"b\"".toList, "[[c]]".toList, "[d".toList, ['f']] := by
    decide +kernel
  obtain ⟨f, hf, htexts⟩ := map_eq_ok.1 hparse
  obtain ⟨ls, hls, hread, hplaces⟩ := parts_of_parse hf
  exact ⟨f, ls, hf, hls, htexts, hread, hplaces⟩

end Listfile.Tree
