import Listfile.Grammar.Variables
import Listfile.Proofs.Grammar.Compiling
import Mathlib.Data.List.Basic

/-!
# Patterns with values in place of variables

Where no value uses a variable, each variable stands for its text, and a pattern for what it becomes once
these are put in.

* `Plain`: a text without placeholders.
* **`resolve_of_plain`**: the values of a table whose values are plain.
* **`expand_eq`**: a pattern whose variables are all known.
-/

namespace Listfile.Grammar

variable {text : List Char}

/-! ### Pieces -/

/-- The text has no placeholders. -/
def Plain (text : List Char) : Prop := ∀ name, Piece.var name ∉ pieces text

/-- The text of a piece, given the values of variables. -/
def Piece.textWith (value : List Char → List Char) : Piece → List Char
  | char c => [c]
  | var name => value name

theorem pieces_of_plain (h : Plain text) : pieces text = text.map .char := by
  have hpieces : ∀ text, (∀ name, Piece.var name ∉ piecesFrom 0 text) → piecesFrom 0 text = text.map .char := by
    intro text
    induction text with
    | nil => exact fun _ => rfl
    | cons c cs ih =>
      intro h
      rw [piecesFrom] at h ⊢
      split at h
      · exact absurd List.mem_cons_self (h _)
      · rw [ih fun name hname => h name (List.mem_cons_of_mem _ hname)]
        rfl
  exact hpieces text h

theorem flatMap_pieces_of_plain (h : Plain text) (value : List Char → List Char) :
    (pieces text).flatMap (Piece.textWith value) = text := by
  rw [pieces_of_plain h, List.flatMap_map]
  exact List.flatMap_singleton' text

/-- A text without braces has no placeholders. -/
theorem plain_of_not_mem (h : '\x7B' ∉ text) : Plain text := by
  have hbrace : ∀ (text : List Char) (skipped : Nat) (name : List Char),
      Piece.var name ∈ piecesFrom skipped text → '\x7B' ∈ text := by
    intro text
    induction text with
    | nil =>
      intro skipped name hname
      cases skipped <;> cases hname
    | cons c cs ih =>
      intro skipped name hname
      cases skipped with
      | succ skipped => exact List.mem_cons_of_mem _ (ih skipped name hname)
      | zero =>
        rw [piecesFrom] at hname
        split at hname
        · rename_i placeholder hplaceholder
          unfold placeholder? at hplaceholder
          split at hplaceholder
          · rename_i hcons
            rw [(List.cons_eq_cons.1 hcons).1]
            exact List.mem_cons_self
          · cases hplaceholder
        · rcases List.mem_cons.1 hname with hname | hname
          · cases hname
          · exact List.mem_cons_of_mem _ (ih 0 name hname)
  exact fun name hname => h (hbrace text 0 name hname)

/-- What a text becomes, if the values of its variables can be found. -/
theorem substitute_eq {m : Type → Type} [Monad m] [LawfulMonad m] {value : List Char → m (List Char)}
    {values : List Char → List Char}
    (h : ∀ name, Piece.var name ∈ pieces text → value name = pure (values name)) :
    substitute value text = pure ((pieces text).flatMap (Piece.textWith values)) := by
  have hparts : ∀ parts : List Piece, (∀ name, Piece.var name ∈ parts → value name = pure (values name)) →
      (parts.mapM fun | .char c => pure [c] | .var name => value name)
        = (pure (parts.map (Piece.textWith values)) : m (List (List Char))) := by
    intro parts
    induction parts with
    | nil => exact fun _ => List.mapM_nil
    | cons part parts ih =>
      intro h
      rw [List.mapM_cons, ih fun name hname => h name (List.mem_cons_of_mem _ hname)]
      cases part with
      | char c => simp [Piece.textWith]
      | var name => simp [Piece.textWith, h name List.mem_cons_self]
  exact (congrArg (· >>= fun parts => pure parts.flatten) (hparts _ h)).trans (pure_bind _ _)

theorem substitute_of_plain {m : Type → Type} [Monad m] [LawfulMonad m] {value : List Char → m (List Char)}
    (h : Plain text) : substitute value text = pure text := by
  have hvalues : ∀ name, Piece.var name ∈ pieces text → value name = pure ((fun _ => []) name) :=
    fun name hname => absurd hname (h name)
  rw [substitute_eq hvalues, flatMap_pieces_of_plain h]

namespace Variables

/-! ### Values -/

variable {table : List (String × String)}

/-- The values that have been found are texts of the table. -/
def FoundIn (table : List (String × String)) (found : List (String × List Char)) : Prop :=
  ∀ v ∈ found, ∃ body, table.lookup v.1 = some body ∧ v.2 = body.toList

/-- Where no value uses a variable, the value of a variable is its text. -/
theorem valueIn_of_plain (hplain : ∀ v ∈ table, Plain v.2.toList) {name body : String}
    (hname : table.lookup name = some body) (fuel : Nat) {found : List (String × List Char)}
    (hfound : FoundIn table found) :
    ∃ found', valueIn table (fuel + 1) [] name.toList found = .ok (body.toList, found') ∧
      FoundIn table found' := by
  have hget (f : List (String × List Char) → StateT (List (String × List Char)) (Except Fault) (List Char)) :
      (get >>= f) found = f found found := rfl
  unfold valueIn
  dsimp only
  rw [String.ofList_toList, hget]
  cases hlookup : found.lookup name with
  | some value =>
    obtain ⟨body', hbody', hvalue⟩ := hfound _ (Compiler.mem_of_lookup hlookup)
    obtain rfl : body = body' := Option.some.inj (hname.symm.trans hbody')
    refine ⟨found, ?_, hfound⟩
    rw [← hvalue]
    rfl
  | none =>
    refine ⟨(name, body.toList) :: found, ?_, List.forall_mem_cons.2 ⟨⟨body, hname, rfl⟩, hfound⟩⟩
    simp only [List.contains_nil, hname, substitute_of_plain (hplain _ (Compiler.mem_of_lookup hname))]
    rfl

/-- Where no value uses a variable, each variable stands for its text. -/
theorem values_of_plain (hplain : ∀ v ∈ table, Plain v.2.toList) (hnames : (table.map (·.1)).Nodup)
    (fuel : Nat) {part : List (String × String)} (hpart : ∀ v ∈ part, v ∈ table)
    {found : List (String × List Char)} (hfound : FoundIn table found) :
    ∃ found', (part.mapM fun v => do return (v.1, ← valueIn table (fuel + 1) [] v.1.toList) :
        StateT (List (String × List Char)) (Except Fault) (List (String × List Char))) found
      = .ok (part.map fun v => (v.1, v.2.toList), found') := by
  induction part generalizing found with
  | nil => exact ⟨found, rfl⟩
  | cons v part ih =>
    obtain ⟨hv, hpart⟩ := List.forall_mem_cons.1 hpart
    obtain ⟨found₁, hvalue, hfound₁⟩ := valueIn_of_plain hplain (Compiler.lookup_of_mem hnames hv) fuel hfound
    obtain ⟨found₂, hrest⟩ := ih hpart hfound₁
    refine ⟨found₂, ?_⟩
    have hrun (f : List Char → StateT (List (String × List Char)) (Except Fault)
        (List (String × List Char))) :
        (valueIn table (fuel + 1) [] v.1.toList >>= f) found = f v.2.toList found₁ := by
      show (valueIn table (fuel + 1) [] v.1.toList found >>= fun p => f p.1 p.2) = _
      rw [hvalue]
      rfl
    rw [List.mapM_cons, bind_assoc, hrun, pure_bind]
    show ((part.mapM _ : StateT (List (String × List Char)) (Except Fault) _) found₁ >>= _) = _
    rw [hrest]
    rfl

/-- **Where no value uses a variable, each variable stands for its text.** -/
theorem resolve_of_plain (hplain : ∀ v ∈ table, Plain v.2.toList) (hnames : (table.map (·.1)).Nodup) :
    resolve table = .ok ⟨table.map fun v => (v.1, v.2.toList)⟩ := by
  cases htable : table with
  | nil => rfl
  | cons v rest =>
    obtain ⟨found, hvalues⟩ := values_of_plain hplain hnames rest.length (fun _ h => h) (List.forall_mem_nil _)
    have hlength : rest.length + 1 = table.length := by rw [htable, List.length_cons]
    rw [hlength] at hvalues
    rw [← htable]
    show ((valuesOf table) [] >>= _) = _
    rw [show valuesOf table [] = _ from hvalues]
    rfl

/-- **What a pattern becomes**, if all its variables are known. -/
theorem expand_eq {vs : Variables} {values : List Char → List Char} {pattern : String}
    (h : ∀ name, Piece.var name ∈ pieces pattern.toList → vs.get? (String.ofList name) = some (values name))
    (usedIn : String) :
    vs.expand usedIn pattern = .ok ((pieces pattern.toList).flatMap (Piece.textWith values)) := by
  refine substitute_eq (m := Except Fault) fun name hname => ?_
  rw [h name hname]
  rfl

theorem expand_of_plain {pattern : String} (h : Plain pattern.toList) (vs : Variables) (usedIn : String) :
    vs.expand usedIn pattern = .ok pattern.toList :=
  substitute_of_plain (m := Except Fault) h

end Variables

end Listfile.Grammar
