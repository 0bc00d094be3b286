import Listfile.Proofs.Text.Quoting
import Listfile.Scope

/-!
# Lists of scopes

Scopes are written with a space between them, and read again at the blanks.  So a list is read as it was written
if its scopes are words.

* `IsWord`, `Scope.IsWord`: names that can be told apart in a list.
* `words_intercalate`: the words of a text that was put together from words.
* **`Scope.parseList_join`**: lists of scopes are read as they were written.
* `Scope.spacesOnly_join`: no other blank than the space gets into a list.
-/

namespace Listfile

variable {w rest : List Char}

/-! ### Words -/

/-- A text that is not empty and has no blanks. -/
def IsWord (w : List Char) : Prop := w ≠ [] ∧ ∀ c ∈ w, isBlank c = false

instance (w : List Char) : Decidable (IsWord w) :=
  have := List.decidableBAll (fun c => isBlank c = false) w
  inferInstanceAs (Decidable (_ ∧ _))

/-- A word is read until a blank comes. -/
theorem wordsFrom_append (h : ∀ c ∈ w, isBlank c = false) (begun rest : List Char) :
    wordsFrom begun (w ++ rest) = wordsFrom (w.reverse ++ begun) rest := by
  induction w generalizing begun with
  | nil => rfl
  | cons c w ih =>
    obtain ⟨hc, hw⟩ := List.forall_mem_cons.1 h
    rw [List.cons_append, wordsFrom, if_neg (by simp [hc]), ih hw, List.reverse_cons, List.append_assoc,
      List.singleton_append]

theorem words_of_isWord (h : IsWord w) : words w = [w] := by
  have hread := wordsFrom_append h.2 [] []
  rw [List.append_nil, List.append_nil, wordsFrom, List.reverse_reverse] at hread
  · exact hread
  · exact fun hnil => h.1 (List.reverse_eq_nil_iff.1 hnil)

theorem words_append_space (h : IsWord w) (rest : List Char) : words (w ++ ' ' :: rest) = w :: words rest := by
  have hbegun : w.reverse.isEmpty = false := by simpa using h.1
  rw [words, wordsFrom_append h.2, List.append_nil, wordsFrom, if_pos (by decide), hbegun,
    if_neg Bool.false_ne_true, List.reverse_reverse]
  rfl

/-- Words with spaces between them are found again. -/
theorem words_intercalate {ws : List (List Char)} (h : ∀ w ∈ ws, IsWord w) : words ([' '].intercalate ws) = ws := by
  induction ws with
  | nil => rfl
  | cons w ws ih =>
    obtain ⟨hw, hws⟩ := List.forall_mem_cons.1 h
    cases ws with
    | nil => rw [List.intercalate_singleton, words_of_isWord hw]
    | cons v vs =>
      rw [List.intercalate_cons_cons, List.append_assoc, List.singleton_append, words_append_space hw, ih hws]

theorem spacesOnly_intercalate {ws : List (List Char)} (h : ∀ w ∈ ws, SpacesOnly w) :
    SpacesOnly ([' '].intercalate ws) := by
  induction ws with
  | nil => exact List.forall_mem_nil _
  | cons w ws ih =>
    obtain ⟨hw, hws⟩ := List.forall_mem_cons.1 h
    cases ws with
    | nil =>
      rw [List.intercalate_singleton]
      exact hw
    | cons v vs =>
      rw [List.intercalate_cons_cons]
      exact spacesOnly_append.2 ⟨spacesOnly_append.2 ⟨hw, by decide⟩, ih hws⟩

/-! ### Scopes -/

namespace Scope

/-- The name of the scope is not empty and has no blanks. -/
def IsWord (s : Scope) : Prop := Listfile.IsWord s.name.toList

instance (s : Scope) : Decidable s.IsWord := inferInstanceAs (Decidable (Listfile.IsWord _))

variable {scopes : List Scope}

theorem toList_join (scopes : List Scope) :
    (join scopes).toList = [' '].intercalate (scopes.map fun s => s.name.toList) := by
  rw [join, String.toList_intercalate, List.map_map]
  rfl

/-- **Lists of scopes are read as they were written.** -/
theorem parseList_join (h : ∀ s ∈ scopes, s.IsWord) : parseList (join scopes) = scopes := by
  have hwords : ∀ w ∈ scopes.map fun s => s.name.toList, Listfile.IsWord w := by
    intro w hw
    obtain ⟨s, hs, rfl⟩ := List.mem_map.1 hw
    exact h s hs
  rw [parseList, toList_join, words_intercalate hwords, List.map_map]
  refine (List.map_congr_left fun s _ => ?_).trans (List.map_id scopes)
  rw [Function.comp_apply, String.ofList_toList]
  rfl

theorem IsWord.spacesOnly {s : Scope} (h : s.IsWord) : SpacesOnly s.name.toList := spacesOnly_of_noBlank h.2

theorem spacesOnly_join (h : ∀ s ∈ scopes, s.IsWord) : SpacesOnly (join scopes).toList := by
  rw [toList_join]
  refine spacesOnly_intercalate fun w hw => ?_
  obtain ⟨s, hs, rfl⟩ := List.mem_map.1 hw
  exact (h s hs).spacesOnly

end Scope

end Listfile
