/-!
# Finding text in text

* `splitOnce?`: cut a text around the first occurrence of another.
* `dropPrefix?`: take a given text off the front.
* `splitAtChar`: the parts of a text between the occurrences of a character.
-/

namespace Listfile

/-- The rest of a text that starts with `front`. -/
def dropPrefix? : List Char → List Char → Option (List Char)
  | [], text => some text
  | c :: front, d :: text => if c = d then dropPrefix? front text else none
  | _ :: _, [] => none

theorem dropPrefix?_eq_some_iff {front text rest : List Char} :
    dropPrefix? front text = some rest ↔ text = front ++ rest := by
  induction front generalizing text with
  | nil => simp [dropPrefix?, eq_comm]
  | cons c front ih =>
    cases text with
    | nil => simp [dropPrefix?]
    | cons d text =>
      by_cases h : c = d
      · subst h; simp [dropPrefix?, ih]
      · have h' : ¬d = c := fun e => h e.symm
        simp [dropPrefix?, h, h']

/-- What stands before and after the first occurrence of `mark`. -/
def splitOnce? (mark : List Char) : List Char → Option (List Char × List Char)
  | [] => if mark = [] then some ([], []) else none
  | c :: cs =>
    match dropPrefix? mark (c :: cs) with
    | some rest => some ([], rest)
    | none => (splitOnce? mark cs).map fun p => (c :: p.1, p.2)

theorem splitOnce?_append {mark text left right : List Char}
    (h : splitOnce? mark text = some (left, right)) : text = left ++ (mark ++ right) := by
  induction text generalizing left with
  | nil =>
    by_cases hm : mark = []
    · simp [splitOnce?, hm] at h; simp [h, hm]
    · simp [splitOnce?, hm] at h
  | cons c cs ih =>
    cases hd : dropPrefix? mark (c :: cs) with
    | some rest =>
      simp only [splitOnce?, hd, Option.some.injEq, Prod.mk.injEq] at h
      obtain ⟨rfl, rfl⟩ := h
      simpa using dropPrefix?_eq_some_iff.1 hd
    | none =>
      simp only [splitOnce?, hd, Option.map_eq_some_iff, Prod.mk.injEq, Prod.exists] at h
      obtain ⟨a, b, hab, rfl, rfl⟩ := h
      simp [ih hab]

/-- The parts of a text between the occurrences of a character. -/
def splitAtChar (mark : Char) : List Char → List (List Char)
  | [] => [[]]
  | c :: cs =>
    if c = mark then [] :: splitAtChar mark cs
    else match splitAtChar mark cs with
      | part :: parts => (c :: part) :: parts
      | [] => [[c]]

end Listfile
