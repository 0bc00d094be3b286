import Listfile.CommandLine.Files
import Mathlib.Tactic.Common

/-!
# Files are read back as they were written

* `Files.locate_write`: paths lead to where they led before.
* **`Files.read_write`**, **`Files.read_write_of_ne`**: a file that was written is read back, and all others are
  as before.
-/

namespace Listfile.CommandLine.Files

variable {fs : Files} {path : String} {old bytes : List UInt8}

/-! ### Where paths lead -/

theorem lookup_map (entries : List (Names × List UInt8)) (names key : Names) (bytes : List UInt8) :
    (entries.map fun e => if e.1 = names then (names, bytes) else e).lookup key
      = if key = names then (entries.lookup key).map fun _ => bytes else entries.lookup key := by
  induction entries with
  | nil => split <;> rfl
  | cons e entries ih =>
    obtain ⟨k, v⟩ := e
    have hkey : (if k = names then (names, bytes) else (k, v)).1 = k := by
      split
      · rename_i hk
        exact hk.symm
      · rfl
    rw [List.map_cons, List.lookup_cons, List.lookup_cons, ih, hkey]
    by_cases hk : key = k
    · subst hk
      rw [beq_self_eq_true]
      dsimp only
      split <;> rfl
    · rw [beq_eq_false_iff_ne.2 hk]

theorem isDirectory_write (path : String) (bytes : List UInt8) :
    (fs.write path bytes).isDirectory = fs.isDirectory := by
  funext key
  unfold write
  split
  · rename_i names _
    unfold isDirectory
    rw [List.any_map]
    congr 2
    funext e
    show (key.isPrefixOf (if e.1 = names then (names, bytes) else e).1
      && key != (if e.1 = names then (names, bytes) else e).1) = _
    split
    · rename_i he
      rw [he]
    · rfl
  · rfl

theorem step_write (path : String) (bytes : List UInt8) : (fs.write path bytes).step = fs.step := by
  have hlookup : ∀ key, ((fs.write path bytes).entries.lookup key).isSome = (fs.entries.lookup key).isSome := by
    intro key
    unfold write
    split
    · rw [lookup_map]
      split
      · exact Option.isSome_map
      · rfl
    · rfl
  funext place part
  unfold step
  simp only [hlookup, isDirectory_write]

/-- Writing a file does not change where paths lead. -/
theorem locate_write (path : String) (bytes : List UInt8) : (fs.write path bytes).locate = fs.locate := by
  funext p
  unfold locate
  rw [step_write]

/-! ### What files hold -/

/-- What is read where a path leads. -/
def readAt (fs : Files) : Location → Except ReadFault (List UInt8)
  | .file names => (fs.entries.lookup names).elim (.error .missing) .ok
  | .directory _ | .elsewhere => .error .isDirectory

theorem read_eq (fs : Files) (path : String) : fs.read path = (fs.locate path).bind fs.readAt := by
  unfold read
  cases fs.locate path with
  | error fault => rfl
  | ok place =>
    cases place with
    | directory names => rfl
    | elsewhere => rfl
    | file names =>
      dsimp only [bind, Except.bind, readAt]
      cases fs.entries.lookup names <;> rfl

theorem exists_of_read (h : fs.read path = .ok old) :
    ∃ names, fs.locate path = .ok (.file names) ∧ fs.entries.lookup names = some old := by
  rw [read_eq] at h
  cases hlocate : fs.locate path with
  | error fault =>
    rw [hlocate] at h
    cases h
  | ok place =>
    rw [hlocate] at h
    cases place with
    | directory names => cases h
    | elsewhere => cases h
    | file names =>
      refine ⟨names, rfl, ?_⟩
      change (fs.entries.lookup names).elim _ _ = _ at h
      cases hlookup : fs.entries.lookup names with
      | none =>
        rw [hlookup] at h
        cases h
      | some found =>
        rw [hlookup] at h
        cases h
        rfl

/-- **A file that was written is read back.** -/
theorem read_write (h : fs.read path = .ok old) (bytes : List UInt8) :
    (fs.write path bytes).read path = .ok bytes := by
  obtain ⟨names, hlocate, hlookup⟩ := exists_of_read h
  rw [read_eq, locate_write, hlocate, write, hlocate]
  show ((entries _).lookup names).elim _ _ = _
  rw [lookup_map, if_pos rfl, hlookup]
  rfl

/-- **Writing a file leaves the others as they are.** -/
theorem read_write_of_ne {p : String} (hp : fs.locate p ≠ fs.locate path) (bytes : List UInt8) :
    (fs.write path bytes).read p = fs.read p := by
  rw [read_eq, read_eq, locate_write, write]
  cases hlocate : fs.locate p with
  | error fault => rfl
  | ok place =>
    cases place with
    | directory names => rfl
    | elsewhere => rfl
    | file key =>
      show ((entries _).lookup key).elim _ _ = _
      split
      · rename_i names hpath
        have hne : key ≠ names := by
          rintro rfl
          exact hp (hlocate.trans hpath.symm)
        rw [lookup_map, if_neg hne]
        rfl
      · rfl

end Listfile.CommandLine.Files
