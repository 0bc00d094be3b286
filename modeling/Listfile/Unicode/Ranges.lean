import Listfile.Text.Digits

/-!
# Sets of code points as tables of ranges

* `Ranges`: inclusive ranges in increasing order.
* `Ranges.ofLines`: the tables are written as lines of text, `41-5A 5F` for the capital letters and the
  low line.
* `Ranges.contains`: membership by binary search.
-/

namespace Listfile.Unicode

/-- Inclusive, disjoint ranges of code points in increasing order. -/
structure Ranges where
  bounds : Array (Nat × Nat)
deriving DecidableEq, Inhabited

namespace Ranges

/-- Reads ranges off their text: `low` holds the start of a range once its dash was seen, `value` the
number being read. -/
def readText : Option Nat → Nat → Array (Nat × Nat) → List Char → Array (Nat × Nat)
  | low, value, done, [] => done.push (low.getD value, value)
  | low, value, done, c :: cs =>
    if c = ' ' then readText none 0 (done.push (low.getD value, value)) cs
    else if c = '-' then readText (some value) 0 done cs
    else readText low (16 * value + (digitValue? c).getD 0) done cs

/-- The table written as the given lines. -/
def ofLines (lines : List String) : Ranges :=
  ⟨lines.foldl (fun done line => readText none 0 done line.toList) #[]⟩

/-- Binary search for a range around `n` among those with index from `lo` up to `hi`. -/
def searchFrom (bounds : Array (Nat × Nat)) (n : Nat) : Nat → Nat → Nat → Bool
  | 0, _, _ => false
  | fuel + 1, lo, hi =>
    if lo < hi then
      let mid := (lo + hi) / 2
      match bounds[mid]? with
      | some (first, last) =>
        if n < first then searchFrom bounds n fuel lo mid
        else if last < n then searchFrom bounds n fuel (mid + 1) hi
        else true
      | none => false
    else false

/-- Is the character in one of the ranges? -/
def contains (r : Ranges) (c : Char) : Bool :=
  searchFrom r.bounds c.toNat (r.bounds.size + 1) 0 r.bounds.size

end Ranges

end Listfile.Unicode
