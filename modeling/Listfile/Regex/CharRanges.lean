import Listfile.Regex.CharSet

/-!
# Sets of characters as ranges

* `CharSet.ranges`: the ranges that make up a set, in increasing order and as few as possible.
* `CharSet.byteSequences`: the ranges as sequences of ranges of bytes, in the UTF-8 encoding.
-/

namespace Listfile.Regex

/-! ### Ranges of characters -/

/-- The ends of the ranges of a table: the first code point of each, and the first behind it. -/
def tableCuts (t : Unicode.Ranges) : List Nat := t.bounds.toList.flatMap fun r => [r.1, r.2 + 1]

/-- The characters with case variants, each cut off from its neighbours. -/
def caseCuts : List Nat := Unicode.caseTable.toList.flatMap fun e => [e.1, e.1 + 1]

namespace CharSet

/-- Code points that include all those at which membership changes. -/
def cuts : CharSet → List Nat
  | single c => [c.toNat, c.toNat + 1]
  | range first last => [first.toNat, last.toNat + 1]
  | digits => [0x30, 0x3A] ++ tableCuts Unicode.Category.decimalNumber
  | blanks => tableCuts Unicode.Property.whiteSpace
  | wordChars =>
    [0x30, 0x3A, 0x41, 0x5B, 0x5F, 0x60, 0x61, 0x7B, 0x80] ++
      ([Unicode.Property.alphabetic, Unicode.Category.decimalNumber,
        Unicode.Category.connectorPunctuation, Unicode.Property.joinControl] ++
          Unicode.marks).flatMap tableCuts
  | tables ts => ts.flatMap tableCuts
  | all => []
  | union a b | inter a b | diff a b | symmDiff a b => a.cuts ++ b.cuts
  | compl a => a.cuts
  | anyCase (single c) => (Unicode.caseVariants c).flatMap fun d => [d.toNat, d.toNat + 1]
  | anyCase a => caseCuts ++ a.cuts

/-- At least as many as there are cuts at which membership changes. -/
def cutCount : CharSet → Nat
  | union a b | inter a b | diff a b | symmDiff a b => a.cutCount + b.cutCount
  | compl a => a.cutCount
  | anyCase (single _) => 10
  | anyCase (range first last) => 10 * (last.toNat + 1 - first.toNat)
  | anyCase a => 2 * Unicode.caseTable.size + a.cutCount
  | tables ts => (ts.map fun t => 2 * t.bounds.size).sum
  | wordChars | digits | blanks => 4000
  | _ => 2

/-- The ranges between neighbouring cuts that belong to a set; `open?` is the range that may go on. -/
def joinRanges (s : CharSet) : (open? : Option (Nat × Nat)) → List Nat → List (Nat × Nat)
  | open?, first :: next :: cuts =>
    if first.isValidChar && s.contains (Char.ofNat first) then
      match open? with
      | some (start, last) =>
        if last + 1 = first then joinRanges s (some (start, next - 1)) (next :: cuts)
        else (start, last) :: joinRanges s (some (first, next - 1)) (next :: cuts)
      | Option.none => joinRanges s (some (first, next - 1)) (next :: cuts)
    else open?.toList ++ joinRanges s Option.none (next :: cuts)
  | open?, _ => open?.toList

/-- Remove repetitions that stand next to each other. -/
def distinct : List Nat → List Nat
  | a :: b :: rest => if a = b then distinct (b :: rest) else a :: distinct (b :: rest)
  | rest => rest

/-- The ranges that make up a set. No range goes across the code points that are no characters. -/
def ranges (s : CharSet) : List (Nat × Nat) :=
  joinRanges s Option.none
    (distinct (([0, 0xD800, 0xE000, 0x110000] ++ s.cuts).mergeSort (· ≤ ·)))

end CharSet

/-! ### Ranges of bytes -/

/-- Where a range of characters has to be divided for its bytes to vary independently of each other: the
last character of the first part. -/
def lastOfFirstPart? (first last : Nat) : Option Nat :=
  let byLength := [0x7F, 0x7FF, 0xFFFF].find? fun n => first ≤ n && n < last
  let byBlock := [64, 4096, 262144].findSome? fun size =>
    if first / size = last / size then none
    else if first % size ≠ 0 then some (first / size * size + size - 1)
    else if last % size ≠ size - 1 then some (last / size * size - 1)
    else none
  byLength.or (if last ≤ 0x7F then none else byBlock)

/-- The parts of a range of which the bytes vary independently of each other. -/
def uniformParts : Nat → Nat → Nat → List (Nat × Nat)
  | 0, first, last => [(first, last)]
  | fuel + 1, first, last =>
    match lastOfFirstPart? first last with
    | some n => uniformParts fuel first n ++ uniformParts fuel (n + 1) last
    | none => [(first, last)]

/-- Ranges of bytes, one after the other. -/
abbrev ByteSequence := List (Nat × Nat)

/-- The bytes of a character. -/
def utf8Bytes (n : Nat) : List Nat := (String.utf8EncodeChar (Char.ofNat n)).map (·.toNat)

/-- The sequences of bytes of the characters of some ranges. -/
def byteSequences (ranges : List (Nat × Nat)) : List ByteSequence :=
  ranges.flatMap fun r =>
    (uniformParts 16 r.1 r.2).map fun p => (utf8Bytes p.1).zip (utf8Bytes p.2)

end Listfile.Regex
