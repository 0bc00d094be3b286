import Listfile.Regex.CharRanges
import Listfile.Regex.Expr

/-!
# The size of automata

A plain expression is matched by an automaton that reads bytes. It is refused if that automaton, or the
one that reads the text backwards, would take too much memory.

* `AutomatonSize`: the states of an automaton and the memory that they take.
* `Expr.grow`: the automaton of an expression, added to what there is.
* `Expr.fitsAutomaton`: is the automaton of an expression small enough?
-/

namespace Listfile.Regex

/-- The size of an automaton. -/
structure AutomatonSize where
  states : Nat
  /-- The bytes that transitions take besides the states. -/
  extra : Nat
deriving DecidableEq, Inhabited

namespace AutomatonSize

/-- The memory in bytes. -/
def memory (a : AutomatonSize) : Nat := 32 * a.states + a.extra

/-- The memory that an automaton may take. -/
def limit : Nat := 10485760

/-- Add states that take so many bytes besides. -/
def add (a : AutomatonSize) (states extra : Nat) : AutomatonSize :=
  ⟨a.states + states, a.extra + extra⟩

/-- Add a state with two ways on. -/
def addFork (a : AutomatonSize) : AutomatonSize := a.add 1 8

/-- Add something a number of times, but stop when there is too much already. -/
def addCopies (step : AutomatonSize → AutomatonSize) : Nat → AutomatonSize → AutomatonSize
  | 0, a => a
  | n + 1, a => if limit < a.memory then a else addCopies step n (step a)

end AutomatonSize

/-! ### Classes -/

/-- The continuations of byte sequences, for each range of bytes at their front. -/
def continuations : List ByteSequence → List ((Nat × Nat) × List ByteSequence)
  | [] => []
  | s :: rest =>
    match s, continuations rest with
    | r :: tail, (q, tails) :: groups =>
      if r = q then (q, tail :: tails) :: groups else (r, [tail]) :: (q, tails) :: groups
    | r :: tail, [] => [(r, [tail])]
    | [], groups => groups

/-- What can follow at some point of the given byte sequences, of which there are so many bytes at
most: each set of continuations is a state. -/
def continuationSets : Nat → List ByteSequence → List (List ByteSequence)
  | 0, _ => []
  | n + 1, seqs =>
    match continuations seqs with
    | [] => []
    | groups => seqs :: groups.flatMap fun g => continuationSets n g.2

/-- Add the states that read the byte sequences forwards, where equal ends are shared. -/
def AutomatonSize.addForward (seqs : List ByteSequence) (a : AutomatonSize) : AutomatonSize :=
  (continuationSets 4 seqs).eraseDups.foldl
    (fun a s => a.add 1 (8 * (continuations s).length)) (a.add 1 0)

/-- A transition that can be shared: the state it leads to, and its range of bytes. -/
structure SharedStep where
  target : Nat
  bytes : Nat × Nat
deriving DecidableEq, Inhabited

/-- The number of transitions that are kept for sharing. -/
def sharedSlots : Nat := 1000

/-- The slot in which a transition is kept. -/
def SharedStep.slot (s : SharedStep) : Nat :=
  let mix (h : UInt64) (n : Nat) : UInt64 := (h ^^^ UInt64.ofNat n) * 1099511628211
  (mix (mix (mix 14695981039346656037 s.target) s.bytes.1) s.bytes.2).toNat % sharedSlots

/-- The transitions that are kept, each with the state from which it starts. -/
abbrev SharedSteps := Array (Option (SharedStep × Nat))

/-- Add a state from which a range of bytes leads to a target, unless such a state is kept. The result
tells that state. -/
def AutomatonSize.addStep (s : SharedStep) (a : AutomatonSize) (kept : SharedSteps) :
    AutomatonSize × SharedSteps × Nat :=
  let fresh := (a.add 1 0, kept.setIfInBounds s.slot (some (s, a.states)), a.states)
  match (kept[s.slot]?).join with
  | some (t, state) => if t = s then (a, kept, state) else fresh
  | none => fresh

/-- Add the states that read the byte sequences backwards. -/
def AutomatonSize.addBackward (seqs : List ByteSequence) (a : AutomatonSize) : AutomatonSize :=
  let last := a.states + 1
  let addSequence (acc : AutomatonSize × SharedSteps) (seq : ByteSequence) :=
    let (a, kept, _) := seq.foldl (fun (a, kept, target) bytes => a.addStep ⟨target, bytes⟩ kept)
      (acc.1, acc.2, last)
    (a.add 0 4, kept)
  (seqs.foldl addSequence (a.add 2 0, Array.replicate sharedSlots none)).1

/-- How the characters of a set are read, without the states. -/
structure ClassShape where
  /-- How many bytes the set takes if it has a single member. -/
  literal : Option Nat
  ranges : List (Nat × Nat)
  sequences : List ByteSequence

/-- The shape of a set. -/
def ClassShape.ofSet (s : CharSet) : ClassShape :=
  let ranges := s.ranges
  let literal := match ranges with
    | [(first, last)] => if first = last then some (Char.ofNat first).utf8Size else none
    | _ => none
  ⟨literal, ranges, byteSequences ranges⟩

/-- Add the states that read a character of a set. -/
def ClassShape.grow (backward : Bool) (s : ClassShape) (a : AutomatonSize) : AutomatonSize :=
  match s.literal with
  | some n => a.add n 0
  | none =>
    if s.ranges.all fun r => r.2 < 0x80 then a.add 2 (8 * s.ranges.length)
    else if backward then a.addBackward s.sequences
    else a.addForward s.sequences

/-! ### Expressions -/

namespace Expr

/-- The sets of the branches of a choice between characters. -/
def branchSets? : Expr → Option (List CharSet)
  | either (chars s) never => some [s]
  | either (chars s) rest => rest.branchSets?.map (s :: ·)
  | _ => none

/-- A choice between characters is read as a set. -/
def asSet? (e : Expr) : Option CharSet := e.branchSets?.map CharSet.unions

/-- The states of a repetition, given those of its body. What takes nothing is repeated once at most. -/
def growRepetition (body : AutomatonSize → AutomatonSize) (nothing mayBeEmpty : Bool) (least : Nat)
    (most : Option Nat) (a : AutomatonSize) : AutomatonSize :=
  let least := if nothing then min least 1 else least
  let most := if nothing then some (min (most.getD 1) 1) else most
  match least, most with
  | _, some 0 => a.add 1 0
  | 1, some 1 => body a
  | 0, some 1 => (body a.addFork).add 1 0
  | 0, none => if mayBeEmpty then (body a).addFork.addFork.add 1 4 else body a.addFork
  | least, none => (a.addCopies body least).addFork
  | least, some most =>
    let a := if least = 0 then a.add 1 0 else a.addCopies body least
    if least = most then a else (a.add 1 0).addCopies (fun a => body a.addFork) (most - least)

mutual

/-- The states of an expression, added to those there are. -/
def grow (backward : Bool) : Expr → AutomatonSize → AutomatonSize
  | empty | assertion _ => fun a => a.add 1 0
  | chars s => (ClassShape.ofSet s).grow backward
  | seq a empty => a.grow backward
  | seq a b =>
    let first := a.grow backward
    let second := b.grow backward
    if backward then fun n => first (second n) else fun n => second (first n)
  | either a b =>
    match (either a b).asSet? with
    | some s => (ClassShape.ofSet s).grow backward
    | none =>
      let first := a.grow backward
      let others := b.growBranches backward
      fun n => others ((first (n.add 2 0)).add 0 4)
  | group _ body =>
    let body := body.grow backward
    if backward then body else fun n => (body (n.add 1 0)).add 1 0
  | repeated body least most _ =>
    growRepetition (body.grow backward) body.takesNothing (body.size.least = 0) least most
  | _ => id

/-- The states of the further branches of a choice. -/
def growBranches (backward : Bool) : Expr → AutomatonSize → AutomatonSize
  | either a b =>
    let first := a.grow backward
    let others := b.growBranches backward
    fun n => others ((first n).add 0 4)
  | _ => id

end

/-- The whole automaton of an expression: before it comes a loop over what is skipped, and around it the
marks of the match, which are not needed backwards. -/
def automatonSize (backward : Bool) (e : Expr) : AutomatonSize :=
  let skipping : AutomatonSize := ⟨3, 16⟩
  if backward then (e.grow backward skipping).add 1 0
  else (e.grow backward (skipping.add 1 0)).add 2 0

/-- No automaton of the expression takes more memory than this. -/
def weightBound : Expr → Nat
  | chars s => 1500 + 300 * s.cutCount
  | seq a empty => a.weightBound
  | seq a b => a.weightBound + b.weightBound
  | either a b => a.weightBound + b.weightBound + 100
  | group _ body => body.weightBound + 64
  | repeated body least most _ => (max least (most.getD 0) + 1) * (body.weightBound + 112)
  | _ => 32

/-- Is there enough memory for the automata of the expression? -/
def fitsAutomaton (e : Expr) : Bool :=
  e.weightBound + 1000 ≤ AutomatonSize.limit ||
    ((e.automatonSize false).memory ≤ AutomatonSize.limit &&
      (e.automatonSize true).memory ≤ AutomatonSize.limit)

end Expr

end Listfile.Regex
