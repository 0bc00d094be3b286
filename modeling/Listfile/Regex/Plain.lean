import Listfile.Regex.Expr
import Listfile.Text.Cursor

/-!
# Plain expressions

An expression without hard parts is matched as a whole: of all the ways of matching it only the
preferred one counts. What it does depends on the place alone, so ways that reach the same place are
followed together.

* `Arrival`: a way of matching, by the place where it ends and the marks that it has set.
* `Matcher`: how the ways up to some places go on, in order of preference, one for each place. Of two
  ways that reach the same place the first is kept, since what follows cannot tell them apart.
* `Expr.matcher`: the matcher of a plain expression, towards either side of a place.
-/

namespace Listfile.Regex

/-! ### Places -/

/-- Does the assertion hold at a place? -/
def Assertion.holds (c : Cursor) (a : Assertion) : Bool :=
  let wordBefore := c.before.head?.any isWordChar
  let wordAfter := c.after.head?.any isWordChar
  match a with
  | textStart => c.atStart
  | textEnd => c.atEnd
  | lineStart => c.before.head?.all (· == '\n')
  | lineEnd => c.after.head?.all (· == '\n')
  | wordBoundary => wordBefore != wordAfter
  | notWordBoundary => wordBefore == wordAfter
  | wordStart => !wordBefore && wordAfter
  | wordEnd => wordBefore && !wordAfter
  | wordStartHalf => !wordBefore
  | wordEndHalf => !wordAfter

/-- The character on a side of a place, and the place behind it. -/
def Side.step? : Side → Cursor → Option (Char × Cursor)
  | ahead, c => c.next?
  | behind, c => c.prev?

/-- How many characters there are on a side of a place. -/
def Side.room : Side → Cursor → Nat
  | ahead, c => c.left
  | behind, c => c.before.length

/-- A set of places of one text: bit `n` tells about the byte offset `n`. -/
structure Places where
  bits : Nat
deriving DecidableEq, Inhabited

namespace Places

/-- No places. -/
def none : Places := ⟨0⟩

/-- Is the offset in the set? -/
def contains (s : Places) (n : Nat) : Bool := s.bits.testBit n

/-- Add an offset. -/
def insert (s : Places) (n : Nat) : Places := ⟨s.bits ||| (1 <<< n)⟩

@[simp] theorem contains_none (n : Nat) : none.contains n = false := by simp [none, contains]

@[simp] theorem contains_insert (s : Places) (m n : Nat) :
    (s.insert m).contains n = (s.contains n || m == n) := by
  simp [contains, insert, Nat.testBit_or, Nat.one_shiftLeft, Nat.testBit_two_pow, Bool.beq_eq_decide_eq]

end Places

/-! ### Arrivals -/

/-- A way of matching. -/
structure Arrival where
  place : Cursor
  /-- The marks that were set on the way, the latest first. -/
  marks : List (Nat × Cursor)

namespace Arrival

/-- Nothing has been matched. -/
def start (c : Cursor) : Arrival := ⟨c, []⟩

/-- One way of matching after another. -/
def followedBy (a b : Arrival) : Arrival := ⟨b.place, b.marks ++ a.marks⟩

/-- The same way to another place. -/
def moveTo (a : Arrival) (c : Cursor) : Arrival := { a with place := c }

/-- Set a mark where the way ends. -/
def mark (slot : Nat) (a : Arrival) : Arrival := { a with marks := (slot, a.place) :: a.marks }

end Arrival

/-- The first ways to some places, the latest first, and those places. -/
structure Found where
  ways : List Arrival
  places : Places

namespace Found

/-- Nothing has been found. -/
def none : Found := ⟨[], .none⟩

/-- Is there a way to the place? -/
def reaches (f : Found) (c : Cursor) : Bool := f.places.contains c.offset

/-- Add a way to a place to which there is none. -/
def push (f : Found) (a : Arrival) : Found := ⟨a :: f.ways, f.places.insert a.place.offset⟩

/-- Add a way unless there is one to the same place. -/
def add (f : Found) (a : Arrival) : Found := if f.reaches a.place then f else f.push a

/-- Add the ways that go on from `a`, unless there are others to the same places. -/
def addFrom (a : Arrival) (f : Found) (more : List Arrival) : Found :=
  more.foldl (fun f b => if f.reaches b.place then f else f.push (a.followedBy b)) f

/-- The ways in order. -/
def toList (f : Found) : List Arrival := f.ways.reverse

end Found

/-- The first way to each place, where several lists of ways are given in order. -/
def firstOfEach : List Arrival → List Arrival → List Arrival
  | as, [] => as
  | [], bs => bs
  | as, bs => (bs.foldl Found.add (as.foldl Found.add .none)).toList

/-- Go on from each of several places. -/
def thenAll (next : Cursor → List Arrival) : List Arrival → List Arrival
  | [] => []
  | [a] => (next a.place).map a.followedBy
  | as => (as.foldl (fun f a => Found.addFrom a f (next a.place)) Found.none).toList

/-! ### Matchers -/

/-- How the ways up to some places go on. -/
structure Matcher where
  run : List Arrival → List Arrival
  /-- Is there a repetition in what is matched? -/
  loops : Bool

namespace Matcher

/-- The ways from a single place. -/
def runAt (m : Matcher) (c : Cursor) : List Arrival := m.run [.start c]

/-- What is found at each place from `c` on, by byte offsets. Each place is looked at when its entry is
first asked for. -/
def tableFrom (side : Side) (find : Cursor → List Arrival) :
    Nat → Cursor → Array (Thunk (List Arrival)) → Array (Thunk (List Arrival))
  | 0, c, done => done.push (Thunk.mk fun _ => find c)
  | n + 1, c, done =>
    let done := done.push (Thunk.mk fun _ => find c)
    match side.step? c with
    | some (x, d) =>
      tableFrom side find n d (done ++ Array.replicate (x.utf8Size - 1) (Thunk.mk fun _ => []))
    | none => done

/-- How far a place is from another one. -/
def distance : Side → (origin place : Cursor) → Nat
  | .ahead, origin, place => place.offset - origin.offset
  | .behind, origin, place => origin.offset - place.offset

/-- What is found at a place, by the table of what is found from `origin` on. -/
def lookUp (side : Side) (origin : Cursor) (table : Thunk (Array (Thunk (List Arrival))))
    (c : Cursor) : List Arrival :=
  match table.get[distance side origin c]? with
  | some found => found.get
  | none => []

/-- One character of a set. -/
def ofSet (side : Side) (s : CharSet) : Matcher where
  run as := as.filterMap fun a =>
    match side.step? a.place with
    | some (x, d) => if s.contains x then some (a.moveTo d) else none
    | none => none
  loops := false

/-- A choice. If it is asked about many places, what is found at each of them is kept. -/
def either (side : Side) (origin : Cursor) (first second : Matcher) : Matcher :=
  let find (c : Cursor) := firstOfEach (first.runAt c) (second.runAt c)
  let table := Thunk.mk fun _ => tableFrom side find (side.room origin) origin #[]
  let loops := first.loops || second.loops
  { loops := loops
    run := fun as => match as with
      | [a] => firstOfEach (first.run [a]) (second.run [a])
      | as => if loops then thenAll (lookUp side origin table) as else thenAll find as }

/-- A group. -/
def group (i : Nat) (body : Matcher) : Matcher where
  run as := (body.run (as.map (·.mark (2 * i)))).map (·.mark (2 * i + 1))
  loops := body.loops

/-- Exactly `n` repetitions. -/
def exactly (m : Matcher) : Nat → List Arrival → List Arrival
  | _, [] => []
  | 0, as => as
  | n + 1, as => exactly m n (m.run as)

end Matcher

/-! ### Repetitions of characters -/

/-- The places after zero, one, … characters of a set, at most `n`, up to one that was reached before; the
farthest is the first, and `done` holds those that have been reached. -/
def charRun (side : Side) (s : CharSet) (reached : Places) :
    Nat → Cursor → List Cursor → List Cursor
  | 0, c, done => if reached.contains c.offset then done else c :: done
  | n + 1, c, done =>
    if reached.contains c.offset then done
    else
      match side.step? c with
      | some (x, d) => if s.contains x then charRun side s reached n d (c :: done) else c :: done
      | none => c :: done

namespace Matcher

/-- The ways along at most `n` characters of a set, up to a place that was reached before. -/
def charWays (side : Side) (s : CharSet) (greedy : Bool) (n : Nat) (reached : Places)
    (a : Arrival) : List Arrival :=
  let places := charRun side s reached n a.place []
  (if greedy then places else places.reverse).map a.moveTo

/-- Any number of characters of a set. From a place that was reached already nothing new is reached. -/
def charStar (side : Side) (s : CharSet) (greedy : Bool) : List Arrival → List Arrival
  | [a] => charWays side s greedy (side.room a.place) .none a
  | as =>
    let addWays (f : Found) (a : Arrival) : Found :=
      (charWays side s greedy (side.room a.place) f.places a).foldl Found.push f
    (as.foldl addWays .none).toList

/-- At most `n` characters of a set. -/
def charUpTo (side : Side) (s : CharSet) (greedy : Bool) (n : Nat) : List Arrival → List Arrival
  | [a] => charWays side s greedy n .none a
  | as =>
    let addWays (f : Found) (a : Arrival) : Found :=
      (charWays side s greedy n .none a).foldl Found.add f
    (as.foldl addWays .none).toList

/-- A number of characters of a set between the bounds. -/
def ofChars (side : Side) (s : CharSet) (least : Nat) (most : Option Nat) (greedy : Bool) :
    Matcher where
  run as :=
    let as := exactly (ofSet side s) least as
    match most with
    | none => charStar side s greedy as
    | some most => charUpTo side s greedy (most - least) as
  loops := true

end Matcher

/-! ### Repetitions -/

/-- What remains to be done for a loop. -/
inductive Pending
  /-- Arrive at the head of the loop after so many repetitions. -/
  | head (count : Nat) (a : Arrival)
  /-- Enter the body after so many repetitions. -/
  | body (count : Nat) (a : Arrival)
  | leave (a : Arrival)

/-- The places where something has been done, for each count of repetitions. -/
abbrev Visits := Array Places

namespace Visits

/-- Was it done at the place with the count? -/
def has (v : Visits) (count : Nat) (c : Cursor) : Bool := (v[count]?).any (·.contains c.offset)

/-- It is done at a place with the count. -/
def add (v : Visits) (count : Nat) (c : Cursor) : Visits :=
  if count < v.size then v.modify count (·.insert c.offset)
  else (v ++ Array.replicate (count - v.size) Places.none).push (Places.none.insert c.offset)

end Visits

/-- How far a loop has got: the heads and the bodies that have been visited, and the ways out. -/
structure LoopState where
  heads : Visits
  bodies : Visits
  found : Found

/-- A loop. At its head, another repetition is tried before leaving if it is greedy, and after leaving
if it is not. -/
structure Loop where
  /-- How one repetition goes on from a place. -/
  next : Cursor → List Arrival
  greedy : Bool
  /-- The greatest number of repetitions. Without one they are not counted. -/
  most : Option Nat

namespace Loop

/-- The count of repetitions after one more. -/
def more (l : Loop) (count : Nat) : Nat := if l.most.isSome then count + 1 else count

/-- What is done in order of preference: another repetition, or leaving. -/
def choice (l : Loop) (again leave : List Pending) : List Pending :=
  if l.greedy then again ++ leave else leave ++ again

/-- Do what remains to be done. A place is not visited twice with the same count. -/
def run (l : Loop) : Nat → List Pending → LoopState → Found
  | 0, _, s | _, [], s => s.found
  | fuel + 1, .leave a :: rest, s => run l fuel rest { s with found := s.found.add a }
  | fuel + 1, .head n a :: rest, s =>
    if s.heads.has n a.place then run l fuel rest s
    else
      let again := if l.most.all (n < ·) then [.body n a] else []
      run l fuel (l.choice again [.leave a] ++ rest) { s with heads := s.heads.add n a.place }
  | fuel + 1, .body n a :: rest, s =>
    if s.bodies.has n a.place then run l fuel rest s
    else
      let again := (l.next a.place).map fun b => .head (l.more n) (a.followedBy b)
      run l fuel (again ++ rest) { s with bodies := s.bodies.add n a.place }

/-- How often something can be done in a text in which there are `room` places besides the first. -/
def effort (l : Loop) (room : Nat) : Nat := (l.most.getD 0 + 2) * (room + 3) * (room + 3)

/-- The ways out of a loop, given what is done first. -/
def ways (l : Loop) (room : Nat) (todo : List Pending) : List Arrival :=
  (l.run (todo.length + l.effort room) todo ⟨#[], #[], .none⟩).toList

end Loop

namespace Matcher

/-- Any number of repetitions from `least` on. The last that is mandatory begins a loop. -/
def atLeast (room : Nat) (body : Matcher) (l : Loop) : (least : Nat) → List Arrival → List Arrival
  | 0, as => l.ways room (as.flatMap fun a => l.choice [.body 0 a] [.leave a])
  | least + 1, as => l.ways room ((body.exactly least as).map (.body 0))

/-- A number of repetitions between the bounds. A body with repetitions of its own is asked about the same
place many times. -/
def repeated (side : Side) (origin : Cursor) (body : Matcher) (least : Nat) (most : Option Nat)
    (greedy : Bool) : Matcher :=
  let room := side.room origin
  let table := Thunk.mk fun _ => tableFrom side body.runAt room origin #[]
  let next := if body.loops then lookUp side origin table else body.runAt
  let l : Loop := ⟨next, greedy, most.map (· - least)⟩
  { loops := true
    run := match most with
      | none => atLeast room body l least
      | some _ => fun as => l.ways room ((body.exactly least as).map (.head 0)) }

end Matcher

/-! ### Expressions -/

/-- The matcher of a plain expression for the places on one side of `origin`. -/
def Expr.matcher (side : Side) (origin : Cursor) : Expr → Matcher
  | empty => ⟨id, false⟩
  | chars s => .ofSet side s
  | assertion a => ⟨fun as => as.filter fun x => a.holds x.place, false⟩
  | seq a b =>
    let first := a.matcher side origin
    let second := b.matcher side origin
    { loops := first.loops || second.loops
      run := match side with
        | .ahead => second.run ∘ first.run
        | .behind => first.run ∘ second.run }
  | either a never => a.matcher side origin
  | either a b => .either side origin (a.matcher side origin) (b.matcher side origin)
  | group i body => (body.matcher side origin).group i
  | repeated (chars s) least most greedy => .ofChars side s least most greedy
  | repeated body least most greedy =>
    let m := body.matcher side origin
    if body.takesNothing then
      m.repeated side origin (min least 1) (some (min (most.getD 1) 1)) greedy
    else m.repeated side origin least most greedy
  | _ => ⟨fun _ => [], false⟩

/-- The ways of matching a plain expression from a place on. -/
def Expr.ways (e : Expr) (c : Cursor) : List Arrival := (e.matcher .ahead c).runAt c

/-- The place from which the preferred way of matching a plain expression backwards begins. -/
def Expr.beginning? (e : Expr) (c : Cursor) : Option Cursor :=
  ((e.matcher .behind c).runAt c).head?.map (·.place)

end Listfile.Regex
