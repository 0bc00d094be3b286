import Listfile.Regex.Plain
import Listfile.Regex.Plan

/-!
# Search with backtracking

A machine works off a list of tasks at a place of the text. Where there is a choice, it notes the second
one as a branch and goes on with the first; when it gets stuck it goes back to the latest branch.

* `Thread`: how far a match has got, and what its groups have captured.
* `Task`, `Branch`, `Machine`: what is to be done, what else could be done, and both together.
* `Machine.step`: the first task is done.
* `Machine.search`: the machine runs until a match is found or no branch is left. It may go back only so
  often.
-/

namespace Listfile.Regex

/-! ### Threads -/

/-- How far a match has got. -/
structure Thread where
  here : Cursor
  /-- Where group `i` starts and ends, at the indices `2 * i` and `2 * i + 1`. -/
  marks : Array (Option Cursor)
  /-- How many branches there were where parts began that are not gone back into, the latest first. -/
  held : List Nat

namespace Thread

/-- A thread that has captured nothing. -/
def start (groupCount : Nat) (c : Cursor) : Thread :=
  ⟨c, Array.replicate (2 * (groupCount + 1)) none, []⟩

/-- Go to another place. -/
def moveTo (t : Thread) (c : Cursor) : Thread := { t with here := c }

/-- Set a mark. -/
def setMark (t : Thread) (slot : Nat) (c : Option Cursor) : Thread :=
  { t with marks := t.marks.setIfInBounds slot c }

/-- Set a mark at this place. -/
def mark (t : Thread) (slot : Nat) : Thread := t.setMark slot (some t.here)

/-- Forget what a group has captured. -/
def forget (t : Thread) (group : Nat) : Thread :=
  (t.setMark (2 * group) none).setMark (2 * group + 1) none

/-- The place that a mark holds. -/
def marked? (t : Thread) (slot : Nat) : Option Cursor := (t.marks[slot]?).join

/-- Set the marks of a way of matching an expression. Groups that take no part forget what they captured
before. -/
def capture (t : Thread) (e : Expr) (a : Arrival) : Thread :=
  a.marks.foldr (fun m t => t.setMark m.1 (some m.2)) (e.groups.foldl forget t)

/-- Take the next character if it is in the set. -/
def take? (t : Thread) (s : CharSet) : Option Thread :=
  match t.here.next? with
  | some (c, next) => if s.contains c then some (t.moveTo next) else none
  | none => none

/-- Match a plain expression as a unit. -/
def unit? (t : Thread) (e : Expr) : Option Thread :=
  (e.ways t.here).head?.map fun a => (t.capture e a).moveTo a.place

/-- Go back over a plain expression. Its groups capture what it matches from there on, but not beyond this
place. -/
def backOver? (t : Thread) (e : Expr) : Option Thread := do
  let first ← e.beginning? t.here
  let t := match (e.ways first).find? (·.place.offset ≤ t.here.offset) with
    | some a => if e.groups.isEmpty then t else t.capture e a
    | none => t
  return t.moveTo first

end Thread

/-! ### Repeated text -/

/-- Are the characters alike, if the difference in case is ignored where `fold` says so? -/
def sameChar (fold : Bool) (c d : Char) : Bool := c == d || fold && (Unicode.caseVariants d).contains c

/-- Does a text begin with another one? -/
def beginsWith (fold : Bool) : (start text : List Char) → Bool
  | [], _ => true
  | _ :: _, [] => false
  | c :: start, d :: text => sameChar fold c d && beginsWith fold start text

/-- Does a text contain another one? -/
def containsText (fold : Bool) (part : List Char) : List Char → Bool
  | [] => part.isEmpty
  | c :: text => beginsWith fold part (c :: text) || containsText fold part text

/-- Is the text ahead, of as many bytes as a captured text, like that text? If case is ignored, a window of
ASCII characters has to agree letter by letter, and any other window has to contain the captured text. -/
def sameText (fold : Bool) (captured window : List Char) : Bool :=
  captured == window || fold &&
    (if window.all (·.toNat < 0x80) then
      captured.length == window.length &&
        (captured.zip window).all fun p => p.1.toLower == p.2.toLower
    else containsText true captured window)

/-- The place behind a repetition of a captured text. -/
def repeatText? (fold : Bool) (captured : List Char) (c : Cursor) : Option Cursor := do
  let last ← Cursor.seekFrom (c.offset + byteLength captured) c.left c
  if sameText fold captured (c.sliceTo last.offset) then return last else none

/-! ### Tasks -/

/-- What is to be done. -/
inductive Task
  | follow (p : Plan)
  /-- The head of a loop of which any number of repetitions may follow. -/
  | star (body : Plan) (greedy : Bool)
  /-- The head of a loop whose body may be empty, after `count` repetitions; the latest that was not
  mandatory began at `last`. -/
  | guarded (body : Plan) (least : Nat) (greedy : Bool) (count : Nat) (last : Option Nat)
  /-- The head of a loop after `count` repetitions. -/
  | counted (body : Plan) (least : Nat) (most : Option Nat) (greedy : Bool) (count : Nat)
  | mark (slot : Nat)
  /-- Return to a place. -/
  | moveTo (c : Cursor)
  /-- Give up the branches that were added since the latest place that holds them, and that place. -/
  | commit
  /-- What must not match has matched: give up all but so many branches, and get stuck. -/
  | refuse (depth : Nat)
  /-- Try a plan here or, later, further on. -/
  | scan (p : Plan)
  /-- Go one character further and scan on. -/
  | skip (p : Plan)

/-- What else could be done. -/
structure Branch where
  tasks : List Task
  thread : Thread

/-- A machine. -/
structure Machine where
  tasks : List Task
  thread : Thread
  /-- The choices that are left, the latest first. -/
  branches : List Branch
  /-- How many of them there are. -/
  depth : Nat

/-- What a step leads to. -/
inductive Step
  | goOn (m : Machine)
  /-- All tasks are done. -/
  | done (t : Thread)
  | stuck (branches : List Branch) (depth : Nat)
  /-- There are too many branches. -/
  | overflow

namespace Machine

/-- How many branches there may be. -/
def maxBranches : Nat := 1000000

/-- Note a branch and go on with other tasks. -/
def choose (m : Machine) (first second : List Task) : Step :=
  if maxBranches ≤ m.depth then .overflow
  else .goOn ⟨first, m.thread, ⟨second, m.thread⟩ :: m.branches, m.depth + 1⟩

/-- Choose between another repetition and leaving a loop. -/
def chooseLoop (m : Machine) (greedy : Bool) (again leave : List Task) : Step :=
  if greedy then m.choose again leave else m.choose leave again

/-- Go on with a thread, or get stuck without one. -/
def goOnWith (m : Machine) (tasks : List Task) : Option Thread → Step
  | some t => .goOn { m with tasks := tasks, thread := t }
  | none => .stuck m.branches m.depth

/-- Go on from the same place if a condition holds. -/
def goOnIf (m : Machine) (tasks : List Task) (holds : Bool) : Step :=
  m.goOnWith tasks (if holds then some m.thread else none)

/-- Follow a plan in front of other tasks, for a search that began at the offset `origin`. -/
def follow (origin : Nat) (m : Machine) (tasks : List Task) : Plan → Step
  | .done => .goOn { m with tasks := tasks }
  | .unit e => m.goOnWith tasks (m.thread.unit? e)
  | .chars s => m.goOnWith tasks (m.thread.take? s)
  | .assertion a => m.goOnIf tasks (a.holds m.thread.here)
  | .seq a b => .goOn { m with tasks := .follow a :: .follow b :: tasks }
  | .either a b => m.choose (.follow a :: tasks) (.follow b :: tasks)
  | .group i body =>
    .goOn { m with
      tasks := .follow body :: .mark (2 * i + 1) :: tasks, thread := m.thread.mark (2 * i) }
  | .optional body greedy => m.chooseLoop greedy (.follow body :: tasks) tasks
  | .star body greedy => .goOn { m with tasks := .star body greedy :: tasks }
  | .plus body greedy => .goOn { m with tasks := .follow body :: .star body greedy :: tasks }
  | .guarded body least greedy =>
    .goOn { m with tasks := .guarded body least greedy 0 none :: tasks }
  | .counted body least most greedy =>
    .goOn { m with tasks := .counted body least most greedy 0 :: tasks }
  | .look false body =>
    .goOn { m with tasks := .follow body :: .moveTo m.thread.here :: tasks }
  | .look true body => m.choose [.follow body, .refuse m.depth] tasks
  | .back size => m.goOnWith tasks ((m.thread.here.back? size).map m.thread.moveTo)
  | .backOver e => m.goOnWith tasks (m.thread.backOver? e)
  | .atomic body =>
    .goOn { m with
      tasks := .follow body :: .commit :: tasks
      thread := { m.thread with held := m.depth :: m.thread.held } }
  | .sameAs i fold =>
    m.goOnWith tasks (do
      let first ← m.thread.marked? (2 * i)
      let last ← m.thread.marked? (2 * i + 1)
      let c ← repeatText? fold (first.sliceTo last.offset) m.thread.here
      return m.thread.moveTo c)
  | .keepOut => .goOn { m with tasks := tasks, thread := m.thread.mark 0 }
  | .searchStart => m.goOnIf tasks (m.thread.here.offset == origin)
  | .groupSet i => m.goOnIf tasks (m.thread.marked? (2 * i + 1)).isSome
  | .conditional test yes no =>
    let holding := { m.thread with held := m.depth :: m.thread.held }
    { m with thread := holding }.choose (.follow test :: .commit :: .follow yes :: tasks)
      (.follow no :: tasks)

/-- Give up all but so many branches. -/
def cutTo (m : Machine) (depth : Nat) : Machine :=
  { m with branches := m.branches.drop (m.depth - depth), depth := min m.depth depth }

/-- Do the first task. -/
def step (origin : Nat) (m : Machine) : Step :=
  match m.tasks with
  | [] => .done m.thread
  | task :: tasks =>
    match task with
    | .follow p => m.follow origin tasks p
    | .star body greedy =>
      m.chooseLoop greedy (.follow body :: .star body greedy :: tasks) tasks
    | .guarded body least greedy count last =>
      let here := some m.thread.here.offset
      if least < count ∧ last = here then .goOn { m with tasks := tasks }
      else if count < least then
        .goOn { m with tasks := .follow body :: .guarded body least greedy (count + 1) last :: tasks }
      else
        m.chooseLoop greedy (.follow body :: .guarded body least greedy (count + 1) here :: tasks) tasks
    | .counted body least most greedy count =>
      let again := .follow body :: .counted body least most greedy (count + 1) :: tasks
      if most = some count then .goOn { m with tasks := tasks }
      else if count < least then .goOn { m with tasks := again }
      else m.chooseLoop greedy again tasks
    | .mark slot => .goOn { m with tasks := tasks, thread := m.thread.mark slot }
    | .moveTo c => .goOn { m with tasks := tasks, thread := m.thread.moveTo c }
    | .commit =>
      match m.thread.held with
      | [] => .goOn { m with tasks := tasks }
      | depth :: held =>
        .goOn { m.cutTo depth with tasks := tasks, thread := { m.thread with held := held } }
    | .refuse depth => .stuck (m.cutTo depth).branches (m.cutTo depth).depth
    | .scan p => m.choose [.mark 0, .follow p, .mark 1] [.skip p]
    | .skip p => m.goOnWith [.scan p] (m.thread.here.next?.map fun n => m.thread.moveTo n.2)

/-- Do tasks until all are done or the machine is stuck, `fuel` of them at most. -/
def run (origin : Nat) : Nat → Machine → Step
  | 0, _ => .overflow
  | fuel + 1, m =>
    match m.step origin with
    | .goOn m => run origin fuel m
    | s => s

/-- How a search ends. -/
inductive Verdict
  | found (t : Thread)
  | notFound
  /-- The machine went back too often, or had too many branches. -/
  | exhausted

/-- Run the machine. Whenever it is stuck it goes back to the latest branch, which takes one from the
budget; between two of these it does no more tasks than `fuel`. -/
def search (origin fuel : Nat) : (budget : Nat) → Machine → Verdict
  | budget, m =>
    match m.run origin fuel with
    | .done t => .found t
    | .overflow | .goOn _ => .exhausted
    | .stuck [] _ => .notFound
    | .stuck (b :: branches) depth =>
      match budget with
      | 0 => .exhausted
      | budget + 1 => search origin fuel budget ⟨b.tasks, b.thread, branches, depth - 1⟩

end Machine

/-- How many tasks a plan leads to at most until the machine is stuck or the plan is done, in a text of
`room` characters. -/
def Plan.effort (room : Nat) : Plan → Nat
  | seq a b | either a b => a.effort room + b.effort room + 1
  | group _ body | optional body _ | look _ body | atomic body => body.effort room + 2
  | star body _ | plus body _ => (body.effort room + 1) * (room + 2) + 1
  | guarded body least _ => (body.effort room + 1) * (least + room + 3) + 1
  | counted body least most _ =>
    (body.effort room + 1) * (max least (most.getD (least + room)) + 2) + 1
  | conditional test yes no => test.effort room + yes.effort room + no.effort room + 3
  | _ => 1

end Listfile.Regex
