import Listfile.Regex.Fault
import Listfile.Regex.Weight

/-!
# Plans

A plan says how an expression is searched for. Parts that need no backtracking are matched as units,
of which only the preferred way counts; the rest is searched with backtracking.

* `Plan`: how to search for an expression.
* `Plan.ofExpr`: the plan of an expression. A part whose size is fixed is made a unit at the front of a
  sequence, and so is the end of a sequence behind the last part that needs backtracking.
-/

namespace Listfile.Regex

/-- How to search for an expression. -/
inductive Plan
  | done
  /-- An expression without hard parts, of which only the preferred match counts. -/
  | unit (e : Expr)
  | chars (set : CharSet)
  | assertion (a : Assertion)
  | seq (first rest : Plan)
  | either (first second : Plan)
  | group (index : Nat) (body : Plan)
  /-- At most one repetition. -/
  | optional (body : Plan) (greedy : Bool)
  /-- Any number of repetitions of a body that is never empty. -/
  | star (body : Plan) (greedy : Bool)
  /-- At least one repetition of a body that is never empty. -/
  | plus (body : Plan) (greedy : Bool)
  /-- Any number of repetitions from `least` on of a body that may be empty. -/
  | guarded (body : Plan) (least : Nat) (greedy : Bool)
  /-- A number of repetitions between two bounds. -/
  | counted (body : Plan) (least : Nat) (most : Option Nat) (greedy : Bool)
  /-- The body matches, or does not match, and the place stays the same. -/
  | look (negative : Bool) (body : Plan)
  /-- Go back by some characters. -/
  | back (size : Nat)
  /-- Go back over a plain expression. -/
  | backOver (e : Expr)
  | atomic (body : Plan)
  | sameAs (group : Nat) (fold : Bool)
  | keepOut
  | searchStart
  | groupSet (group : Nat)
  | conditional (test yes no : Plan)
deriving Inhabited

namespace Plan

/-- A plain expression whose automaton can be built. -/
def checked (e : Expr) : Except Fault Expr :=
  if !e.boundsAgree then .error .badRepetition
  else if !e.fitsAutomaton then .error .tooLarge
  else .ok e

/-- The plan that matches a plain expression as a unit. A text needs no automaton. -/
def ofUnit : Expr → Except Fault Plan
  | .empty => .ok done
  | .chars s => (checked (.chars s)).map fun _ => chars s
  | e => if e.isLiteral then .ok (unit e) else (checked e).map unit

/-- The plan of a repetition, given that of its body. -/
def ofRepetition (body : Plan) (bodySize least : Nat) (most : Option Nat) (greedy : Bool) : Plan :=
  match least, most with
  | 0, some 1 => optional body greedy
  | least, none =>
    if bodySize = 0 then guarded body least greedy
    else match least with
      | 0 => star body greedy
      | 1 => plus body greedy
      | least => counted body least none greedy
  | least, most => counted body least most greedy

/-- How many parts at the front of a sequence are plain and of fixed size. -/
def frontSize (refs : List Nat) (parts : List Expr) : Nat :=
  (parts.takeWhile fun e => e.size.fixed && !e.isHard refs).length

/-- How many parts at the end of a sequence form a unit: those behind the last hard part, but within a
hard surrounding only those of fixed size. -/
def backSize (refs : List Nat) (hard : Bool) (parts : List Expr) : Nat :=
  (parts.reverse.takeWhile fun e => !e.isHard refs && (!hard || e.size.fixed)).length

/-- The plan of a sequence `whole` of which the first `front` parts are left out, the next `middle`
parts are planned one by one, and what remains is a unit; given the plan of its first part and those
of its rest. -/
def ofLink (front middle : Nat) (whole : Expr) (first : Unit → Except Fault Plan)
    (rest : Nat → Nat → Except Fault Plan) : Except Fault Plan :=
  match front, middle with
  | front + 1, middle => rest front middle
  | 0, middle + 1 => return seq (← first ()) (← rest 0 middle)
  | 0, 0 => ofUnit whole

/-- The plan of a look behind, given the plan of its body. A body of any size must be plain. -/
def ofBehind (refs : List Nat) (negative : Bool) (body : Expr) (plan : Unit → Except Fault Plan) :
    Except Fault Plan := do
  if body.size.fixed then return look negative (seq (back body.size.least) (← plan ()))
  else if body.isHard refs then throw .unboundedLookbehind
  else return look negative (backOver (← checked body))

mutual

/-- The plan of an expression; `hard` tells that what surrounds it needs backtracking. -/
def ofExpr (refs : List Nat) (hard : Bool) : Expr → Except Fault Plan
  | .empty => .ok done
  | .never => .ok (unit .never)
  | .chars s => ofUnit (.chars s)
  | .assertion a => .ok (assertion a)
  | .seq first rest =>
    if !hard && !(Expr.seq first rest).isHard refs then ofUnit (.seq first rest)
    else do
      let parts := (Expr.seq first rest).parts
      let front := frontSize refs parts
      let middle := parts.length - front - backSize refs hard (parts.drop front)
      let tail ← ofLink front middle (.seq first rest) (fun _ => ofExpr refs true first)
        (fun front middle => ofChain refs front middle rest)
      if front = 0 then return tail
      else return seq (← ofUnit (.ofParts (parts.take front))) tail
  | .either first rest =>
    if !hard && !(Expr.either first rest).isHard refs then ofUnit (.either first rest)
    else do
      let first ← ofExpr refs hard first
      ofBranches refs hard first rest
  | .group i body =>
    if !hard && !(Expr.group i body).isHard refs then ofUnit (.group i body)
    else return group i (← ofExpr refs hard body)
  | .repeated body least most greedy =>
    if !hard && !body.isHard refs then ofUnit (.repeated body least most greedy)
    else if least = 0 ∧ most = some 1 then
      return optional (← ofExpr refs hard body) greedy
    else
      return ofRepetition (← ofExpr refs (hard || body.isHard refs) body) body.size.least least most
        greedy
  | .look .ahead negative body => return look negative (← ofExpr refs false body)
  | .look .behind negative (.either first rest) =>
    if (Expr.either first rest).size.fixed then
      ofBehind refs negative (.either first rest) fun _ =>
        if !(Expr.either first rest).isHard refs then ofUnit (.either first rest)
        else do
          let first ← ofExpr refs false first
          ofBranches refs false first rest
    else do
      let first ← ofBehind refs negative first fun _ => ofExpr refs false first
      ofBranchesBehind refs negative first rest
  | .look .behind negative body => ofBehind refs negative body fun _ => ofExpr refs false body
  | .atomic body => return atomic (← ofExpr refs false body)
  | .sameAs i fold _ => .ok (sameAs i fold)
  | .keepOut => .ok keepOut
  | .searchStart => .ok searchStart
  | .groupSet i => .ok (groupSet i)
  | .conditional test yes no =>
    return conditional (← ofExpr refs hard test) (← ofExpr refs hard yes) (← ofExpr refs hard no)

/-- The plan of what follows in a sequence, with `front` and `middle` as in `ofLink`. -/
def ofChain (refs : List Nat) (front middle : Nat) : Expr → Except Fault Plan
  | .seq first rest =>
    ofLink front middle (.seq first rest) (fun _ => ofExpr refs true first)
      (fun front middle => ofChain refs front middle rest)
  | e => ofUnit e

/-- The plan of a choice between a branch that is planned already and further ones. -/
def ofBranches (refs : List Nat) (hard : Bool) (first : Plan) : Expr → Except Fault Plan
  | .either second rest => do
    let second ← ofExpr refs hard second
    return either first (← ofBranches refs hard second rest)
  | _ => .ok first

/-- The plan of a look behind with branches that differ in size: each is looked for on its own. -/
def ofBranchesBehind (refs : List Nat) (negative : Bool) (first : Plan) : Expr → Except Fault Plan
  | .either second rest => do
    let second ← ofBehind refs negative second fun _ => ofExpr refs false second
    let others ← ofBranchesBehind refs negative second rest
    return if negative then seq first others else either first others
  | _ => .ok first

end

/-- The plan of a whole pattern. A plain one is left to an automaton, even if it is a text. -/
def ofWhole (refs : List Nat) (e : Expr) : Except Fault Plan := do
  if e.isLiteral then let _ ← checked e
  ofExpr refs false e

end Plan

end Listfile.Regex
