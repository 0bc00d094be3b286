import Listfile.Regex.Parse.Class

/-!
# Reading patterns

A pattern is read from left to right. What has been read of the groups that are still open is kept on
a stack of frames, so one pass over the characters suffices.

* `Reading`: the groups that are open and the flags in force at some place of a pattern.
* `readNext`, `readAll`: the next part of a pattern, and all of them.
* `parse`: the syntax tree of a pattern.
-/

namespace Listfile.Regex

/-! ### Groups -/

/-- What a group becomes once it is closed. -/
inductive GroupKind
  /-- The whole pattern. -/
  | pattern
  /-- A group without captures; the flags are those in force before it. -/
  | plain (outer : Flags)
  | capture (index : Nat)
  | look (side : Side) (negative : Bool)
  | atomic
  /-- The test of a conditional. -/
  | test
  /-- The branches of a conditional, of which `left` characters were left when they began. -/
  | branches (test : Expr) (left : Nat)

/-- A group that is being read. -/
structure Frame where
  kind : GroupKind
  /-- The branches before the latest bar, newest first. -/
  branches : List Expr
  /-- The parts since the latest bar, newest first. -/
  parts : List Expr

namespace Frame

/-- A group of which nothing has been read. -/
def start (kind : GroupKind) : Frame := ⟨kind, [], []⟩

/-- Add a part. The empty expression leaves no trace. -/
def push (f : Frame) (e : Expr) : Frame := if e.isEmpty then f else { f with parts := e :: f.parts }

/-- Go on after a bar. -/
def bar (f : Frame) : Frame :=
  { f with branches := .ofParts f.parts.reverse :: f.branches, parts := [] }

/-- The content of the group. -/
def body (f : Frame) : Expr := .ofBranches f.bar.branches.reverse

end Frame

/-- What has been read of a pattern. -/
structure Reading where
  flags : Flags
  groups : GroupTable
  /-- Was there a reference by number? -/
  numbered : Bool
  /-- The innermost group that is open. -/
  frame : Frame
  /-- The groups around it, innermost first. -/
  outer : List Frame

/-- Groups may be nested to this depth. -/
def maxDepth : Nat := 63

/-! ### Conditionals -/

/-- A reference used as a test asks whether the group took part in the match. -/
def testOf : Expr → Expr
  | .sameAs i _ _ => .groupSet i
  | e => e

/-- Does a test ask whether a group took part in the match? -/
def asksForGroup : Expr → Bool
  | .groupSet _ => true
  | _ => false

/-- A choice without its first branch. -/
def otherBranches : Expr → Expr
  | .either e .never => e
  | e => e

/-- The conditional with the given test and body: the first branch of the body is for the case that the
test holds. Without a body only the test remains, as what it is. -/
def conditionalOf (test body : Expr) : Expr :=
  let (yes, no) := match body with
    | .either yes rest => (yes, otherBranches rest)
    | e => (e, .empty)
  if yes.isEmpty && no.isEmpty then test else .conditional test yes no

namespace Reading

/-- Nothing has been read. -/
def start : Reading := ⟨{}, .start, false, .start .pattern, []⟩

/-- Add a part to the innermost group. -/
def push (r : Reading) (e : Expr) : Reading := { r with frame := r.frame.push e }

/-- Open a group. -/
def enter (r : Reading) (kind : GroupKind) : Reading :=
  { r with frame := .start kind, outer := r.frame :: r.outer }

/-- Open a capturing group, which has a name or none. -/
def enterCapture (r : Reading) (name : Option (List Char)) : Reading :=
  let i := r.groups.opened + 1
  { r.enter (.capture i) with
    groups := { r.groups with
      opened := i, names := (name.map fun n => (n, i)).toList ++ r.groups.names } }

/-- A group without a bar in it must not mix references by number with names of groups. -/
def checkReferences (r : Reading) : Except Fault Unit :=
  if r.frame.branches.isEmpty && r.numbered && !r.groups.names.isEmpty then .error .mixedReferences
  else .ok ()

/-- Close the innermost group where `left` characters are left: the reading outside it, and the expression
that it became, or none when the test of a conditional was closed and its branches come next. -/
def close (r : Reading) (left : Nat) : Except Fault (Reading × Option Expr) := do
  match r.outer with
  | [] => throw .unopenedGroup
  | frame :: outer =>
    r.checkReferences
    let body := r.frame.body
    let out := { r with frame := frame, outer := outer }
    match r.frame.kind with
    | .pattern => throw .unopenedGroup
    | .plain flags => return ({ out with flags := flags }, some body)
    | .capture i =>
      let groups := { r.groups with sizes := (i, body.size) :: r.groups.sizes }
      return ({ out with groups := groups }, some (.group i body))
    | .look side negative => return (out, some (.look side negative body))
    | .atomic => return (out, some (.atomic body))
    | .test => return (out.enter (.branches (testOf body) (left - 1)), none)
    | .branches test start =>
      if start = left && !asksForGroup test then throw .badCondition
      else return (out, some (conditionalOf test body))

/-- The expression of the whole pattern. A reference must be to one of its groups. -/
def finish (r : Reading) : Except Fault Expr := do
  if !r.outer.isEmpty then throw .unclosedGroup
  r.checkReferences
  let e := r.frame.body
  if e.references.all fun i => 1 ≤ i && i ≤ r.groups.opened then return e else throw .badReference

end Reading

/-! ### Flags -/

/-- Set or clear the flag of the given letter. -/
def Flags.set? (f : Flags) (on : Bool) : Char → Option Flags
  | 'i' => some { f with fold := on }
  | 'm' => some { f with multiline := on }
  | 's' => some { f with dotAll := on }
  | 'U' => some { f with lazyFirst := on }
  | 'x' => some { f with extended := on }
  | 'u' => if on then some f else none
  | _ => none

/-- Read flags up to `)` or `:`. The result tells the flags, whether a group follows, and the rest.
`on` holds up to the dash, and `start` is the text behind `(?`. -/
def readFlags (start : List Char) :
    Nat → Flags → (on : Bool) → List Char → Except Fault (Flags × Bool × List Char)
  | 0, _, _, _ => .error .unknownFlag
  | fuel + 1, flags, on, cs => do
    match ← skip flags.extended cs with
    | ')' :: rest =>
      if start.head? = some ')' ∨ start.take 2 = ['-', ')'] then throw .unknownFlag
      else return (flags, false, rest)
    | ':' :: rest =>
      if start.take 2 = ['-', ':'] then throw .unknownFlag else return (flags, true, rest)
    | '-' :: rest => if on then readFlags start fuel flags false rest else throw .unknownFlag
    | c :: rest =>
      match flags.set? on c with
      | some flags => readFlags start fuel flags on rest
      | none => throw .unknownFlag
    | [] => throw .unclosedGroup

/-! ### The pattern -/

/-- The group that a condition names between quotes, of which the second is `close`, and what follows
the closing parenthesis of the condition. -/
def namedCondition (g : GroupTable) (close : Char) (cs : List Char) :
    Except Fault (Option (Nat × List Char)) := do
  match ← groupReference g true close cs with
  | (i, ')' :: rest) => return some (i, rest)
  | _ => throw .badGroupName

/-- The group of a condition that is written without quotes must be followed by the closing parenthesis. -/
def closedCondition : Option (Nat × List Char) → Except Fault (Option (Nat × List Char))
  | some (i, ')' :: rest) => .ok (some (i, rest))
  | some (_, []) => .error .unclosedGroup
  | _ => .ok none

/-- The group that a condition names, between angle brackets, between apostrophes or by digits alone,
and what follows its closing parenthesis. None if the condition is an expression. -/
def conditionGroup? (g : GroupTable) (cs : List Char) : Except Fault (Option (Nat × List Char)) :=
  match cs with
  | '<' :: name => namedCondition g '>' name
  | '\'' :: name => namedCondition g '\'' name
  | '+' :: _ | '-' :: _ => closedCondition (distance? g.opened cs)
  | _ =>
    match cs.span Char.isDigit with
    | ([], _) => .ok none
    | (digits, rest) => closedCondition ((g.lookup digits).map fun i => (i, rest))

/-- Open a capturing group whose name is closed by the given character. -/
def Reading.enterNamed (r : Reading) (close : Char) (cs : List Char) :
    Except Fault (Reading × Option Expr × List Char) :=
  match name? close cs with
  | some (name, rest) => .ok (r.enterCapture (some name), none, rest)
  | none => .error .badGroupName

/-- Read what stands behind `(?`: the reading that goes on, and the expression that was completed, if one
was. -/
def readMarkedGroup (r : Reading) (cs : List Char) :
    Except Fault (Reading × Option Expr × List Char) := do
  match cs with
  | '=' :: rest => return (r.enter (.look .ahead false), none, rest)
  | '!' :: rest => return (r.enter (.look .ahead true), none, rest)
  | '<' :: '=' :: rest => return (r.enter (.look .behind false), none, rest)
  | '<' :: '!' :: rest => return (r.enter (.look .behind true), none, rest)
  | '<' :: rest => r.enterNamed '>' rest
  | '\'' :: rest => r.enterNamed '\'' rest
  | 'P' :: '<' :: rest => r.enterNamed '>' rest
  | 'P' :: '=' :: rest =>
    let (i, rest) ← groupReference r.groups false ')' rest
    return (r, some (r.groups.sameAs r.flags.fold i), rest)
  | '>' :: rest => return (r.enter .atomic, none, rest)
  | '(' :: rest =>
    match ← conditionGroup? r.groups rest with
    | some (i, rest) => return (r.enter (.branches (.groupSet i) rest.length), none, rest)
    | none => return (r.enter .test, none, rest)
  | cs =>
    let (flags, opens, rest) ← readFlags cs (cs.length + 1) r.flags true cs
    if opens then return ({ r.enter (.plain r.flags) with flags := flags }, none, rest)
    else return ({ r with flags := flags }, some .empty, rest)

/-- Read what stands behind a parenthesis. Groups may be nested to the depth `limit`. -/
def readGroup (limit : Nat) (r : Reading) (cs : List Char) :
    Except Fault (Reading × Option Expr × List Char) := do
  if limit ≤ r.outer.length then throw .nestingTooDeep
  else
    match ← skip r.flags.extended cs with
    | '?' :: rest => readMarkedGroup r rest
    | _ => return (r.enterCapture none, none, cs)

/-- Read one character, class or escape that is neither a parenthesis nor a bar. -/
def readAtom (r : Reading) : List Char → Except Fault (Reading × Expr × List Char)
  | '.' :: cs => .ok (r, .chars (if r.flags.dotAll then .all else .notNewline), cs)
  | '^' :: cs => .ok (r, .assertion (if r.flags.multiline then .lineStart else .textStart), cs)
  | '$' :: cs => .ok (r, .assertion (if r.flags.multiline then .lineEnd else .textEnd), cs)
  | '+' :: _ | '*' :: _ | '?' :: _ => .error .nothingToRepeat
  | '[' :: cs => do
    let (tokens, rest) ← classTokens r.flags r.groups cs
    return (r, .chars (← classSet r.flags.fold tokens), rest)
  | '\\' :: cs => do
    let (escaped, rest) ← escape r.flags r.groups false cs
    match escaped with
    | .char c fold => return (r, .chars ((CharSet.single c).foldedIf fold), rest)
    | .set s => return (r, .chars s, rest)
    | .hexDigits negated => return (r, .chars (CharSet.hexDigits.negatedIf negated), rest)
    | .reference i numbered =>
      return ({ r with numbered := r.numbered || numbered }, r.groups.sameAs r.flags.fold i, rest)
    | .other e => return (r, e, rest)
  | c :: cs => .ok (r, .chars ((CharSet.single c).foldedIf r.flags.fold), cs)
  | [] => .error .nothingToRepeat

/-- Add an expression that was completed, if one was, with the quantifier behind it. -/
def Reading.add (r : Reading) (whole : Option Expr) (cs : List Char) :
    Except Fault (Reading × List Char) :=
  match whole with
  | none => .ok (r, cs)
  | some e => do
    let (e, rest) ← quantify r.flags e cs
    return (r.push e, rest)

/-- Read the next part of a pattern: what has been read then and what is left, or none at the end. -/
def readNext (limit : Nat) (r : Reading) (cs : List Char) :
    Except Fault (Option (Reading × List Char)) := do
  match ← skip r.flags.extended cs with
  | [] => return none
  | '|' :: rest => return some ({ r with frame := r.frame.bar }, rest)
  | ')' :: rest =>
    let (r, whole) ← r.close (rest.length + 1)
    return some (← r.add whole rest)
  | '(' :: rest =>
    let (r, whole, rest) ← readGroup limit r rest
    return some (← r.add whole rest)
  | cs =>
    let (r, e, rest) ← readAtom r cs
    return some (← r.add (some e) rest)

/-- Read a pattern to its end: what has been read then, and the blanks and comments that were left. Each
step takes a character at least, so the length is enough `fuel`. -/
def readAll (limit : Nat) : Nat → Reading → List Char → Except Fault (Reading × List Char)
  | 0, _, _ => .error .unclosedGroup
  | fuel + 1, r, cs => do
    match ← readNext limit r cs with
    | none => return (r, cs)
    | some (r, rest) => readAll limit fuel r rest

/-- The syntax tree of a pattern. -/
def parse (pattern : List Char) : Except Fault Expr := do
  let (r, _) ← readAll maxDepth (pattern.length + 1) .start pattern
  r.finish

end Listfile.Regex
