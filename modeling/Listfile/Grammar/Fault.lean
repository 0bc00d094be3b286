/-!
# What can be wrong with a grammar

* `Fault`: the reasons for which a grammar is refused.
* `Fault.message`: their wording.
-/

namespace Listfile.Grammar

/-- Why a grammar is refused. -/
inductive Fault
  /-- The text is not a definition. -/
  | unreadable
  | missingMain (grammar : String)
  | unknownContext (name usedIn : String)
  | recursiveInclude (context : String)
  | unknownVariable (name usedIn : String)
  | recursiveVariable (name : String)
  | conflictingActions (context : String)
  | invalidPattern (context pattern : String)
deriving DecidableEq, Inhabited

namespace Fault

/-- A name between grave accents. -/
def quoted (name : String) : String := "\x60" ++ name ++ "\x60"

/-- What the user is told. What a pattern or a text is refused for is not part of it. -/
def message : Fault → String
  | unreadable => "invalid grammar definition: "
  | missingMain grammar => "grammar " ++ quoted grammar ++ " has no " ++ quoted "main" ++ " context"
  | unknownContext name usedIn =>
    "context " ++ quoted usedIn ++ " references unknown context " ++ quoted name
  | recursiveInclude context => "context " ++ quoted context ++ " includes itself"
  | unknownVariable name usedIn => quoted usedIn ++ " uses unknown variable " ++ quoted name
  | recursiveVariable name => "variable " ++ quoted name ++ " references itself"
  | conflictingActions context =>
    "rule in context " ++ quoted context ++ " combines more than one of push, set and pop"
  | invalidPattern .. => "invalid pattern in context "

end Fault

end Listfile.Grammar
