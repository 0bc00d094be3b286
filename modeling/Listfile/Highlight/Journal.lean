import Listfile.Highlight.Basic

/-!
# The journal of events

* `replay`: the contexts that are open after events.
* `isNested`: does every event that leaves a context leave the one entered last?
-/

namespace Listfile.Highlight

/-- The contexts that are open after an event, the innermost first, given those open before it. None if
the event leaves a context that is not the innermost. -/
def Event.replay (e : Event) (contexts : List String) : Option (List String) :=
  match e.kind, contexts with
  | .push, contexts => some (e.context :: contexts)
  | .pop, top :: contexts => if top = e.context then some contexts else none
  | .pop, [] => none

/-- The contexts that are open after events, the innermost first. -/
def replay (events : List Event) (contexts : List String) : Option (List String) :=
  events.foldlM (fun contexts e => e.replay contexts) contexts

/-- Do the events only leave contexts that they entered, in reverse order? -/
def isNested (events : List Event) : Bool := (replay events []).isSome

end Listfile.Highlight
