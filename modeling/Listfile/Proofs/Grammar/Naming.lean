import Listfile.Proofs.Grammar.Compiling

/-!
# Names of compiled contexts

* `everyItem_true`: a condition that always holds holds of all rules of a definition.
* **`named_of_compile`**: the compiled grammar begins with the contexts that have a name, in order.
* `name_context`, **`name_main`**: a context that has a name has it in the table, and a text begins in
  `main`.
-/

namespace Listfile.Grammar

/-! ### Conditions that always hold -/

mutual

/-- A condition that always holds holds of all rules in an item. -/
theorem Item.every_true (item : Item) : item.Every fun _ _ => True := by
  cases item with
  | rule pattern scope captures push set pop =>
    rw [Item.Every]
    exact ⟨everyEntered_true push, everyEntered_true set, trivial⟩
  | incl name => exact True.intro
  | about scope content proto => exact True.intro

theorem Target.every_true (target : Target) : target.Every fun _ _ => True := by
  cases target with
  | named name => exact True.intro
  | stacked names => exact True.intro
  | anonymous items =>
    rw [Target.Every]
    exact everyItem_true items

theorem everyEntered_true (target? : Option Target) : everyEntered (fun _ _ => True) target? := by
  cases target? with
  | none => exact True.intro
  | some target =>
    rw [everyEntered]
    exact target.every_true

theorem everyItem_true (items : List Item) : everyItem (fun _ _ => True) items := by
  cases items with
  | nil => exact True.intro
  | cons item items =>
    rw [everyItem]
    exact ⟨item.every_true, everyItem_true items⟩

end

/-! ### The compiled grammar -/

section
variable {d : Definition} {g : Grammar}

/-- **The contexts that have a name come first**, in order. -/
theorem named_of_compile (h : d.compile = .ok g) :
    g.named <+: g.contexts.toList.map Context.name :=
  (wellMade_of_compile (P := fun _ => True) h (fun _ _ _ _ _ _ _ => trivial) fun c _ => everyItem_true c.2).1

/-- The name of a context that has one. -/
theorem name_context (h : d.compile = .ok g) {id : Nat} {name : String} (hname : g.named[id]? = some name) :
    (g.context id).name = name := by
  obtain ⟨more, hmore⟩ := named_of_compile h
  have hcontext : (g.contexts.toList.map Context.name)[id]? = some name := by
    rw [← hmore, List.getElem?_append_left (List.getElem?_eq_some_iff.1 hname).1, hname]
  rw [List.getElem?_map, Array.getElem?_toList] at hcontext
  obtain ⟨c, hc, rfl⟩ := Option.map_eq_some_iff.1 hcontext
  unfold context
  rw [hc]
  rfl

/-- **A text begins in the context `main`.** -/
theorem name_main (h : d.compile = .ok g) : (g.context g.main).name = "main" := by
  refine name_context h ?_
  obtain ⟨main, vars, s, hmain, -, -, rfl⟩ := exists_of_compile h
  obtain ⟨hlt, hname, -⟩ := List.findIdx?_eq_some_iff_getElem.1 hmain
  rw [List.getElem?_map, List.getElem?_eq_getElem hlt, Option.map_some, eq_of_beq hname]

end

end Listfile.Grammar
