import Listfile.Proofs.Grammar.Listing
import Listfile.Proofs.Highlight.Bracketing
import Listfile.Proofs.Highlight.Scoping
import Listfile.Proofs.Highlight.Splitting

/-!
# Comments that end with their line

Only a rule for a number sign enters the context of comments up to the end of a line.  There a rule matches all of the
line, and then one that matches nothing leaves the context.  It does so before the walk along the line has ended, since
no such match came before it on the way.

* `Outside`: contexts that are none of these comments.
* **`IsListFiles.enters`**: what rules enter.
* `ScopedAsComment`, `LineComment`, `Findings.Settled`: what has been found of comments that have ended.
* **`Walk.advance_outside`**, **`Walk.advance_inside`**: what a step does outside of a comment and within one.
* `Walk.Tidy`, `Walk.Tidy.advance`: a comment that has not ended is the last thing that was entered, on this line.
* **`highlight_lineComments`**: comments end with their lines, in whatever text.
-/

namespace Listfile.Grammar

variable {g : Grammar} {ids : List Nat} {id : Nat} {action : Action}

/-! ### Contexts outside of comments -/

/-- The contexts are contexts of the grammar for list files, but not that of comments up to the end of a line. -/
def Outside (ids : List Nat) : Prop := ∀ id ∈ ids, id < cmakeContexts.length ∧ id ≠ 9

instance (ids : List Nat) : Decidable (Outside ids) := inferInstanceAs (Decidable (∀ id ∈ ids, _))

/-- Behind an action that enters contexts outside of comments only, none but such contexts are open. -/
theorem Outside.contexts (hids : Outside ids) (htargets : Outside action.targets) : Outside (action.contexts ids) := by
  have hentered {targets kept : List Nat} (ht : Outside targets) (hk : Outside kept) :
      Outside (targets.reverse ++ kept) :=
    List.forall_mem_append.2 ⟨fun id hid => ht id (List.mem_reverse.1 hid), hk⟩
  have htail : Outside ids.tail := fun id hid => hids id (List.mem_of_mem_tail hid)
  cases action with
  | stay => exact hids
  | push targets => exact hentered htargets hids
  | pop =>
    show Outside (if 1 < ids.length then ids.tail else ids)
    split
    · exact htail
    · exact hids
  | set targets => exact hentered htargets htail

theorem IsListFiles.name_ne (hg : IsListFiles g) (hid : id < cmakeContexts.length) (h9 : id ≠ 9) :
    (g.context id).name ≠ "line_comment" := by
  have hothers : ∀ i < cmakeContexts.length, i ≠ 9 → (cmakeContexts[i]?).map (·.1) ≠ some "line_comment" := by
    decide
  have hlabel := hg.name (List.getElem?_eq_getElem hid)
  rw [hlabel]
  intro hname
  refine hothers id hid h9 ?_
  rw [List.getElem?_eq_getElem hid]
  exact congrArg some hname

/-- The rule for comments up to the end of a line. -/
def lineSketch : Sketch := ⟨.text "#", .push [9], []⟩

theorem outside_outline : ∀ o ∈ outline, ∀ k ∈ o.2, k = lineSketch ∨ Outside k.action.targets := by
  decide

/-- **What rules enter.**  Only those for a number sign enter a comment up to the end of its line. -/
theorem IsListFiles.enters (hg : IsListFiles g) (hid : id < cmakeContexts.length) {rule : Rule}
    (hrule : rule ∈ (g.context id).rules) : Obeys lineSketch rule ∨ Outside rule.action.targets := by
  obtain ⟨⟨label, items⟩, hcontext⟩ : ∃ c, cmakeContexts[id]? = some c := ⟨_, List.getElem?_eq_getElem hid⟩
  rcases outlined_or_bracketed _ (List.mem_of_getElem? hcontext) with ⟨ks, hks⟩ | ⟨scope, closing, hitems⟩
  · obtain ⟨k, hk, hobeys⟩ := exists_obeys_of_mem (hg.obeys hcontext hks) hrule
    rw [hobeys.action]
    rcases outside_outline _ (Compiler.mem_of_lookup hks) k hk with rfl | houtside
    · exact .inl hobeys
    · exact .inr houtside
  · -- the rules of bracketed text enter nothing
    obtain rfl : items = bracketed scope closing := hitems
    obtain ⟨fillers, hrules, hfillers, -⟩ := hg.exists_bracketed hcontext
    have hstay : ∀ k ∈ fillerSketches, Outside k.action.targets := by decide
    rw [hrules] at hrule
    rcases List.mem_cons.1 hrule with rfl | hrule
    · exact .inr (List.forall_mem_nil _)
    · obtain ⟨k, hk, hobeys⟩ := exists_obeys_of_mem hfillers hrule
      rw [hobeys.action]
      exact .inr (hstay k hk)

end Listfile.Grammar

namespace Listfile.Highlight

open Grammar Regex

/-- The scope of comments up to the end of a line. -/
def lineScope : Scope := ⟨"comment.line.number-sign.cmake"⟩

/-! ### What has been found of comments -/

/-- Tokens with the scope of comments cover the bytes from one offset up to another. -/
def ScopedAsComment (tokens : List Token) (start stop : Nat) : Prop :=
  ∀ i, start ≤ i → i < stop → ∃ t ∈ tokens, t.span.start ≤ i ∧ i < t.span.stop ∧ lineScope ∈ t.scopes

/-- A comment begins at the offset `start` with a number sign on one of the lines, and `stop` is the end of the content
of this line.  Tokens with its scope cover the content from there on, if it is a line indeed. -/
inductive LineComment (lines : List (List Char)) (tokens : List Token) (start stop : Nat) : Prop
  | line {before after : List (List Char)} {line front behind : List Char}
    (hlines : lines = before ++ line :: after) (hcontent : lineContent line = front ++ '#' :: behind)
    (hstart : start = byteLength before.flatten + byteLength front)
    (hstop : stop = byteLength before.flatten + byteLength (lineContent line))
    (hscoped : '\n' ∉ lineContent line → ScopedAsComment tokens start stop)

/-- In what has been found, the newest first, the next thing behind the start of a comment is its end. -/
def Findings.Settled (lines : List (List Char)) (f : Findings) : Prop :=
  ∀ later earlier n, f.events = later ++ ⟨n, .push, "line_comment"⟩ :: earlier → ∃ later' stop,
    later = later' ++ [⟨stop, .pop, "line_comment"⟩] ∧ LineComment lines f.tokens n stop

section
variable {tokens tokens' : List Token} {lines : List (List Char)} {a b c start stop : Nat} {t : Token}

theorem ScopedAsComment.mono (h : ScopedAsComment tokens a b) (hsubset : tokens ⊆ tokens') :
    ScopedAsComment tokens' a b := by
  intro i hi hlt
  obtain ⟨t, ht, hholds⟩ := h i hi hlt
  exact ⟨t, hsubset ht, hholds⟩

theorem ScopedAsComment.cons (h : ScopedAsComment tokens a b) (hspan : t.span = ⟨b, c⟩)
    (hscope : lineScope ∈ t.scopes) : ScopedAsComment (t :: tokens) a c := by
  intro i hi hlt
  rcases Nat.lt_or_ge i b with hib | hib
  · exact h.mono (List.subset_cons_self t tokens) i hi hib
  · refine ⟨t, List.mem_cons_self, ?_, ?_, hscope⟩
    · rw [hspan]
      exact hib
    · rw [hspan]
      exact hlt

theorem LineComment.mono (h : LineComment lines tokens start stop) (hsubset : tokens ⊆ tokens') :
    LineComment lines tokens' start stop := by
  obtain ⟨hlines, hcontent, hstart, hstop, hscoped⟩ := h
  exact .line hlines hcontent hstart hstop fun hfeed => (hscoped hfeed).mono hsubset

theorem Findings.settled_empty (lines : List (List Char)) : Findings.Settled lines ⟨[], []⟩ := by
  intro later earlier n hevents
  cases later <;> cases hevents

variable {f : Findings} {events : List Event}

/-- What does not begin a comment may be found behind what has been found. -/
theorem Findings.Settled.add (h : f.Settled lines) (hno : ∀ n, ⟨n, .push, "line_comment"⟩ ∉ events) :
    (f.add tokens events).Settled lines := by
  intro later earlier n hevents
  have hsubset : f.tokens ⊆ (f.add tokens events).tokens := List.subset_append_right _ _
  rcases List.append_eq_append_iff.1 hevents with ⟨later', rfl, hrest⟩ | ⟨front, hfront, hrest⟩
  · obtain ⟨later'', stop, rfl, hcomment⟩ := h later' earlier n hrest
    exact ⟨_, stop, (List.append_assoc ..).symm, hcomment.mono hsubset⟩
  · cases front with
    | nil =>
      obtain ⟨later'', stop, hnil, -⟩ := h [] earlier n hrest.symm
      cases later'' <;> cases hnil
    | cons e front =>
      obtain ⟨rfl, -⟩ := List.cons_eq_cons.1 hrest
      refine absurd (List.mem_reverse.1 ?_) (hno n)
      rw [hfront]
      exact List.mem_append_right _ List.mem_cons_self

/-- A comment is found when it ends. -/
theorem Findings.Settled.close (h : Findings.Settled lines ⟨f.tokens, events⟩)
    (hevents : f.events = ⟨start, .push, "line_comment"⟩ :: events) (hcomment : LineComment lines f.tokens start stop) :
    (f.add tokens [⟨stop, .pop, "line_comment"⟩]).Settled lines := by
  intro later earlier n hfound
  have hsubset : f.tokens ⊆ (f.add tokens [⟨stop, .pop, "line_comment"⟩]).tokens := List.subset_append_right _ _
  have hboth : ⟨stop, .pop, "line_comment"⟩ :: ⟨start, .push, "line_comment"⟩ :: events
      = later ++ ⟨n, .push, "line_comment"⟩ :: earlier := by
    rw [← hfound, ← hevents]
    rfl
  cases later with
  | nil => cases hboth
  | cons e later =>
    obtain ⟨rfl, hrest⟩ := List.cons_eq_cons.1 hboth
    cases later with
    | nil =>
      cases hrest
      exact ⟨[], stop, rfl, hcomment.mono hsubset⟩
    | cons d later =>
      obtain ⟨rfl, hearlier⟩ := List.cons_eq_cons.1 hrest
      obtain ⟨later', stop', rfl, hother⟩ := h later earlier n hearlier
      exact ⟨_ :: _ :: later', stop', rfl, hother.mono hsubset⟩

end

/-! ### Scopes of comments -/

section
variable {g : Grammar} {base n : Nat} {texts : List (Option (List Char))} {stack : Stack} {action : Action}
  {f : Frame} {w : Walk} {place : Cursor} {hit : Hit} {u : List Char}

theorem metaScope_lineComment (hg : IsListFiles g) : (g.context 9).metaScope = [lineScope] := by
  have hitems : (cmakeContexts[9]?).map (fun c => (About.ofItems c.2).metaScope) = some [lineScope] := by
    decide +kernel
  obtain ⟨rules, -, hcontext⟩ := hg.contexts 9 _ rfl
  rw [hcontext]
  exact Option.some.inj hitems

/-- What begins a comment and what stands in it has its scope. -/
theorem lineScope_mem_frontScopes (hg : IsListFiles g) (h : f ∈ (applyAction g n texts stack action).1)
    (hf : f.context = 9) : lineScope ∈ frontScopes g stack action := by
  refine (infix_frontScopes (.inl h)).subset ?_
  rw [hf, metaScope_lineComment hg]
  exact List.mem_singleton_self lineScope

/-- A match with that scope and without captures is one token. -/
theorem Walk.advance_scoped (hg : IsListFiles g) (base : Nat) (hmatch : findMatch g w.stack place = some hit)
    (hfirst : hit.whole.first = place) (hu : u ≠ []) (hpasses : place.Passes u hit.whole.last)
    (hcaptures : hit.rule.captures = []) (hscope : lineScope ∈ frontScopes g w.stack hit.rule.action) : ∃ t : Token,
      t.span = ⟨base + place.offset, base + hit.whole.last.offset⟩ ∧ lineScope ∈ t.scopes ∧
      w.advance g base place = ⟨some hit.whole.last, 0,
        (applyAction g (base + place.offset) hit.texts w.stack hit.rule.action).1,
        w.findings.add [t] (applyAction g (base + place.offset) hit.texts w.stack hit.rule.action).2⟩ := by
  have hlt := hpasses.offset_lt hu
  have hspan : hit.whole.span = ⟨place.offset, hit.whole.last.offset⟩ := by rw [Capture.span, hfirst]
  have hlength : 1 < (frontScopes g w.stack hit.rule.action ++ hit.rule.scope).length := by
    -- the scope of the grammar is another one
    obtain ⟨more, hfront⟩ := exists_frontScopes g w.stack hit.rule.action
    rw [hfront, hg.scope] at hscope
    have hmore : lineScope ∈ more := List.mem_of_ne_of_mem (by decide) hscope
    have hpos := List.length_pos_of_mem hmore
    rw [hfront, List.length_append, List.length_cons]
    omega
  have hsegments : segments base (frontScopes g w.stack hit.rule.action) hit.rule hit.whole.span
      (hit.captures.map fun c => c.map Capture.span) = _ :=
    segments_of_captures_nil hcaptures (by rw [hspan]; exact hlt)
  rw [if_pos hlength, hspan] at hsegments
  refine ⟨⟨⟨base + place.offset, base + hit.whole.last.offset⟩,
    frontScopes g w.stack hit.rule.action ++ hit.rule.scope⟩, rfl, List.mem_append_left _ hscope, ?_⟩
  rw [Walk.advance_of_lt hmatch hlt]
  unfold Walk.apply
  rw [hspan, hsegments]

end

/-! ### Steps -/

section
variable {g : Grammar} {base : Nat} {w : Walk} {place : Cursor} {captures : List (Option (List Char))} {below : Stack}

/-- The events of entering contexts are those of the contexts that the action enters. -/
theorem exists_target_of_push {n : Nat} {texts : List (Option (List Char))} {stack : Stack} {action : Action}
    {e : Event} (h : e ∈ (applyAction g n texts stack action).2) (hpush : e.kind = .push) :
    ∃ id ∈ action.targets, e.context = (g.context id).name := by
  have hentered {targets : List Nat} (he : e ∈ targets.map fun id => ⟨n, .push, (g.context id).name⟩) :
      ∃ id ∈ targets, e.context = (g.context id).name := by
    obtain ⟨id, hid, rfl⟩ := List.mem_map.1 he
    exact ⟨id, hid, rfl⟩
  have hleft {s : Stack} (he : e ∈ (popFrame g n s).2) : False := by
    rw [popFrame_eq] at he
    obtain ⟨f, -, rfl⟩ := List.mem_map.1 he
    cases hpush
  cases action with
  | stay => cases h
  | push targets => exact hentered h
  | pop =>
    unfold applyAction at h
    dsimp only at h
    split at h
    · exact (hleft h).elim
    · cases h
  | set targets =>
    rcases List.mem_append.1 h with h | h
    · exact (hleft h).elim
    · exact hentered h

/-- A rule for a number sign passes one. -/
theorem passes_of_lineSketch {frame : Frame} {rule : Rule} {hit : Hit} (hobeys : Obeys lineSketch rule)
    (htry : tryRule frame place rule = some hit) :
    hit.whole.first = place ∧ place.Passes ['#'] hit.whole.last := by
  obtain ⟨source, r, hpattern, htrait⟩ := hobeys.pattern
  rw [tryRule_fixed hpattern] at htry
  obtain ⟨-, hsearch, -⟩ := hit?_eq_some htry
  rcases search_sets (of_decide_eq_true htrait) place with ⟨u, d, hu, hd, hfound⟩ | ⟨-, hnot⟩
  · obtain rfl : u = ['#'] := fits_single.1 hu
    obtain ⟨hwhole, -⟩ := SearchResult.found.inj (hsearch.symm.trans hfound)
    rw [hwhole]
    exact ⟨rfl, hd⟩
  · cases hsearch.symm.trans hnot

/-- **A step outside of comments** stays outside, or passes a number sign and enters one. -/
theorem Walk.advance_outside (hg : IsListFiles g) (base : Nat) (place : Cursor)
    (hout : Outside (w.stack.map Frame.context)) :
    (Outside ((w.advance g base place).stack.map Frame.context) ∧ ∃ tokens events,
      (w.advance g base place).findings = w.findings.add tokens events ∧ ∀ n, ⟨n, .push, "line_comment"⟩ ∉ events) ∨
    w.stack ≠ [] ∧ ∃ (d : Cursor) (texts : List (Option (List Char))) (t : Token), place.Passes ['#'] d ∧
      t.span = ⟨base + place.offset, base + d.offset⟩ ∧ lineScope ∈ t.scopes ∧
      w.advance g base place = ⟨some d, 0, ⟨9, texts⟩ :: w.stack,
        w.findings.add [t] [⟨base + place.offset, .push, "line_comment"⟩]⟩ := by
  rcases (Walk.moves_advance base w place).stack_findings with ⟨hstack, hfindings⟩ | ⟨hit, hmatch, hstack, hfindings⟩
  · refine .inl ⟨?_, [], [], hfindings, fun n => List.not_mem_nil⟩
    rw [hstack]
    exact hout
  · obtain ⟨frame, below, hframes, hrule, htry⟩ := exists_tryRule_of_findMatch hmatch
    have hid : frame.context < cmakeContexts.length := by
      refine (hout frame.context ?_).1
      rw [hframes]
      exact List.mem_cons_self
    rcases hg.enters hid hrule with hobeys | htargets
    · have haction : hit.rule.action = .push [9] := hobeys.action
      have hname : (g.context 9).name = "line_comment" := hg.name rfl
      have hframe : ⟨9, []⟩ ∈ (applyAction g 0 [] w.stack hit.rule.action).1 := by
        rw [haction]
        exact List.mem_cons_self
      obtain ⟨hfirst, hpasses⟩ := passes_of_lineSketch hobeys htry
      obtain ⟨t, hspan, hcarries, hadvance⟩ := Walk.advance_scoped hg base hmatch hfirst (List.cons_ne_nil _ _) hpasses
        (List.map_eq_nil_iff.1 hobeys.groups) (lineScope_mem_frontScopes hg hframe rfl)
      refine .inr ⟨?_, _, hit.texts, t, hpasses, hspan, hcarries, ?_⟩
      · rw [hframes]
        exact List.cons_ne_nil _ _
      · rw [hadvance, haction, ← hname]
        rfl
    · refine .inl ⟨?_, _, _, hfindings, fun n hmem => ?_⟩
      · rw [hstack]
        show Outside ((applyAction g _ _ w.stack hit.rule.action).1.map Frame.context)
        rw [map_context_applyAction]
        exact hout.contexts htargets
      · obtain ⟨id, htarget, hname⟩ := exists_target_of_push hmem rfl
        obtain ⟨hlt, h9⟩ := htargets id htarget
        exact hg.name_ne hlt h9 hname.symm

/-- **A step within a comment** leaves it at the end of the line, and passes some of the line before. -/
theorem Walk.advance_inside (hg : IsListFiles g) (base : Nat) (hplace : w.place = some place)
    (hstack : w.stack = ⟨9, captures⟩ :: below) (hbelow : below ≠ []) (hstalled : w.stalled < maxStalled) :
    (place.after = [] ∧ ∃ tokens, w.advance g base place = ⟨some place, w.stalled + 1, below,
      w.findings.add tokens [⟨base + place.offset, .pop, "line_comment"⟩]⟩) ∨
    (∃ (u : List Char) (d : Cursor) (t : Token), place.Passes u d ∧
      t.span = ⟨base + place.offset, base + d.offset⟩ ∧ lineScope ∈ t.scopes ∧
      w.advance g base place = ⟨some d, 0, w.stack, w.findings.add [t] []⟩) ∨
    ∃ d : Cursor, place.Passes ['\n'] d ∧ w.advance g base place = { w with place := some d } := by
  cases hafter : place.after with
  | nil =>
    obtain ⟨hit, hmatch, hwhole, haction⟩ := exists_findMatch_lineEnd hg captures below hafter
    obtain ⟨frame, below, rfl⟩ := List.exists_cons_of_ne_nil hbelow
    have hname : (g.context 9).name = "line_comment" := hg.name rfl
    have hspan : hit.whole.span = ⟨place.offset, place.offset⟩ := by rw [hwhole, Capture.span]
    rw [← hstack] at hmatch
    refine .inl ⟨rfl, w.emitted g base hit, ?_⟩
    rw [Walk.advance_of_le hmatch (by rw [hwhole]), if_neg (Nat.not_le.2 hstalled)]
    unfold Walk.apply Walk.emitted
    rw [hspan, haction, hstack, applyAction_pop, hname, hplace]
  | cons c cs =>
    by_cases hc : c = '\n'
    · subst hc
      obtain ⟨d, hnext, hd⟩ := Cursor.next?_of_after hafter
      have hnone := findMatch_lineComment_of_feed hg captures below hafter
      rw [← hstack] at hnone
      refine .inr (.inr ⟨d, hd, ?_⟩)
      rw [Walk.advance_of_none hnone, hnext]
      rfl
    · obtain ⟨hit, u, hmatch, haction, hcaptures, hfirst, hu, hpasses⟩ :=
        exists_findMatch_lineComment hg captures below hafter hc
      rw [← hstack] at hmatch
      have hframe : ⟨9, captures⟩ ∈ (applyAction g 0 [] w.stack hit.rule.action).1 := by
        rw [haction, hstack]
        exact List.mem_cons_self
      obtain ⟨t, hspan, hscope, hadvance⟩ := Walk.advance_scoped hg base hmatch hfirst hu hpasses hcaptures
        (lineScope_mem_frontScopes hg hframe rfl)
      refine .inr (.inl ⟨u, _, t, hpasses, hspan, hscope, ?_⟩)
      rw [hadvance, haction]
      rfl

end

/-! ### Walks -/

/-- A walk along a line, which begins at the offset `base`.  It is outside of comments, or within one that has begun on
this line.  Then nothing has happened since, and all of the line up to the place has been scoped. -/
inductive Walk.Tidy (lines : List (List Char)) (base : Nat) (line : List Char) (w : Walk) : Prop
  | outside (hout : Outside (w.stack.map Frame.context)) (hsettled : w.findings.Settled lines)
  | inside {captures : List (Option (List Char))} {below : Stack} {place : Cursor} (front behind : List Char)
    (events : List Event)
    (hstack : w.stack = ⟨9, captures⟩ :: below) (hbelow : below ≠ []) (hout : Outside (below.map Frame.context))
    (hplace : w.place = some place) (hstalled : w.stalled = 0)
    (hbefore : place.before.reverse = front ++ '#' :: behind)
    (hevents : w.findings.events = ⟨base + byteLength front, .push, "line_comment"⟩ :: events)
    (hsettled : Findings.Settled lines ⟨w.findings.tokens, events⟩)
    (hscoped : '\n' ∉ line → ScopedAsComment w.findings.tokens (base + byteLength front) (base + place.offset))

section
variable {g : Grammar} {lines before after : List (List Char)} {line : List Char} {w : Walk} {place : Cursor}

/-- **Steps keep it so.** -/
theorem Walk.Tidy.advance (hg : IsListFiles g) (hlines : lines = before ++ line :: after)
    (hon : w.On (lineContent line)) (h : w.Tidy lines (byteLength before.flatten) (lineContent line))
    (hplace : w.place = some place) :
    (w.advance g (byteLength before.flatten) place).Tidy lines (byteLength before.flatten) (lineContent line) := by
  have htext : place.before.reverse ++ place.after = lineContent line := hon.text place hplace
  cases h with
  | outside hout hsettled =>
    rcases Walk.advance_outside hg (byteLength before.flatten) place hout with
      ⟨hout', tokens, events, hfindings, hno⟩ | ⟨hstack, d, texts, t, hpasses, hspan, hscope, hadvance⟩
    · refine .outside hout' ?_
      rw [hfindings]
      exact hsettled.add hno
    · have hoffset : byteLength place.before.reverse = place.offset := by rw [byteLength_reverse, place.offset_eq]
      have hnothing : ScopedAsComment w.findings.tokens (byteLength before.flatten + place.offset)
          (byteLength before.flatten + place.offset) := fun i hi hlt => absurd hi (Nat.not_le.2 hlt)
      rw [hadvance]
      refine .inside place.before.reverse [] w.findings.events rfl hstack hout rfl rfl ?_ ?_ ?_ fun _ => ?_
      · rw [hpasses.before, List.reverse_append]
        rfl
      · rw [hoffset]
        rfl
      · show (w.findings.add [t] []).Settled lines
        exact hsettled.add fun n => List.not_mem_nil
      · rw [hoffset]
        exact hnothing.cons hspan hscope
  | @inside captures below place' front behind events hstack hbelow hout hplace' hstalled hbefore hevents hsettled
      hscoped =>
    obtain rfl : place = place' := Option.some.inj (hplace.symm.trans hplace')
    have hfew : w.stalled < maxStalled := by
      rw [hstalled]
      decide
    have hpassed {u : List Char} {d : Cursor} (hpasses : place.Passes u d) :
        d.before.reverse = front ++ '#' :: (behind ++ u) := by
      rw [hpasses.before, List.reverse_append, List.reverse_reverse, hbefore, List.append_assoc]
      rfl
    rcases Walk.advance_inside hg (byteLength before.flatten) hplace hstack hbelow hfew with
      ⟨hend, tokens, hadvance⟩ | ⟨u, d, t, hpasses, hspan, hscope, hadvance⟩ | ⟨d, hpasses, hadvance⟩
    · -- the comment ends with the line
      rw [hend, List.append_nil] at htext
      have hoffset : place.offset = byteLength (lineContent line) := by
        rw [← htext, byteLength_reverse, place.offset_eq]
      have hcomment : LineComment lines w.findings.tokens (byteLength before.flatten + byteLength front)
          (byteLength before.flatten + place.offset) := by
        refine .line hlines (htext.symm.trans hbefore) rfl ?_ hscoped
        rw [hoffset]
      rw [hadvance]
      exact .outside hout (hsettled.close hevents hcomment)
    · rw [hadvance]
      refine .inside front (behind ++ u) events hstack hbelow hout rfl rfl (hpassed hpasses) hevents ?_ fun hfeed => ?_
      · show (Findings.add ⟨w.findings.tokens, events⟩ [t] []).Settled lines
        exact hsettled.add fun n => List.not_mem_nil
      · exact (hscoped hfeed).cons hspan hscope
    · rw [hadvance]
      refine .inside front (behind ++ ['\n']) events hstack hbelow hout rfl hstalled (hpassed hpasses) hevents hsettled
        fun hfeed => absurd ?_ hfeed
      rw [← htext, hpasses.after]
      exact List.mem_append_right _ List.mem_cons_self

/-- **Behind lines** no comment is open, and all have ended. -/
theorem settled_highlightLines (hg : IsListFiles g) {stack : Stack} {f : Findings} (hlines : lines = before ++ after)
    (hout : Outside (stack.map Frame.context)) (hsettled : f.Settled lines) :
    Outside ((highlightLines g (byteLength before.flatten) after stack f).1.map Frame.context) ∧
      (highlightLines g (byteLength before.flatten) after stack f).2.Settled lines := by
  induction after generalizing before stack f with
  | nil => exact ⟨hout, hsettled⟩
  | cons line after ih =>
    obtain ⟨-, htidy⟩ := Walk.run_induction (g := g)
      (I := fun w => w.On (lineContent line) ∧ w.Tidy lines (byteLength before.flatten) (lineContent line))
      (fun w place hw hplace => ⟨hw.1.advance hplace, hw.2.advance hg hlines hw.1 hplace⟩)
      (w := .start (lineContent line) stack f) ⟨Walk.on_start _ _ _, .outside hout hsettled⟩
      (maxSteps (lineContent line).length)
    have hbase : byteLength before.flatten + byteLength line = byteLength (before ++ [line]).flatten := by simp
    have hrest : lines = (before ++ [line]) ++ after := by simpa using hlines
    rw [highlightLines, hbase]
    cases htidy with
    | outside hout' hsettled' => exact ih hrest hout' hsettled'
    | inside front behind events hstack hbelow hout' hplace =>
      -- a walk that has ended has no place
      have hend := place_highlightLine (g := g) (byteLength before.flatten) (lineContent line) stack f
      cases hend.symm.trans hplace

end

/-- **Comments up to the end of a line end with their line.**  Whatever lines have been highlighted, the context of such
a comment is not open behind them.  In whatever text, it is entered at a number sign in the content of a line, and the
next event is that of leaving it at the end of this content.  Tokens with the scope of these comments cover every byte
in between. -/
theorem highlight_lineComments : ∃ g, cmake.compile = .ok g ∧
    (∀ lines, ∀ f ∈ ((Session.start g).highlightLines g 0 lines ⟨[], []⟩).1.stack,
      (g.context f.context).name ≠ "line_comment") ∧
    ∀ text earlier later n, (highlight g text).events = earlier ++ ⟨n, .push, "line_comment"⟩ :: later →
      ∃ before line after front behind later', splitLines text = before ++ line :: after ∧
        lineContent line = front ++ '#' :: behind ∧ n = byteLength before.flatten + byteLength front ∧
        later = ⟨byteLength before.flatten + byteLength (lineContent line), .pop, "line_comment"⟩ :: later' ∧
        ∀ i, n ≤ i → i < byteLength before.flatten + byteLength (lineContent line) →
          ∃ t ∈ (highlight g text).tokens, t.span.start ≤ i ∧ i < t.span.stop ∧
            ⟨"comment.line.number-sign.cmake"⟩ ∈ t.scopes := by
  obtain ⟨g, hg⟩ := exists_isListFiles
  have hstart : Outside ((Stack.initial g).map Frame.context) := by
    rw [Stack.initial, hg.main]
    decide
  have hbehind (lines : List (List Char)) :
      Outside ((highlightLines g 0 lines (.initial g) ⟨[], []⟩).1.map Frame.context) ∧
        (highlightLines g 0 lines (.initial g) ⟨[], []⟩).2.Settled lines :=
    settled_highlightLines hg (List.nil_append lines).symm hstart (Findings.settled_empty lines)
  refine ⟨g, hg.compile, fun lines f hf => ?_, fun text earlier later n hevents => ?_⟩
  · have hstack := congrArg Prod.fst ((Session.start g).highlightLines_eq (g := g) 0 lines ⟨[], []⟩)
    dsimp only at hstack
    rw [hstack] at hf
    obtain ⟨hlt, h9⟩ := (hbehind lines).1 f.context (List.mem_map_of_mem hf)
    exact hg.name_ne hlt h9
  · have hfound : highlight g text = highlightFrom g (.initial g) text := Session.highlight_eq _ _
    rw [hfound] at hevents ⊢
    -- what has been found is kept with the newest first
    have hreverse := congrArg List.reverse hevents
    rw [List.reverse_append, List.reverse_cons, List.append_assoc] at hreverse
    obtain ⟨later', stop, hlater, @⟨before, after, line, front, behind, hlines, hcontent, hstart, rfl, hscoped⟩⟩ :=
      (hbehind (splitLines text)).2 later.reverse earlier.reverse n ((List.reverse_reverse _).symm.trans hreverse)
    have hline : line ∈ splitLines text := by
      rw [hlines]
      exact List.mem_append_right before List.mem_cons_self
    refine ⟨before, line, after, front, behind, later'.reverse, hlines, hcontent, hstart, ?_, fun i hi hlt => ?_⟩
    · have hlater := congrArg List.reverse hlater
      rwa [List.reverse_reverse, List.reverse_append] at hlater
    · obtain ⟨t, ht, hholds⟩ := hscoped (feed_notMem_lineContent hline) i hi hlt
      exact ⟨t, List.mem_reverse.2 ht, hholds⟩

end Listfile.Highlight
