import Listfile.Proofs.Regex.Consuming
import Mathlib.Algebra.Ring.Nat

/-!
# The end of a pattern

* `Reading.Rooted`: the outermost frame is that of the whole pattern, which reading does not change.
* `skip_of_readAll`: only blanks and comments are left at the end.
* `readAll_paren`: **a parenthesis behind a pattern closes the group around it.**
* `readAll_lineFeed`: a line feed behind it that counts is a part of the group.
* `finish_closeAnchor`, `finish_addLineFeed`: what is read then.
-/

namespace Listfile.Regex

variable {limit k : Nat} {r r' : Reading} {cs rest : List Char} {whole : Option Expr} {e : Expr}

/-! ### The outermost frame -/

/-- The outermost frame is that of the whole pattern. -/
def Reading.Rooted (r : Reading) : Prop := ∃ f ∈ (r.frame :: r.outer).getLast?, f.kind = .pattern

namespace Reading

theorem rooted_start : start.Rooted := ⟨_, rfl, rfl⟩

theorem Rooted.kind_eq (h : r.Rooted) (houter : r.outer = []) : r.frame.kind = .pattern := by
  obtain ⟨f, hf, hkind⟩ := h
  rw [houter] at hf
  cases hf
  exact hkind

/-- Only the kind of the frames counts. -/
theorem Rooted.of_frame (h : r.Rooted) (hkind : r'.frame.kind = r.frame.kind)
    (houter : r'.outer = r.outer) : r'.Rooted := by
  obtain ⟨f, hf, hf'⟩ := h
  unfold Rooted
  rw [houter]
  cases ho : r.outer with
  | nil =>
    rw [ho] at hf
    cases hf
    exact ⟨_, rfl, hkind.trans hf'⟩
  | cons g outer =>
    rw [ho] at hf
    rw [List.getLast?_cons_cons] at hf ⊢
    exact ⟨f, hf, hf'⟩

theorem kind_push (f : Frame) (e : Expr) : (f.push e).kind = f.kind := by
  unfold Frame.push
  split
  · rfl
  · rfl

theorem Rooted.push (h : r.Rooted) (e : Expr) : (r.push e).Rooted :=
  h.of_frame (kind_push r.frame e) rfl

/-- A group that is opened is a frame more. -/
theorem Rooted.of_enter (h : r.Rooted) (houter : r'.outer = r.frame :: r.outer) : r'.Rooted := by
  obtain ⟨f, hf, hf'⟩ := h
  unfold Rooted
  rw [houter, List.getLast?_cons_cons]
  exact ⟨f, hf, hf'⟩

theorem Rooted.add (h : r.Rooted) (hadd : r.add whole cs = .ok (r', rest)) : r'.Rooted := by
  cases whole with
  | none =>
    cases hadd
    exact h
  | some e =>
    obtain ⟨⟨e', ds⟩, _, hadd⟩ := bind_eq_ok.1 hadd
    cases hadd
    exact h.push e'

theorem Rooted.close {left : Nat} (h : r.Rooted) (hclose : r.close left = .ok (r', whole)) :
    r'.Rooted := by
  obtain ⟨flags, groups, numbered, ⟨kind, branches, parts⟩, outer⟩ := r
  cases outer with
  | nil => cases hclose
  | cons frame outer =>
    have hout : ∃ f ∈ (frame :: outer).getLast?, f.kind = .pattern := by
      obtain ⟨f, hf, hkind⟩ := h
      rw [List.getLast?_cons_cons] at hf
      exact ⟨f, hf, hkind⟩
    obtain ⟨_, _, hclose⟩ := bind_eq_ok.1 hclose
    cases kind with
    | pattern => cases hclose
    | plain outside =>
      cases hclose
      exact hout
    | capture i =>
      cases hclose
      exact hout
    | look side negative =>
      cases hclose
      exact hout
    | atomic =>
      cases hclose
      exact hout
    | test =>
      cases hclose
      exact Rooted.of_enter (r := ⟨flags, groups, numbered, frame, outer⟩) hout rfl
    | branches e start =>
      have hclose : (if start = left && !asksForGroup e then _ else _) = _ := hclose
      split at hclose
      · cases hclose
      · cases hclose
        exact hout

theorem Rooted.opening (h : r.Rooted) (hopening : Opening r r' whole) : r'.Rooted := by
  cases hopening with
  | opened _ _ houter => exact h.of_enter houter
  | whole _ hframe houter => exact h.of_frame (congrArg Frame.kind hframe) houter

theorem Rooted.readNext (h : r.Rooted) (hr : readNext limit r cs = .ok (some (r', rest))) :
    r'.Rooted := by
  obtain ⟨ds, -, hnext⟩ := readNext_cases hr
  cases hnext with
  | bar hr =>
    rw [hr]
    exact h.of_frame rfl rfl
  | close hclose hadd => exact (h.close hclose).add hadd
  | group hgroup hadd => exact (h.opening (readGroup_cases hgroup).2).add hadd
  | atom hatom hadd =>
    obtain ⟨-, hframe, houter, -⟩ := readAtom_cases hatom
    exact (h.of_frame (congrArg Frame.kind hframe) houter).add hadd

/-- **Reading does not change the outermost frame.** -/
theorem Rooted.readAll (n : Nat) :
    ∀ {r r' : Reading} {cs rest : List Char}, r.Rooted → readAll limit n r cs = .ok (r', rest) →
      r'.Rooted := by
  induction n with
  | zero =>
    intro r r' cs rest _ hr
    cases hr
  | succ n ih =>
    intro r r' cs rest h hr
    obtain ⟨o, ho, hr⟩ := bind_eq_ok.1 hr
    cases o with
    | none =>
      cases hr
      exact h
    | some p => exact ih (h.readNext ho) hr

end Reading

/-! ### What is left -/

theorem skip_of_readNext (h : readNext limit r cs = .ok none) : skip r.flags.extended cs = .ok [] := by
  obtain ⟨ds, hs, h⟩ := bind_eq_ok.1 h
  split at h
  · exact hs
  · cases h
  · obtain ⟨p, _, h⟩ := bind_eq_ok.1 h
    obtain ⟨q, _, h⟩ := bind_eq_ok.1 h
    cases h
  · obtain ⟨p, _, h⟩ := bind_eq_ok.1 h
    obtain ⟨q, _, h⟩ := bind_eq_ok.1 h
    cases h
  · obtain ⟨p, _, h⟩ := bind_eq_ok.1 h
    obtain ⟨q, _, h⟩ := bind_eq_ok.1 h
    cases h

theorem skip_of_readAll (n : Nat) :
    ∀ {r r' : Reading} {cs rest : List Char}, readAll limit n r cs = .ok (r', rest) →
      skip r'.flags.extended rest = .ok [] := by
  induction n with
  | zero =>
    intro r r' cs rest h
    cases h
  | succ n ih =>
    intro r r' cs rest h
    obtain ⟨o, ho, h⟩ := bind_eq_ok.1 h
    cases o with
    | none =>
      cases h
      exact skip_of_readNext ho
    | some p => exact ih h

/-! ### The end -/

/-- An expression behind an anchor. -/
def Expr.anchored (e : Expr) : Expr := .ofParts (.searchStart :: if e.isEmpty then [] else [e])

namespace Reading

/-- Does the pattern refer to groups by number although groups have names? -/
def mixesReferences (r : Reading) : Bool := r.numbered && !r.groups.names.isEmpty

theorem checkReferences_eq_ok : r.checkReferences = .ok () ↔
    ¬ (r.frame.branches.isEmpty && r.mixesReferences) = true := by
  unfold checkReferences mixesReferences
  rw [← Bool.and_assoc]
  constructor
  · intro h hmixed
    rw [if_pos hmixed] at h
    cases h
  · intro h
    exact if_neg h

theorem finish_eq_ok : r.finish = .ok e ↔
    r.outer = [] ∧ r.checkReferences = .ok () ∧ r.frame.body = e ∧
      e.references.all (fun i => 1 ≤ i && i ≤ r.groups.opened) = true := by
  unfold finish
  cases houter : r.outer with
  | cons f fs =>
    constructor
    · intro h
      cases h
    · intro h
      cases h.1
  | nil =>
    constructor
    · intro h
      obtain ⟨_, hrefs, h⟩ := bind_eq_ok.1 h
      have h : (if _ then _ else _) = Except.ok e := h
      split at h
      · rename_i hall
        cases h
        exact ⟨rfl, hrefs, rfl, hall⟩
      · cases h
    · rintro ⟨-, hrefs, rfl, hall⟩
      exact bind_eq_ok.2 ⟨(), hrefs, if_pos hall⟩

/-- What has been read once the group behind an anchor is closed. -/
def closeAnchor (r : Reading) : Reading :=
  ⟨{}, r.groups, r.numbered, Frame.anchor.push r.frame.body, []⟩

theorem body_closeAnchor : r.closeAnchor.frame.body = r.frame.body.anchored := by
  unfold closeAnchor Frame.push Expr.anchored
  cases r.frame.body.isEmpty with
  | false => rfl
  | true => rfl

theorem branches_closeAnchor : r.closeAnchor.frame.branches = [] := by
  unfold closeAnchor Frame.push
  split
  · rfl
  · rfl

theorem references_anchored (e : Expr) : e.anchored.references = e.references := by
  unfold Expr.anchored
  cases e with
  | empty => rfl
  | _ =>
    show [] ++ (_ ++ []) = _
    rw [List.nil_append, List.append_nil]

/-- The expression is the same behind an anchor, if references and names are not mixed. -/
theorem finish_closeAnchor (h : r.finish = .ok e) :
    r.closeAnchor.finish = .ok e.anchored ↔ r.mixesReferences = false := by
  obtain ⟨-, -, rfl, hall⟩ := finish_eq_ok.1 h
  rw [finish_eq_ok, checkReferences_eq_ok, branches_closeAnchor, body_closeAnchor, references_anchored]
  constructor
  · intro h
    exact Bool.eq_false_iff.2 h.2.1
  · intro hmixed
    exact ⟨rfl, Bool.eq_false_iff.1 hmixed, rfl, hall⟩

end Reading

/-- **A parenthesis behind a pattern closes the group around it.** -/
theorem readAll_paren (hroot : r.Rooted) (houter : r.outer = []) (hrefs : r.checkReferences = .ok ())
    (hs : skip r.flags.extended cs = .ok [')']) (m : Nat) :
    readAll limit (m + 2) (r.behindAnchor k) cs = .ok (r.closeAnchor, []) := by
  have hclose : (r.behindAnchor k).close 1
      = .ok (⟨{}, r.groups, r.numbered, Frame.anchor, []⟩, some r.frame.body) := by
    have hkind := hroot.kind_eq houter
    obtain ⟨flags, groups, numbered, ⟨kind, branches, parts⟩, outer⟩ := r
    cases houter
    cases hkind
    exact bind_eq_ok.2 ⟨(), hrefs, rfl⟩
  have hnext : readNext limit (r.behindAnchor k) cs = .ok (some (r.closeAnchor, [])) :=
    bind_eq_ok.2 ⟨[')'], hs, bind_eq_ok.2 ⟨_, hclose, rfl⟩⟩
  rw [readAll_step hnext]
  exact readAll_stop rfl

/-! ### A line feed before the end -/

/-- How many characters stand in the branches of an expression, outside of groups and repetitions. -/
def Expr.charCount : Expr → Nat
  | .chars _ => 1
  | .seq a b | .either a b => a.charCount + b.charCount
  | _ => 0

theorem charCount_ofParts (es : List Expr) : (Expr.ofParts es).charCount = (es.map Expr.charCount).sum := by
  have hchain : ∀ es : List Expr, (es.foldr Expr.seq .empty).charCount = (es.map Expr.charCount).sum := by
    intro es
    induction es with
    | nil => rfl
    | cons e es ih => simp [Expr.charCount, ih]
  match es with
  | [] => rfl
  | [e] => simp [Expr.ofParts]
  | a :: b :: es => exact hchain (a :: b :: es)

theorem charCount_ofBranches (es : List Expr) :
    (Expr.ofBranches es).charCount = (es.map Expr.charCount).sum := by
  have hchain : ∀ es : List Expr, (es.foldr Expr.either .never).charCount = (es.map Expr.charCount).sum := by
    intro es
    induction es with
    | nil => rfl
    | cons e es ih => simp [Expr.charCount, ih]
  match es with
  | [] => rfl
  | [e] => simp [Expr.ofBranches]
  | a :: b :: es => exact hchain (a :: b :: es)

theorem charCount_anchored (e : Expr) : e.anchored.charCount = e.charCount := by
  unfold Expr.anchored
  rw [charCount_ofParts]
  cases e with
  | empty => rfl
  | _ => exact Nat.zero_add _

theorem charCount_body (f : Frame) :
    f.body.charCount = (f.branches.map Expr.charCount).sum + (f.parts.map Expr.charCount).sum := by
  unfold Frame.body Frame.bar
  rw [charCount_ofBranches, List.map_reverse, List.sum_reverse, List.map_cons, List.sum_cons,
    charCount_ofParts, List.map_reverse, List.sum_reverse, Nat.add_comm]

theorem charCount_body_push (f : Frame) (s : CharSet) :
    (f.push (.chars s)).body.charCount = f.body.charCount + 1 := by
  rw [charCount_body, charCount_body]
  show _ + (1 + (f.parts.map Expr.charCount).sum) = _
  exact (Nat.add_left_comm _ _ _).trans (Nat.add_comm _ _)

/-- What has been read when a line feed was read as a character of the pattern. -/
def Reading.addLineFeed (r : Reading) : Reading :=
  r.push (.chars ((CharSet.single '\n').foldedIf r.flags.fold))

theorem skip_paren (x : Bool) : skip x [')'] = .ok [')'] := by
  cases x with
  | false => rfl
  | true => rfl

/-- Where line feeds are not skipped, one behind a pattern becomes a part of it. -/
theorem readAll_lineFeed (hroot : r.Rooted) (houter : r.outer = []) (hrefs : r.checkReferences = .ok ())
    (hs : skip r.flags.extended cs = .ok ['\n', ')']) (m : Nat) :
    readAll limit (m + 3) (r.behindAnchor k) cs = .ok (r.addLineFeed.closeAnchor, []) := by
  have hadd : (r.behindAnchor k).add (some (.chars ((CharSet.single '\n').foldedIf r.flags.fold))) [')']
      = .ok (r.addLineFeed.behindAnchor k, [')']) := by
    refine bind_eq_ok.2 ⟨(_, [')']), bind_eq_ok.2 ⟨[')'], skip_paren _, rfl⟩, ?_⟩
    unfold Reading.addLineFeed
    rw [Reading.behindAnchor_push]
    rfl
  have hnext : readNext limit (r.behindAnchor k) cs
      = .ok (some (r.addLineFeed.behindAnchor k, [')'])) :=
    bind_eq_ok.2 ⟨['\n', ')'], hs, bind_eq_ok.2 ⟨_, rfl, bind_eq_ok.2 ⟨_, hadd, rfl⟩⟩⟩
  have hrefs' : r.addLineFeed.checkReferences = .ok () := hrefs
  rw [readAll_step hnext]
  exact readAll_paren (hroot.push _) houter hrefs' (skip_paren _) m

/-- **The line feed is not lost.** -/
theorem finish_addLineFeed (h : r.finish = .ok e) :
    r.addLineFeed.closeAnchor.finish ≠ .ok e.anchored := by
  intro he
  obtain ⟨-, -, rfl, -⟩ := Reading.finish_eq_ok.1 h
  obtain ⟨-, -, hbody, -⟩ := Reading.finish_eq_ok.1 he
  rw [Reading.body_closeAnchor] at hbody
  have hcount := congrArg Expr.charCount hbody
  rw [charCount_anchored, charCount_anchored] at hcount
  have hpush := charCount_body_push r.frame ((CharSet.single '\n').foldedIf r.flags.fold)
  have hadd : r.addLineFeed.frame.body.charCount = r.frame.body.charCount + 1 := hpush
  omega

end Listfile.Regex
