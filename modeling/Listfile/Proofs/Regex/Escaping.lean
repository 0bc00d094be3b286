import Listfile.Proofs.Regex.Skipping
import Listfile.Regex.Parse.Class
import Mathlib.Data.List.TakeWhile

/-!
# Escapes and classes before other texts

Where an escape or a class ends does not depend on what stands behind it, unless it goes on as long as it can:
what may follow a number is a digit, and what may follow a boundary is a brace.

* `Closed`: a reader reads the same before any text.
* `skip_append_cons`: blanks and comments before other parts.
* `closed_groupReference`: names, numbers and distances of groups.
* `Unbraced`: what follows a boundary does not go on with it.
* `EscapeForm`, `exists_escapeForm`: the first character of an escape decides what is read behind it.
* **`escape_before`**: what stands behind a backslash; `local_escape`: before the end of a group.
* **`closed_classTokens`**: the text of a class.
-/

namespace Listfile.Regex

variable {x inClass : Bool} {cs ds rest w t name : List Char} {c d : Char} {n : Nat} {g : GroupTable}
  {flags : Flags}

/-! ### Readers -/

/-- A reader that succeeds reads the same before any text. -/
def Closed {α : Type} (p : List Char → Except Fault (α × List Char)) : Prop :=
  ∀ cs a rest, p cs = .ok (a, rest) → ∀ w, p (cs ++ w) = .ok (a, rest ++ w)

/-! ### Blanks and comments -/

theorem skipFrom_cons (x : Bool) (cs : List Char) (hc : c ≠ '(') :
    skipFrom x .nothing (c :: cs)
      = if x && c == '#' then skipFrom x .lineComment cs
        else if x && (c == ' ' || c == '\t' || c == '\r' || c == '\n') then skipFrom x .nothing cs
        else some (c :: cs) :=
  skipFrom.eq_2 x c cs fun _ he _ => hc he

/-- Another part is found behind blanks and comments before any text, unless the front of a comment stands
there. -/
theorem skipFrom_append_cons {m : Skipping} (h : skipFrom x m cs = some (c :: rest))
    (hparen : c :: rest = ['('] → w.head? ≠ some '?') (hopen : c :: rest ≠ ['(', '?']) :
    skipFrom x m (cs ++ w) = some (c :: rest ++ w) := by
  fun_induction skipFrom x m cs with
  | case1 cs ih => exact ih h
  | case2 d ds hno hx ih =>
    have hd : d ≠ '(' := by
      rintro rfl
      rw [Bool.and_eq_true] at hx
      exact absurd hx.2 (by decide)
    rw [List.cons_append, skipFrom_cons x _ hd, if_pos hx]
    exact ih h
  | case3 d ds hno hx hb ih =>
    have hd : d ≠ '(' := by
      rintro rfl
      rw [Bool.and_eq_true] at hb
      exact absurd hb.2 (by decide)
    rw [List.cons_append, skipFrom_cons x _ hd, if_neg hx, if_pos hb]
    exact ih h
  | case4 d ds hno hx hb =>
    cases h
    have hno' : ∀ es, c = '(' → rest ++ w = '?' :: '#' :: es → False := by
      rintro es rfl he
      cases rest with
      | nil =>
        rw [List.nil_append] at he
        exact hparen rfl (by rw [he]; rfl)
      | cons e es' =>
        obtain ⟨rfl, hes⟩ := List.cons.inj he
        cases es' with
        | nil => exact hopen rfl
        | cons f fs =>
          obtain ⟨rfl, -⟩ := List.cons.inj hes
          exact hno fs rfl rfl
    rw [List.cons_append, skipFrom.eq_2 x c (rest ++ w) hno', if_neg hx, if_neg hb]
  | case5 => cases h
  | case6 d ds ih => exact ih h
  | case7 => cases h
  | case8 d ds ih => exact ih h
  | case9 d ds hno ih =>
    cases ds with
    | nil =>
      split at h
      · cases h
      · cases h
    | cons e es =>
      rw [List.cons_append, skipFrom.eq_7 x d (e :: es ++ w) fun f fs he _ => hno e es he rfl]
      exact ih h
  | case10 => cases h

theorem skipFrom_before (h : skipFrom x .nothing cs = some (c :: rest)) (hc : c ≠ '(') :
    skipFrom x .nothing (cs ++ w) = some (c :: rest ++ w) :=
  skipFrom_append_cons h (fun he => absurd (List.cons.inj he).1 hc) fun he => hc (List.cons.inj he).1

theorem skip_eq_ok : skip x cs = .ok rest ↔ skipFrom x .nothing cs = some rest := by
  unfold skip
  cases skipFrom x .nothing cs with
  | none => exact ⟨nofun, nofun⟩
  | some ds => exact ⟨fun h => congrArg some (Except.ok.inj h), fun h => congrArg Except.ok (Option.some.inj h)⟩

theorem skip_append_cons (h : skip x cs = .ok (c :: rest)) (hparen : c :: rest = ['('] → w.head? ≠ some '?')
    (hopen : c :: rest ≠ ['(', '?']) : skip x (cs ++ w) = .ok (c :: rest ++ w) :=
  skip_eq_ok.2 (skipFrom_append_cons (skip_eq_ok.1 h) hparen hopen)

/-! ### Numbers -/

/-- A span that ends within a text does not depend on what follows. -/
theorem span_append_of_cons {p : Char → Bool} {front back : List Char}
    (h : cs.span p = (front, c :: back)) : (cs ++ w).span p = (front, c :: back ++ w) := by
  rw [List.span_eq_takeWhile_dropWhile] at h ⊢
  obtain ⟨hfront, hback⟩ := Prod.mk.inj h
  have hsplit : cs = front ++ c :: back := by
    rw [← hfront, ← hback, List.takeWhile_append_dropWhile]
  have hc : ¬ p c = true := by
    have hhead := List.head?_dropWhile_not p cs
    rw [hback] at hhead
    simpa using hhead
  have hall : ∀ d ∈ front, p d = true := by
    intro d hd
    rw [← hfront] at hd
    exact List.mem_takeWhile_imp hd
  rw [hsplit, List.append_assoc, List.takeWhile_append_of_pos hall, List.dropWhile_append_of_pos hall,
    List.cons_append, List.takeWhile_cons_of_neg hc, List.dropWhile_cons_of_neg hc, List.append_nil]

/-- A span is the same before a text that does not go on with it. -/
theorem span_before {p : Char → Bool} {front back : List Char} (h : cs.span p = (front, back))
    (hw : back = [] → ∀ c ∈ w.head?, p c = false) : (cs ++ w).span p = (front, back ++ w) := by
  cases back with
  | nil => rw [span_append (hw rfl), h]
  | cons c back => exact span_append_of_cons h

/-- A number is the same before any text that does not go on with its digits. -/
theorem number_before (h : number? cs = some (n, rest)) (hw : rest = [] → ∀ c ∈ w.head?, c.isDigit = false) :
    number? (cs ++ w) = some (n, rest ++ w) := by
  unfold number? at h ⊢
  generalize hspan : cs.span Char.isDigit = split at h
  obtain ⟨digits, back⟩ := split
  cases digits with
  | nil => cases h
  | cons e es =>
    have h : (if _ then _ else _) = some (n, rest) := h
    split at h
    · rename_i hle
      cases h
      rw [span_before hspan hw]
      exact if_pos hle
    · cases h

/-! ### Groups that are referred to -/

theorem name_before {close : Char} (h : name? close cs = some (name, rest)) (w : List Char) :
    name? close (cs ++ w) = some (name, rest ++ w) := by
  unfold name? at h ⊢
  generalize hspan : cs.span isNameChar = split at h
  obtain ⟨front, back⟩ := split
  cases front with
  | nil => cases h
  | cons d ds =>
    cases back with
    | nil => cases h
    | cons e es =>
      rw [span_append_of_cons hspan]
      have h : (if e = close then some (d :: ds, es) else none) = some (name, rest) := h
      show (if e = close then some (d :: ds, es ++ w) else none) = _
      split at h
      · rename_i he
        cases h
        rw [if_pos he]
      · cases h

/-- A distance behind which something stands is the same before any text. -/
theorem distance_before {opened i : Nat} (h : distance? opened cs = some (i, d :: rest)) (w : List Char) :
    distance? opened (cs ++ w) = some (i, d :: rest ++ w) := by
  unfold distance? at h
  split at h
  · obtain ⟨⟨k, es⟩, hk, he⟩ := Option.map_eq_some_iff.1 h
    cases he
    exact Option.map_eq_some_iff.2 ⟨_, number_before hk nofun, rfl⟩
  · obtain ⟨⟨k, es⟩, hk, he⟩ := Option.map_eq_some_iff.1 h
    cases he
    exact Option.map_eq_some_iff.2 ⟨_, number_before hk nofun, rfl⟩
  · cases h

/-- A distance begins with a sign, which is not a part of a name. -/
theorem name_of_distance {opened : Nat} {p : Nat × List Char} (h : distance? opened cs = some p) (close : Char)
    (w : List Char) : name? close (cs ++ w) = none := by
  have hsign : ∀ es, (∃ ds, cs = '+' :: ds ∨ cs = '-' :: ds) → name? close (cs ++ es) = none := by
    rintro es ⟨ds, rfl | rfl⟩
    · rfl
    · rfl
  unfold distance? at h
  split at h
  · exact hsign w ⟨_, .inl rfl⟩
  · exact hsign w ⟨_, .inr rfl⟩
  · cases h

theorem closed_groupReference (g : GroupTable) (relative : Bool) (close : Char) :
    Closed (groupReference g relative close) := by
  intro cs i rest h w
  unfold groupReference at h ⊢
  cases hn : name? close cs with
  | some p =>
    rw [hn] at h
    rw [name_before hn w]
    cases hl : g.lookup p.1 with
    | none =>
      simp only [hl] at h
      cases h
    | some j =>
      simp only [hl] at h ⊢
      cases h
      rfl
  | none =>
    rw [hn] at h
    cases relative with
    | false => cases h
    | true =>
      rw [if_pos rfl] at h
      cases hd : distance? g.opened cs with
      | none =>
        rw [hd] at h
        cases h
      | some p =>
        obtain ⟨j, ds⟩ := p
        rw [name_of_distance hd close w, if_pos rfl]
        rw [hd] at h
        cases ds with
        | nil => cases h
        | cons d ds =>
          rw [distance_before hd w]
          have h : (if d = close then Except.ok (j, ds) else _) = _ := h
          show (if d = close then Except.ok (j, ds ++ w) else _) = _
          split at h
          · rename_i he
            cases h
            rw [if_pos he]
          · cases h

theorem closed_namedReference (g : GroupTable) : Closed (namedReference g) := by
  intro cs i rest h w
  unfold namedReference at h
  split at h
  · exact closed_groupReference g true _ _ i rest h w
  · exact closed_groupReference g true _ _ i rest h w
  · cases h

theorem local_distance (opened : Nat) : LocalOption (distance? opened) := by
  intro cs t ht
  fun_cases distance? opened cs with
  | case1 cs =>
    show (number? (cs ++ t)).map _ = _
    rw [local_number cs t ht, Option.map_map, Option.map_map]
    rfl
  | case2 cs =>
    show (number? (cs ++ t)).map _ = _
    rw [local_number cs t ht, Option.map_map, Option.map_map]
    rfl
  | case3 cs hplus hminus =>
    cases cs with
    | nil =>
      rcases isEnd_iff.1 ht with rfl | rfl | rfl
      all_goals rfl
    | cons c cs =>
      unfold distance?
      split
      all_goals simp_all

/-! ### Characters and sets -/

theorem bracedDigits_before (k : Nat) :
    ∀ {m : Nat} {cs digits rest : List Char}, bracedDigits? x k cs = some (digits, rest) → k ≤ m →
      bracedDigits? x m (cs ++ w) = some (digits, rest ++ w) := by
  induction k with
  | zero =>
    intro m cs digits rest h _
    cases h
  | succ k ih =>
    intro m cs digits rest h hle
    obtain ⟨m, rfl⟩ : ∃ j, m = j + 1 := ⟨m - 1, by omega⟩
    unfold bracedDigits? at h ⊢
    split at h
    · rename_i hs
      cases h
      rw [skipFrom_before hs (by decide)]
      rfl
    · rename_i c es hbrace hs
      split at h
      · rename_i hc
        have hparen : c ≠ '(' := by
          rintro rfl
          cases hc
        obtain ⟨p, hp, hmap⟩ := Option.map_eq_some_iff.1 h
        cases hmap
        rw [skipFrom_before hs hparen]
        have hrec := ih hp (Nat.le_of_succ_le_succ hle)
        simp [hc, hrec]
      · cases h
    · cases h

theorem bracedCodePoint_before (h : bracedCodePoint? x cs = some (c, rest)) (w : List Char) :
    bracedCodePoint? x (cs ++ w) = some (c, rest ++ w) := by
  obtain ⟨⟨digits, ds⟩, hds, h⟩ := Option.bind_eq_some_iff.1 h
  have hle : cs.length + 1 ≤ (cs ++ w).length + 1 := by
    rw [List.length_append]
    omega
  refine Option.bind_eq_some_iff.2 ⟨(digits, ds ++ w), bracedDigits_before _ hds hle, ?_⟩
  have h : (if _ then _ else _) = some (c, rest) := h
  show (if _ then _ else _) = some (c, rest ++ w)
  split at h
  · cases h
  · rename_i hlen
    obtain ⟨d, hd, he⟩ := Option.map_eq_some_iff.1 h
    cases he
    rw [if_neg hlen, hd]
    rfl

theorem codePoint_before {count : Nat} (hcount : 0 < count) (h : codePoint? x count cs = some (c, rest))
    (w : List Char) : codePoint? x count (cs ++ w) = some (c, rest ++ w) := by
  obtain ⟨ds, hs, h⟩ := Option.bind_eq_some_iff.1 h
  obtain ⟨count, rfl⟩ := Nat.exists_eq_add_of_lt hcount
  rw [Nat.zero_add] at h ⊢
  split at h
  · rename_i hhex
    obtain ⟨e, he, hpair⟩ := Option.map_eq_some_iff.1 h
    cases hpair
    have hle : count + 1 ≤ ds.length := by
      have hlen := hhex.1
      rw [List.length_take] at hlen
      omega
    cases ds with
    | nil => cases hle
    | cons d ds =>
      have hd : d ≠ '(' := by
        rintro rfl
        cases hhex.2
      refine Option.bind_eq_some_iff.2 ⟨_, skipFrom_before hs hd, ?_⟩
      rw [List.take_append_of_le_length hle, if_pos hhex, he, List.drop_append_of_le_length hle]
      rfl
  · split at h
    · refine Option.bind_eq_some_iff.2 ⟨_, skipFrom_before hs (by decide), ?_⟩
      rw [List.cons_append, if_neg]
      · exact bracedCodePoint_before h w
      · rintro ⟨-, hall⟩
        cases hall
    · cases h

theorem closed_propertyName : Closed propertyName := by
  intro cs name rest h w
  unfold propertyName at h
  split at h
  · rename_i ds
    split at h
    · rename_i d back heq
      cases h
      show propertyName ('\x7B' :: (ds ++ w)) = _
      unfold propertyName
      simp only
      rw [span_append_of_cons heq]
      rfl
    · cases h
  · rename_i hbrace
    cases h
    unfold propertyName
    split
    · rename_i heq
      exact absurd (List.cons.inj heq).1 hbrace
    · rename_i heq
      cases heq
      rfl
    · rename_i heq
      cases heq
  · cases h

theorem closed_propertySet (fold negated : Bool) : Closed (propertySet fold negated) := by
  intro cs s rest h w
  obtain ⟨⟨name, ds⟩, hname, h⟩ := bind_eq_ok.1 h
  refine bind_eq_ok.2 ⟨(name, ds ++ w), closed_propertyName cs name ds hname w, ?_⟩
  cases hs : CharSet.named? name with
  | none =>
    simp only [hs] at h
    cases h
  | some set =>
    simp only [hs] at h ⊢
    cases h
    rfl

/-! ### Boundaries -/

/-- Is it the boundary of a word, or a place that is none? A brace behind it may name another boundary. -/
def Expr.isWordBoundary : Expr → Bool
  | .assertion .wordBoundary | .assertion .notWordBoundary => true
  | _ => false

/-- What follows a boundary does not go on with the braces behind it. -/
structure Unbraced (rest w : List Char) : Prop where
  head_ne : rest = [] → w.head? ≠ some '\x7B'
  name_ne : rest = ['\x7B'] → ∀ c ∈ w.head?, isBoundaryChar c = false

theorem not_isBoundaryChar_end (ht : IsEnd t) : ∀ c ∈ t.head?, isBoundaryChar c = false := by
  intro c hc
  rcases ht.head c hc with rfl | rfl
  · rfl
  · rfl

theorem IsEnd.unbraced (ht : IsEnd t) (rest : List Char) : Unbraced rest t := by
  refine ⟨?_, fun _ => not_isBoundaryChar_end ht⟩
  rintro - hbrace
  rcases ht.head _ hbrace with he | he
  · cases he
  · cases he

/-- A boundary is the same before any text that does not continue the braces behind it. -/
theorem boundary_before {a : Assertion} (h : boundary cs = .ok (a, rest))
    (hbrace : (Expr.assertion a).isWordBoundary = true → Unbraced rest w) :
    boundary (cs ++ w) = .ok (a, rest ++ w) := by
  unfold boundary at h
  split at h
  · rename_i ds
    show boundary ('\x7B' :: (ds ++ w)) = _
    unfold boundary
    simp only
    split at h
    · rename_i back hspan
      cases h
      have hends : back = [] → ∀ c ∈ w.head?, isBoundaryChar c = false := by
        rintro rfl
        rw [List.span_eq_takeWhile_dropWhile] at hspan
        obtain ⟨hfront, hback⟩ := Prod.mk.inj hspan
        have hds : ds = [] := by
          rw [← List.takeWhile_append_dropWhile (p := isBoundaryChar) (l := ds), hfront, hback]
          rfl
        exact (hbrace rfl).name_ne (by rw [hds])
      rw [span_before hspan hends]
      rfl
    · rename_i name back hne hspan
      rw [span_append_of_cons hspan]
      split at h
      · rename_i b hb
        cases h
        cases name with
        | nil => exact absurd rfl hne
        | cons e es => simp [hb]
      · cases h
    · cases h
  · rename_i hno
    cases h
    unfold boundary
    split
    · rename_i ds he
      cases cs with
      | nil =>
        rw [List.nil_append] at he
        exact absurd (congrArg List.head? he) ((hbrace rfl).head_ne rfl)
      | cons c cs => exact absurd (congrArg (· :: cs) (List.cons.inj he).1) (hno cs)
    · rfl

/-! ### Escapes -/

/-- What an escape that begins with `c` reads behind it. -/
inductive EscapeForm (inClass : Bool) (c : Char)
  | number
  | named
  | boundary (h : inClass = false)
  | notBoundary (h : inClass = false)
  | codePoint (count : Nat) (h : 0 < count)
  | property (negated : Bool)
  | expr (e : Expr) (h : exprEscape? c = some e)
  | set (s : CharSet)
  | hexDigits (negated : Bool)
  | char (d : Char)
  | unknown

/-- The escape of the form. -/
def EscapeForm.read (flags : Flags) (g : GroupTable) (cs : List Char) :
    EscapeForm inClass c → Except Fault (Escaped × List Char)
  | number =>
    match number? (c :: cs) with
    | some (i, rest) => .ok (.reference i true, rest)
    | none => .error .badReference
  | named => do
    let (i, rest) ← namedReference g cs
    return (.reference i false, rest)
  | boundary _ => do
    let (a, rest) ← Regex.boundary cs
    return (.other (.assertion a), rest)
  | notBoundary _ =>
    if cs.head? = some '\x7B' then .error .badEscape else .ok (.other (.assertion .notWordBoundary), cs)
  | codePoint count _ =>
    match codePoint? flags.extended count cs with
    | some (d, rest) => .ok (.char d flags.fold, rest)
    | none => .error .badEscape
  | property negated => do
    let (s, rest) ← propertySet flags.fold negated cs
    return (.set s, rest)
  | expr e _ => .ok (.other e, cs)
  | set s => .ok (.set s, cs)
  | hexDigits negated => .ok (.hexDigits negated, cs)
  | char d => .ok (.char d false, cs)
  | unknown => .error .badEscape

/-- **The first character of an escape decides its form.** -/
theorem exists_escapeForm (flags : Flags) (g : GroupTable) (inClass : Bool) (c : Char) :
    ∃ form : EscapeForm inClass c, ∀ cs, escape flags g inClass (c :: cs) = form.read flags g cs := by
  simp only [escape]
  split
  · exact ⟨.number, fun _ => rfl⟩
  split
  · exact ⟨.named, fun _ => rfl⟩
  split
  · rename_i hb
    exact ⟨.boundary (by simpa using (Bool.and_eq_true_iff.1 hb).2), fun _ => rfl⟩
  by_cases hB : (c = 'B' && !inClass) = true
  · obtain ⟨hc, hclass⟩ := Bool.and_eq_true_iff.1 hB
    obtain rfl := of_decide_eq_true hc
    obtain rfl : inClass = false := by simpa using hclass
    exact ⟨.notBoundary rfl, fun cs => if_congr (by simp) rfl rfl⟩
  simp only [eq_false_of_ne_true hB, Bool.false_and, Bool.false_eq_true, if_false]
  cases hother : (if inClass then none else exprEscape? c) with
  | some e =>
    refine ⟨.expr e ?_, fun _ => rfl⟩
    split at hother
    · cases hother
    · exact hother
  | none =>
    cases setEscape? c with
    | some s => exact ⟨.set s, fun _ => rfl⟩
    | none =>
      dsimp only
      split
      · exact ⟨.hexDigits _, fun _ => rfl⟩
      split
      · refine ⟨.codePoint (if c = 'x' then 2 else if c = 'u' then 4 else 8) ?_, fun _ => rfl⟩
        split
        · decide
        · split <;> decide
      split
      · exact ⟨.property _, fun _ => rfl⟩
      cases controlEscape? c with
      | some d => exact ⟨.char d, fun _ => rfl⟩
      | none =>
        dsimp only
        split
        · exact ⟨.unknown, fun _ => rfl⟩
        · exact ⟨.char c, fun _ => rfl⟩

/-- **An escape is the same before any text** that does not go on with its number or with its braces. -/
theorem escape_before {inClass : Bool} {e : Escaped} (h : escape flags g inClass cs = .ok (e, rest))
    (hnumber : ∀ i, e = .reference i true → rest = [] → ∀ c ∈ w.head?, c.isDigit = false)
    (hbrace : ∀ a, inClass = false → e = .other a → a.isWordBoundary = true → Unbraced rest w) :
    escape flags g inClass (cs ++ w) = .ok (e, rest ++ w) := by
  cases cs with
  | nil => cases h
  | cons c cs =>
    obtain ⟨form, hform⟩ := exists_escapeForm flags g inClass c
    rw [hform] at h
    rw [List.cons_append, hform]
    unfold EscapeForm.read at h ⊢
    cases form with
    | number =>
      dsimp only at h ⊢
      split at h
      · rename_i i ds hi
        cases h
        rw [← List.cons_append, number_before hi (hnumber i rfl)]
      · cases h
    | named =>
      obtain ⟨⟨i, ds⟩, hi, h⟩ := bind_eq_ok.1 h
      cases h
      exact bind_eq_ok.2 ⟨_, closed_namedReference g cs i rest hi w, rfl⟩
    | boundary hclass =>
      obtain ⟨⟨a, ds⟩, ha, h⟩ := bind_eq_ok.1 h
      cases h
      exact bind_eq_ok.2 ⟨_, boundary_before ha (hbrace _ hclass rfl), rfl⟩
    | notBoundary hclass =>
      dsimp only at h ⊢
      split at h
      · cases h
      · rename_i hhead
        cases h
        refine if_neg ?_
        cases rest with
        | nil => exact (hbrace _ hclass rfl rfl).head_ne rfl
        | cons d ds => exact hhead
    | codePoint count hcount =>
      dsimp only at h ⊢
      split at h
      · rename_i hpoint
        cases h
        rw [codePoint_before hcount hpoint w]
      · cases h
    | property negated =>
      obtain ⟨⟨s, ds⟩, hs, h⟩ := bind_eq_ok.1 h
      cases h
      exact bind_eq_ok.2 ⟨_, closed_propertySet _ _ cs s rest hs w, rfl⟩
    | expr e he =>
      cases h
      rfl
    | set s =>
      cases h
      rfl
    | hexDigits negated =>
      cases h
      rfl
    | char d =>
      cases h
      rfl
    | unknown => cases h

/-- What closes a group is neither a digit nor a brace. -/
theorem local_escape (flags : Flags) (g : GroupTable) (inClass : Bool) : Local (escape flags g inClass) :=
  fun _ _ rest h _ ht => escape_before h (fun _ _ _ => not_isDigit_end ht) fun _ _ _ _ => ht.unbraced rest

/-! ### Classes -/

/-- A reference has no place in a class. -/
theorem ne_reference_of_escaped {e : Escaped} {tokens : List ClassToken} (h : ClassToken.ofEscaped e = .ok tokens)
    (i : Nat) : e ≠ .reference i true := by
  rintro rfl
  cases h

theorem classTokensFrom_before (k : Nat) :
    ∀ {m nest : Nat} {cs rest : List Char} {tokens : List ClassToken},
      classTokensFrom flags g k nest cs = .ok (tokens, rest) → k ≤ m →
      classTokensFrom flags g m nest (cs ++ w) = .ok (tokens, rest ++ w) := by
  induction k with
  | zero =>
    intro m nest cs rest tokens h _
    cases h
  | succ k ih =>
    intro m nest cs rest tokens h hle
    obtain ⟨m, rfl⟩ : ∃ j, m = j + 1 := ⟨m - 1, by omega⟩
    have hle := Nat.le_of_succ_le_succ hle
    cases cs with
    | nil => cases h
    | cons c cs =>
      by_cases hc : c = '\\'
      · rw [hc] at h ⊢
        obtain ⟨⟨escaped, ds⟩, hescape, h⟩ := bind_eq_ok.1 h
        obtain ⟨first, hfirst, h⟩ := bind_eq_ok.1 h
        obtain ⟨⟨more, es⟩, hmore, h⟩ := bind_eq_ok.1 h
        cases h
        have hescape' := escape_before (w := w) hescape
          (fun i he => absurd he (ne_reference_of_escaped hfirst i)) nofun
        exact bind_eq_ok.2 ⟨_, hescape', bind_eq_ok.2 ⟨first, hfirst, bind_eq_ok.2 ⟨_, ih hmore hle, rfl⟩⟩⟩
      · rw [classTokensFrom.eq_4 _ _ _ _ _ _ hc] at h
        rw [List.cons_append, classTokensFrom.eq_4 _ _ _ _ _ _ hc]
        split at h
        · rename_i hclose
          cases h
          rw [if_pos hclose]
        · rename_i hclose
          rw [if_neg hclose]
          obtain ⟨⟨more, es⟩, hmore, h⟩ := bind_eq_ok.1 h
          cases h
          exact bind_eq_ok.2 ⟨_, ih hmore hle, rfl⟩

theorem optionalPlain_before (hcs : (optionalPlain c cs).2 ≠ []) (w : List Char) :
    optionalPlain c (cs ++ w) = ((optionalPlain c cs).1, (optionalPlain c cs).2 ++ w) := by
  unfold optionalPlain at hcs ⊢
  cases cs with
  | nil => exact absurd rfl hcs
  | cons d cs =>
    show (if some d = some c then _ else _) = _
    split
    · rename_i h
      rw [if_pos (show (d :: cs).head? = some c from h)]
      rfl
    · rename_i h
      rw [if_neg (show ¬ (d :: cs).head? = some c from h)]

theorem ne_nil_of_classTokensFrom {k nest : Nat} {tokens : List ClassToken}
    (h : classTokensFrom flags g k nest cs = .ok (tokens, rest)) : cs ≠ [] := by
  rintro rfl
  cases k with
  | zero => cases h
  | succ k => cases h

/-- **A class ends with its closing bracket.** -/
theorem closed_classTokens (flags : Flags) (g : GroupTable) : Closed (classTokens flags g) := by
  intro cs tokens rest h w
  unfold classTokens at h ⊢
  obtain ⟨⟨more, es⟩, hmore, h⟩ := bind_eq_ok.1 h
  cases h
  have hbracket : (optionalPlain ']' (optionalPlain '^' cs).2).2 ≠ [] := ne_nil_of_classTokensFrom hmore
  have hhat : (optionalPlain '^' cs).2 ≠ [] := by
    intro hnil
    rw [hnil] at hbracket
    exact hbracket rfl
  rw [optionalPlain_before hhat w]
  simp only
  rw [optionalPlain_before hbracket w]
  refine bind_eq_ok.2 ⟨(more, rest ++ w), classTokensFrom_before _ hmore ?_, rfl⟩
  exact Nat.succ_le_succ (List.sublist_append_left _ w).length_le

end Listfile.Regex
