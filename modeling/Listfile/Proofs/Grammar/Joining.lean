import Listfile.Proofs.Grammar.Resolving

/-!
# Placeholders that values make up

Values are put in the place of placeholders once, from left to right, and what results is not looked at again.
So braces of a value may make up a placeholder with what stands beside the value.

* `Joins`: a placeholder arises at an edge of a value.
* **`mentions_flatMap_iff`**: values without placeholders make up none in any other way.
* **`plain_iff_not_joins`**: nothing is left to expand exactly if no placeholder arises so.
* `not_forall_plain_of_expand`: one may arise.
-/

namespace Listfile.Grammar

/-- A placeholder for the variable arises at an edge of a value that is put in: it begins before the edge and
ends behind it. -/
def Joins (values : List Char → List Char) (text name : List Char) : Prop :=
  IsVariableName name ∧ ∃ front back : List Piece, pieces text = front ++ back ∧
    ((∃ used, front.getLast? = some (.var used)) ∨ ∃ used, back.head? = some (.var used)) ∧
    ∃ begun rest, begun ≠ [] ∧ rest ≠ [] ∧ placeholderFor name = begun ++ rest ∧
      begun <:+ front.flatMap (Piece.textWith values) ∧ rest <+: back.flatMap (Piece.textWith values)

section
variable {values : List Char → List Char} {text name : List Char}

theorem plain_of_pieces (h : pieces text = text.map .char) : Plain text := by
  intro name hname
  rw [h] at hname
  obtain ⟨c, -, hc⟩ := List.mem_map.1 hname
  cases hc

instance : DecidablePred Plain := fun _ => decidable_of_iff _ ⟨plain_of_pieces, pieces_of_plain⟩

theorem plain_iff : Plain text ↔ ∀ name, ¬Mentions text name := by
  simp only [Plain, mem_pieces_iff]

/-- What stands in a text that is made up of parts begins in one of them. -/
theorem exists_of_flatMap_eq {α β : Type} {f : α → List β} {as : List α} {before after : List β} {b : β}
    (h : as.flatMap f = before ++ b :: after) :
    ∃ front a back inside rest, as = front ++ a :: back ∧ f a = inside ++ b :: rest ∧
      after = rest ++ back.flatMap f := by
  induction as generalizing before with
  | nil =>
    have hnil := congrArg List.length h
    simp at hnil
  | cons a as ih =>
    have hlater : ∀ before, as.flatMap f = before ++ b :: after →
        ∃ front a' back inside rest, a :: as = front ++ a' :: back ∧ f a' = inside ++ b :: rest ∧
          after = rest ++ back.flatMap f := by
      intro before h
      obtain ⟨front, a', back, inside, rest, rfl, hpart, hafter⟩ := ih h
      exact ⟨a :: front, a', back, inside, rest, rfl, hpart, hafter⟩
    rw [List.flatMap_cons] at h
    rcases List.append_eq_append_iff.1 h with ⟨between, -, hbetween⟩ | ⟨between, hfa, hbetween⟩
    · exact hlater between hbetween
    · cases between with
      | nil => exact hlater [] hbetween.symm
      | cons c between =>
        obtain ⟨rfl, rfl⟩ := List.cons_eq_cons.1 hbetween
        exact ⟨[], a, as, before, between, rfl, hfa, rfl⟩

/-- A placeholder that begins with characters of the text arises at the edge of the next value. -/
theorem joins_of_chars (hname : IsVariableName name) {front back : List Piece} {begun rest : List Char}
    (hpieces : pieces text = front ++ (begun.map .char ++ back)) (hbegun : begun ≠ [])
    (hsplit : placeholderFor name = begun ++ rest) (hrest : rest <+: back.flatMap (Piece.textWith values)) :
    Joins values text name := by
  induction back generalizing begun rest with
  | nil =>
    obtain rfl := List.prefix_nil.1 hrest
    rw [List.append_nil] at hsplit
    exact absurd (hsplit ▸ List.infix_refl _) (not_infix_of_pieces hpieces hname)
  | cons piece back ih =>
    cases rest with
    | nil =>
      rw [List.append_nil] at hsplit
      exact absurd (hsplit ▸ List.infix_refl _) (not_infix_of_pieces hpieces hname)
    | cons c rest =>
      cases piece with
      | char d =>
        obtain ⟨rfl, htail⟩ := List.cons_prefix_cons.1 hrest
        have hpieces' : pieces text = front ++ ((begun ++ [c]).map .char ++ back) := by
          rw [hpieces]
          simp
        have hsplit' : placeholderFor name = (begun ++ [c]) ++ rest := by
          rw [hsplit]
          simp
        exact ih hpieces' (by simp) hsplit' htail
      | var used =>
        refine ⟨hname, front ++ begun.map .char, .var used :: back, ?_, .inr ⟨used, rfl⟩, begun, c :: rest, hbegun,
          List.cons_ne_nil _ _, hsplit, ?_, hrest⟩
        · rw [hpieces, List.append_assoc]
        · have hchars : (begun.map Piece.char).flatMap (Piece.textWith values) = begun := by
            rw [List.flatMap_map]
            exact List.flatMap_singleton' _
          rw [List.flatMap_append, hchars]
          exact List.suffix_append _ _

/-- **Values without placeholders make up one only at their edges.** -/
theorem mentions_flatMap_iff (hvalues : ∀ used, Piece.var used ∈ pieces text → Plain (values used)) :
    Mentions ((pieces text).flatMap (Piece.textWith values)) name ↔ Joins values text name := by
  constructor
  · rintro ⟨hname, before, after, h⟩
    rw [List.append_assoc] at h
    obtain ⟨front, piece, back, inside, rest, hpieces, hpart, hafter⟩ := exists_of_flatMap_eq h.symm
    cases piece with
    | char c =>
      cases inside with
      | nil =>
        obtain ⟨rfl, rfl⟩ := List.cons_eq_cons.1 hpart
        have hbegun : pieces text = front ++ (['\x7B'].map .char ++ back) := hpieces
        exact joins_of_chars hname hbegun (List.cons_ne_nil _ _) rfl ⟨after, hafter⟩
      | cons d inside =>
        have hnil := congrArg List.length hpart
        simp [Piece.textWith] at hnil
    | var used =>
      have hplain := plain_iff.1 (hvalues used (by rw [hpieces]; simp)) name
      have hinside : ∀ more, rest = '\x7B' :: (name ++ ['\x7D', '\x7D']) ++ more → Joins values text name := by
        rintro more rfl
        exact absurd ⟨hname, inside, more, by rw [List.append_assoc]; exact hpart.symm⟩ hplain
      rcases List.append_eq_append_iff.1 hafter with ⟨more, hrest, -⟩ | ⟨more, hsplit, hback⟩
      · exact hinside more hrest
      · cases more with
        | nil => exact hinside [] (by rw [hsplit, List.append_nil, List.append_nil])
        | cons c more =>
          refine ⟨hname, front ++ [.var used], back, ?_, .inl ⟨used, List.getLast?_concat⟩, '\x7B' :: rest, c :: more,
            List.cons_ne_nil _ _, List.cons_ne_nil _ _, congrArg (List.cons _) hsplit, ?_, ⟨after, hback.symm⟩⟩
          · rw [hpieces, List.append_assoc]
            rfl
          · rw [List.flatMap_append, List.flatMap_singleton]
            exact List.suffix_append_of_suffix ⟨inside, hpart.symm⟩
  · rintro ⟨hname, front, back, hpieces, -, begun, rest, -, -, hsplit, ⟨before, hbefore⟩, after, hafter⟩
    refine ⟨hname, before, after, ?_⟩
    rw [hpieces, List.flatMap_append, ← hbefore, ← hafter, hsplit]
    simp only [List.append_assoc]

end

namespace Variables

variable {table : List (String × String)} {vs : Variables}

/-- A pattern that is accepted becomes the text with the values of its variables. -/
theorem eq_of_expand {usedIn pattern : String} {out : List Char} (h : vs.expand usedIn pattern = .ok out) :
    out = (pieces pattern.toList).flatMap (Piece.textWith vs.valueFor) := by
  have hknown : ∀ used, Piece.var used ∈ pieces pattern.toList →
      vs.get? (String.ofList used) = some (vs.valueFor used) := by
    obtain ⟨parts, hparts, -⟩ := bind_eq_ok.1 h
    intro used hused
    obtain ⟨part, hpart⟩ := exists_of_mapM hparts _ hused
    cases hvalue : vs.get? (String.ofList used) with
    | some value =>
      rw [valueFor, hvalue]
      rfl
    | none =>
      dsimp only at hpart
      rw [hvalue] at hpart
      cases hpart
  exact Except.ok.inj (h.symm.trans (expand_eq hknown usedIn))

/-- Where the values of variables hold no placeholders, a text into which they are put holds none exactly if none
arises in it. -/
theorem plain_flatMap_iff (h : ∀ name value, vs.get? name = some value → Plain value) (text : List Char) :
    Plain ((pieces text).flatMap (Piece.textWith vs.valueFor)) ↔ ∀ other, ¬Joins vs.valueFor text other := by
  have hplain : ∀ used, Plain (vs.valueFor used) := by
    intro used
    unfold valueFor
    cases hvalue : vs.get? (String.ofList used) with
    | some value => exact h _ value hvalue
    | none => exact fun name => List.not_mem_nil
  rw [plain_iff]
  exact forall_congr' fun other => not_congr (mentions_flatMap_iff fun used _ => hplain used)

/-- Values hold no placeholders exactly if none arises where they are put into the bodies of a table. -/
theorem plain_values_iff (h : resolve table = .ok vs) :
    (∀ name value, vs.get? name = some value → Plain value) ↔
      ∀ name body, table.lookup name = some body → ∀ other, ¬Joins vs.valueFor body.toList other := by
  constructor
  · intro hplain name body hbody other hjoins
    have hvalue := resolves_of_resolve h name
    rw [hbody] at hvalue
    exact (plain_flatMap_iff hplain body.toList).1 (hplain name _ hvalue) other hjoins
  · intro hjoins name value hvalue
    induction (get?_eq_some_iff h).1 hvalue with
    | @ofBody name body values hbody hvalues ih =>
      have hused : ∀ used, Piece.var used ∈ pieces body.toList → vs.valueFor used = values used := by
        intro used hused
        rw [valueFor, (get?_eq_some_iff h).2 (hvalues used hused)]
        rfl
      rw [← flatMap_textWith_congr hused, plain_iff]
      intro other hmentions
      refine hjoins name body hbody other ((mentions_flatMap_iff fun used hmem => ?_).1 hmentions)
      rw [hused used hmem]
      exact ih used hmem ((get?_eq_some_iff h).2 (hvalues used hmem))

/-- **Nothing is left to expand**, neither in the values of a table nor in a pattern, exactly if no placeholder
arises at the edge of a value that is put into a body of the table or into the pattern.  To expand such a
pattern again changes nothing. -/
theorem plain_iff_not_joins {usedIn pattern : String} {out : List Char} (h : resolve table = .ok vs)
    (hexpand : vs.expand usedIn pattern = .ok out) :
    ((∀ name value, vs.get? name = some value → ∀ other, ¬Mentions value other) ∧ (∀ other, ¬Mentions out other) ↔
      (∀ name body, table.lookup name = some body → ∀ other, ¬Joins vs.valueFor body.toList other) ∧
        ∀ other, ¬Joins vs.valueFor pattern.toList other) ∧
      ((∀ other, ¬Mentions out other) → ∀ usedIn', vs.expand usedIn' (String.ofList out) = .ok out) := by
  simp only [← plain_iff]
  constructor
  · rw [← plain_values_iff h, eq_of_expand hexpand]
    exact and_congr_right fun hplain => plain_flatMap_iff hplain _
  · intro hout usedIn'
    have hplain : Plain (String.ofList out).toList := by rwa [String.toList_ofList]
    have hagain := expand_of_plain hplain vs usedIn'
    rwa [String.toList_ofList] at hagain

/-- A number of digits between bounds: placeholders between braces, which make up no further one. -/
def bounded : List (String × String) :=
  [("digits", "[0-9]\x7B\x7B\x7Bleast\x7D\x7D,\x7B\x7Bmost\x7D\x7D\x7D"), ("least", "2"), ("most", "3")]

theorem plain_iff_not_joins_bounded : ∃ vs out, resolve bounded = .ok vs ∧
    vs.expand "main" "\\\x7B\x7B\x7Bdigits\x7D\x7D\x7D" = .ok out ∧ (∀ other, ¬Mentions out other) ∧
    (∀ name body, bounded.lookup name = some body → ∀ other, ¬Joins vs.valueFor body.toList other) ∧
    (∀ other, ¬Joins vs.valueFor "\\\x7B\x7B\x7Bdigits\x7D\x7D\x7D".toList other) ∧
    ∀ usedIn, vs.expand usedIn (String.ofList out) = .ok out := by
  have hchecked : (resolve bounded >>= fun vs =>
      (vs.expand "main" "\\\x7B\x7B\x7Bdigits\x7D\x7D\x7D").map fun out => (vs.values, out))
        = .ok ([("digits", "[0-9]\x7B2,3\x7D".toList), ("least", ['2']), ("most", ['3'])],
          "\\\x7B[0-9]\x7B2,3\x7D\x7D".toList) := by
    decide +kernel
  obtain ⟨vs, h, hrest⟩ := bind_eq_ok.1 hchecked
  obtain ⟨out, hexpand, hfound⟩ := map_eq_ok.1 hrest
  obtain ⟨hvalues, rfl⟩ := Prod.mk.inj hfound
  obtain ⟨hiff, hagain⟩ := plain_iff_not_joins h hexpand
  have hall : ∀ v ∈ vs.values, Plain v.2 := by
    rw [hvalues]
    decide +kernel
  have hout : Plain "\\\x7B[0-9]\x7B2,3\x7D\x7D".toList := by decide +kernel
  obtain ⟨hbodies, hpattern⟩ := hiff.1
    ⟨fun name value hvalue => plain_iff.1 (hall _ (Compiler.mem_of_lookup hvalue)), plain_iff.1 hout⟩
  exact ⟨vs, _, h, hexpand, plain_iff.1 hout, hbodies, hpattern, hagain (plain_iff.1 hout)⟩

/-- Braces of a pattern make up a placeholder with a value between them. -/
theorem not_forall_plain_of_expand :
    ¬∀ (table : List (String × String)) (vs : Variables) (usedIn pattern : String) (out : List Char),
      resolve table = .ok vs → vs.expand usedIn pattern = .ok out → ∀ other, ¬Mentions out other := by
  intro hall
  have hchecked : (resolve [("n", "x")] >>= fun vs =>
      vs.expand "main" "\x7B\x7B\x7B\x7Bn\x7D\x7D\x7D\x7D") = .ok (placeholderFor ['x']) := by
    decide +kernel
  obtain ⟨vs, h, hexpand⟩ := bind_eq_ok.1 hchecked
  exact hall _ vs _ _ _ h hexpand ['x'] ⟨⟨List.cons_ne_nil _ _, List.forall_mem_singleton.2 rfl⟩, List.infix_refl _⟩

end Variables

end Listfile.Grammar
