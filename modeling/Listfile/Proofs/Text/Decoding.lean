import Listfile.Text.Utf8
import Mathlib.Tactic.Common

/-!
# Text to bytes and back

* `encodeUtf8_eq`: a text is encoded character by character.
* `decodeFront_utf8EncodeChar`: the bytes of a character are read as that character.
* `utf8EncodeChar_of_decodeFront`: bytes that are read as a character are the bytes of that character.
* **`decodeUtf8?_eq_some_iff`**: bytes stand for a text if and only if they are its bytes.
-/

namespace Listfile

/-! ### The bytes of a text -/

theorem toList_loop_eq (bytes : ByteArray) (i : Nat) (read : List UInt8) :
    ByteArray.toList.loop bytes i read = read.reverse ++ bytes.data.toList.drop i := by
  fun_induction ByteArray.toList.loop bytes i read with
  | case1 i read hlt ih =>
    have hlength : i < bytes.data.toList.length := by simpa using hlt
    have hget : bytes.get! i = bytes.data.toList[i] := by
      show bytes.data[i]! = _
      rw [getElem!_pos bytes.data i (by simpa using hlt), Array.getElem_toList]
    rw [ih, List.drop_eq_getElem_cons hlength, hget, List.reverse_cons, List.append_assoc]
    rfl
  | case2 i read hge =>
    rw [List.drop_eq_nil_of_le (by simpa using Nat.le_of_not_lt hge), List.append_nil]

/-- A text is encoded character by character. -/
theorem encodeUtf8_eq (text : List Char) : encodeUtf8 text = text.flatMap String.utf8EncodeChar := by
  rw [encodeUtf8, String.toUTF8_eq_toByteArray, String.toByteArray_ofList, List.utf8Encode, ByteArray.toList,
    toList_loop_eq, List.toList_data_toByteArray]
  rfl

theorem encodeUtf8_cons (c : Char) (text : List Char) :
    encodeUtf8 (c :: text) = String.utf8EncodeChar c ++ encodeUtf8 text := by
  rw [encodeUtf8_eq, encodeUtf8_eq, List.flatMap_cons]

/-! ### Bytes that belong together -/

theorem secondByte?_two : ∀ x < 32, 2 ≤ x → secondByte? (x + 192) = some (128, 191, 2) := by decide

theorem secondByte?_three : ∀ x < 16, secondByte? (x + 224)
    = some (if x = 0 then 160 else 128, if x = 13 then 159 else 191, 3) := by decide

theorem secondByte?_four : ∀ x < 5, secondByte? (x + 240)
    = some (if x = 0 then 144 else 128, if x = 4 then 143 else 191, 4) := by decide

/-- What may follow the first byte of two, of three and of four. -/
theorem secondByte?_cases {first low high length : Nat} (h : secondByte? first = some (low, high, length)) :
    (∃ x, 2 ≤ x ∧ x < 32 ∧ first = x + 192 ∧ (low, high, length) = (128, 191, 2)) ∨
      (∃ x < 16, first = x + 224 ∧
        (low, high, length) = (if x = 0 then 160 else 128, if x = 13 then 159 else 191, 3)) ∨
      ∃ x < 5, first = x + 240 ∧
        (low, high, length) = (if x = 0 then 144 else 128, if x = 4 then 143 else 191, 4) := by
  have hrange : 194 ≤ first ∧ first ≤ 244 := by
    by_contra hout
    have hnone : secondByte? first = none := by
      unfold secondByte?
      repeat rw [if_neg (by omega)]
    rw [hnone] at h
    cases h
  rcases Nat.lt_or_ge first 224 with htwo | hge
  · refine .inl ⟨first - 192, by omega, by omega, by omega, ?_⟩
    have hsecond := secondByte?_two (first - 192) (by omega) (by omega)
    rw [Nat.sub_add_cancel (by omega), h] at hsecond
    exact Option.some.inj hsecond
  · rcases Nat.lt_or_ge first 240 with hthree | hfour
    · refine .inr (.inl ⟨first - 224, by omega, by omega, ?_⟩)
      have hsecond := secondByte?_three (first - 224) (by omega)
      rw [Nat.sub_add_cancel hge, h] at hsecond
      exact Option.some.inj hsecond
    · refine .inr (.inr ⟨first - 240, by omega, by omega, ?_⟩)
      have hsecond := secondByte?_four (first - 240) (by omega)
      rw [Nat.sub_add_cancel hfour, h] at hsecond
      exact Option.some.inj hsecond

/-- The bytes behind the first all belong to it if the second lies in its range and the others are bytes that go
on. -/
theorem followers_eq_iff {low high n : Nat} {bs : List UInt8} :
    followers low high (n + 1) bs = n + 1 ↔ ∃ b rest, bs = b :: rest ∧ low ≤ b.toNat ∧ b.toNat ≤ high ∧
      followers 128 191 n rest = n := by
  cases bs with
  | nil => simp [followers]
  | cons b rest =>
    rw [followers]
    split
    · rename_i hb
      simp [hb]
    · rename_i hb
      constructor
      · intro h
        cases h
      · rintro ⟨b', rest', heq, hlow, hhigh, -⟩
        cases heq
        exact absurd ⟨hlow, hhigh⟩ hb

/-- What a byte that begins a longer sequence and the bytes behind it are read as. -/
theorem decodeFront_of_followers {b : UInt8} {bs : List UInt8} {low high length : Nat}
    (hsecond : secondByte? b.toNat = some (low, high, length))
    (hall : followers low high (length - 1) bs = length - 1) :
    decodeFront b bs = (some (Char.ofNat ((bs.take (length - 1)).foldl (fun v c => v * 64 + c.toNat % 64)
      (b.toNat % (if length = 2 then 32 else if length = 3 then 16 else 8)))), length - 1) := by
  have hb : ¬b.toNat < 128 := by
    rcases secondByte?_cases hsecond with ⟨x, -, -, hx, -⟩ | ⟨x, -, hx, -⟩ | ⟨x, -, hx, -⟩ <;> omega
  rw [decodeFront, if_neg hb, hsecond]
  dsimp only
  rw [hall, if_pos rfl]

/-! ### Characters -/

/-- The bytes of a character are read as that character. -/
theorem decodeFront_utf8EncodeChar (c : Char) (rest : List UInt8) :
    ∃ b more, String.utf8EncodeChar c = b :: more ∧ decodeFront b (more ++ rest) = (some c, more.length) := by
  have hvalid : c.val.toNat < 55296 ∨ 57343 < c.val.toNat ∧ c.val.toNat < 1114112 := c.valid
  have hc : Char.ofNat c.val.toNat = c := Char.ofNat_toNat c
  rw [String.utf8EncodeChar]
  generalize c.val.toNat = v at hvalid hc ⊢
  have hbyte : ∀ n < 256, (UInt8.ofNat n).toNat = n := fun n hn => UInt8.toNat_ofNat_of_lt' hn
  have hlast := hbyte (v % 64 + 128) (by omega)
  have hmiddle := hbyte (v / 64 % 64 + 128) (by omega)
  have hone : followers 128 191 1 (UInt8.ofNat (v % 64 + 128) :: rest) = 1 :=
    followers_eq_iff.2 ⟨_, _, rfl, by omega, by omega, rfl⟩
  split
  · refine ⟨_, [], rfl, ?_⟩
    rw [decodeFront, hbyte v (by omega), if_pos (by omega), hc]
    rfl
  split
  · have hfirst := hbyte (v / 64 % 32 + 192) (by omega)
    have hsecond := secondByte?_two (v / 64 % 32) (by omega) (by omega)
    rw [← hfirst] at hsecond
    refine ⟨_, [_], rfl, (decodeFront_of_followers hsecond hone).trans ?_⟩
    show (some (Char.ofNat ((UInt8.ofNat (v / 64 % 32 + 192)).toNat % 32 * 64
      + (UInt8.ofNat (v % 64 + 128)).toNat % 64)), 1) = _
    rw [hfirst, hlast, show (v / 64 % 32 + 192) % 32 * 64 + (v % 64 + 128) % 64 = v by omega, hc]
    rfl
  split
  · have hfirst := hbyte (v / 4096 % 16 + 224) (by omega)
    have hsecond := secondByte?_three (v / 4096 % 16) (by omega)
    rw [← hfirst] at hsecond
    have hlow : (if v / 4096 % 16 = 0 then 160 else 128) ≤ v / 64 % 64 + 128 := by split <;> omega
    have hhigh : v / 64 % 64 + 128 ≤ (if v / 4096 % 16 = 13 then 159 else 191) := by split <;> omega
    rw [← hmiddle] at hlow hhigh
    have hall := followers_eq_iff.2 ⟨_, _, rfl, hlow, hhigh, hone⟩
    refine ⟨_, [_, _], rfl, (decodeFront_of_followers hsecond hall).trans ?_⟩
    show (some (Char.ofNat (((UInt8.ofNat (v / 4096 % 16 + 224)).toNat % 16 * 64
      + (UInt8.ofNat (v / 64 % 64 + 128)).toNat % 64) * 64
      + (UInt8.ofNat (v % 64 + 128)).toNat % 64)), 2) = _
    rw [hfirst, hmiddle, hlast, show ((v / 4096 % 16 + 224) % 16 * 64 + (v / 64 % 64 + 128) % 64) * 64
      + (v % 64 + 128) % 64 = v by omega, hc]
    rfl
  · have hfirst := hbyte (v / 262144 % 8 + 240) (by omega)
    have hthird := hbyte (v / 4096 % 64 + 128) (by omega)
    have hsecond := secondByte?_four (v / 262144 % 8) (by omega)
    rw [← hfirst] at hsecond
    have hlow : (if v / 262144 % 8 = 0 then 144 else 128) ≤ v / 4096 % 64 + 128 := by split <;> omega
    have hhigh : v / 4096 % 64 + 128 ≤ (if v / 262144 % 8 = 4 then 143 else 191) := by split <;> omega
    rw [← hthird] at hlow hhigh
    have htwo : followers 128 191 2 (UInt8.ofNat (v / 64 % 64 + 128) :: UInt8.ofNat (v % 64 + 128) :: rest) = 2 :=
      followers_eq_iff.2 ⟨_, _, rfl, by omega, by omega, hone⟩
    have hall := followers_eq_iff.2 ⟨_, _, rfl, hlow, hhigh, htwo⟩
    refine ⟨_, [_, _, _], rfl, (decodeFront_of_followers hsecond hall).trans ?_⟩
    show (some (Char.ofNat ((((UInt8.ofNat (v / 262144 % 8 + 240)).toNat % 8 * 64
      + (UInt8.ofNat (v / 4096 % 64 + 128)).toNat % 64) * 64
      + (UInt8.ofNat (v / 64 % 64 + 128)).toNat % 64) * 64
      + (UInt8.ofNat (v % 64 + 128)).toNat % 64)), 3) = _
    rw [hfirst, hthird, hmiddle, hlast, show (((v / 262144 % 8 + 240) % 8 * 64
      + (v / 4096 % 64 + 128) % 64) * 64 + (v / 64 % 64 + 128) % 64) * 64 + (v % 64 + 128) % 64 = v by omega,
      hc]
    rfl

theorem toNat_ofNat_of_isValidChar {v : Nat} (h : v < 55296 ∨ 57343 < v ∧ v < 1114112) :
    (Char.ofNat v).val.toNat = v := by
  have hv : v.isValidChar := h
  rw [Char.ofNat, dif_pos hv]
  rfl

/-- Bytes that are read as a character are the bytes of that character. -/
theorem utf8EncodeChar_of_decodeFront {b : UInt8} {bs : List UInt8} {c : Char} {n : Nat}
    (h : decodeFront b bs = (some c, n)) :
    ∃ more rest, bs = more ++ rest ∧ more.length = n ∧ String.utf8EncodeChar c = b :: more := by
  have hb := b.toNat_lt
  have hbyte : ∀ (m : Nat) (d : UInt8), m = d.toNat → UInt8.ofNat m = d := by
    rintro m d rfl
    exact UInt8.ofNat_toNat
  by_cases hone : b.toNat < 128
  · rw [decodeFront, if_pos hone] at h
    cases h
    refine ⟨[], bs, rfl, rfl, ?_⟩
    rw [String.utf8EncodeChar, toNat_ofNat_of_isValidChar (by omega), if_pos (by omega), UInt8.ofNat_toNat]
  · cases hsecond : secondByte? b.toNat with
    | none =>
      rw [decodeFront, if_neg hone, hsecond] at h
      cases h
    | some p =>
      obtain ⟨low, high, length⟩ := p
      have hall : followers low high (length - 1) bs = length - 1 := by
        by_contra hne
        rw [decodeFront, if_neg hone, hsecond] at h
        dsimp only at h
        rw [if_neg hne] at h
        cases h
      rw [decodeFront_of_followers hsecond hall] at h
      rcases secondByte?_cases hsecond with ⟨x, hx, hx', hfirst, heq⟩ | ⟨x, hx, hfirst, heq⟩ | ⟨x, hx, hfirst, heq⟩
      · cases heq
        obtain ⟨b₁, rest, rfl, hlow, hhigh, -⟩ := followers_eq_iff.1 hall
        cases h
        refine ⟨[b₁], rest, rfl, rfl, ?_⟩
        show String.utf8EncodeChar (Char.ofNat (b.toNat % 32 * 64 + b₁.toNat % 64)) = _
        rw [String.utf8EncodeChar, toNat_ofNat_of_isValidChar (by omega), if_neg (by omega), if_pos (by omega),
          hbyte _ b (by omega), hbyte _ b₁ (by omega)]
      · cases heq
        obtain ⟨b₁, rest, rfl, hlow, hhigh, hmore⟩ := followers_eq_iff.1 hall
        obtain ⟨b₂, rest, rfl, hlow₂, hhigh₂, -⟩ := followers_eq_iff.1 hmore
        cases h
        refine ⟨[b₁, b₂], rest, rfl, rfl, ?_⟩
        have hlow' : 128 ≤ b₁.toNat ∧ (x = 0 → 160 ≤ b₁.toNat) := by split at hlow <;> omega
        have hhigh' : b₁.toNat ≤ 191 ∧ (x = 13 → b₁.toNat ≤ 159) := by split at hhigh <;> omega
        show String.utf8EncodeChar
          (Char.ofNat ((b.toNat % 16 * 64 + b₁.toNat % 64) * 64 + b₂.toNat % 64)) = _
        rw [String.utf8EncodeChar, toNat_ofNat_of_isValidChar (by omega), if_neg (by omega), if_neg (by omega),
          if_pos (by omega), hbyte _ b (by omega), hbyte _ b₁ (by omega), hbyte _ b₂ (by omega)]
      · cases heq
        obtain ⟨b₁, rest, rfl, hlow, hhigh, hmore⟩ := followers_eq_iff.1 hall
        obtain ⟨b₂, rest, rfl, hlow₂, hhigh₂, hmore₂⟩ := followers_eq_iff.1 hmore
        obtain ⟨b₃, rest, rfl, hlow₃, hhigh₃, -⟩ := followers_eq_iff.1 hmore₂
        cases h
        refine ⟨[b₁, b₂, b₃], rest, rfl, rfl, ?_⟩
        have hlow' : 128 ≤ b₁.toNat ∧ (x = 0 → 144 ≤ b₁.toNat) := by split at hlow <;> omega
        have hhigh' : b₁.toNat ≤ 191 ∧ (x = 4 → b₁.toNat ≤ 143) := by split at hhigh <;> omega
        show String.utf8EncodeChar (Char.ofNat
          (((b.toNat % 8 * 64 + b₁.toNat % 64) * 64 + b₂.toNat % 64) * 64 + b₃.toNat % 64)) = _
        rw [String.utf8EncodeChar, toNat_ofNat_of_isValidChar (by omega), if_neg (by omega), if_neg (by omega),
          if_neg (by omega), hbyte _ b (by omega), hbyte _ b₁ (by omega), hbyte _ b₂ (by omega),
          hbyte _ b₃ (by omega)]

/-! ### Texts -/

theorem decodeFrom_append (skipped rest : List UInt8) :
    decodeFrom skipped.length (skipped ++ rest) = decodeFrom 0 rest := by
  induction skipped with
  | nil => rfl
  | cons b skipped ih =>
    rw [List.length_cons, List.cons_append, decodeFrom]
    exact ih

theorem decodeFrom_encodeUtf8 (text : List Char) : decodeFrom 0 (encodeUtf8 text) = text.map some := by
  induction text with
  | nil => rw [encodeUtf8_eq]; rfl
  | cons c text ih =>
    obtain ⟨b, more, hbytes, hfront⟩ := decodeFront_utf8EncodeChar c (encodeUtf8 text)
    rw [encodeUtf8_cons, hbytes, List.cons_append, decodeFrom, hfront, decodeFrom_append, ih, List.map_cons]

/-- **Bytes stand for a text if and only if they are its bytes.** -/
theorem decodeUtf8?_eq_some_iff {bytes : List UInt8} {text : List Char} :
    decodeUtf8? bytes = some text ↔ bytes = encodeUtf8 text := by
  constructor
  · intro h
    induction hlength : bytes.length using Nat.strongRecOn generalizing bytes text with
    | _ n ih =>
      cases bytes with
      | nil =>
        cases h
        rw [encodeUtf8_eq]
        rfl
      | cons b bs =>
        rw [decodeUtf8?, decodeFrom, List.mapM_cons] at h
        cases hfront : decodeFront b bs with
        | mk c? k =>
          rw [hfront] at h
          obtain ⟨c, rfl, h⟩ := Option.bind_eq_some_iff.1 h
          obtain ⟨text', htext', h⟩ := Option.bind_eq_some_iff.1 h
          cases h
          obtain ⟨more, rest, rfl, rfl, hbytes⟩ := utf8EncodeChar_of_decodeFront hfront
          dsimp only at htext'
          rw [decodeFrom_append] at htext'
          rw [encodeUtf8_cons, hbytes, List.cons_append, ← ih rest.length ?_ htext' rfl]
          simp at hlength
          omega
  · rintro rfl
    rw [decodeUtf8?, decodeFrom_encodeUtf8]
    induction text with
    | nil => rfl
    | cons c text ih =>
      rw [List.map_cons, List.mapM_cons, ih]
      rfl

end Listfile
