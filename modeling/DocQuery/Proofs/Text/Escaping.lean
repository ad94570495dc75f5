import DocQuery.Proofs.Text.FormEncoding

/-!
# Escapes in Query Strings

Every text can be a name or a value in a query string. With all of its bytes
escaped it is read back as it is, whatever characters it has.

The bytes of a character are read back one after the other. The first one says in
which range the second one lies, and this range leaves out what another first
byte stands for, so the four lengths of a character are cases of their own.

That no character is out of reach is what makes statements about query strings
statements about texts: a claim about every value of a parameter would otherwise
be one about those values that happen to be written somewhere. Escaping all
bytes is not what a client does, but it is one way to write any text at all, and
the shortest to reason about.

## Main definitions

* `FormEncoding.escaped`: A text with all of its bytes escaped.

## Theorems

* `Utf8.decodeLossy_encode`: Every text is read back from its bytes.
* `FormEncoding.unescape_escaped`: Escapes are undone.
* `FormEncoding.pairs_escaped`: Every pair is read from some query string.
-/

namespace DocQuery

namespace Text

namespace Utf8

theorem lead_whole (n : Nat) (h : n < 0x80) : lead (UInt8.ofNat n) = .whole (Char.ofNat n) := by
  unfold lead
  rw [UInt8.toNat_ofNat_of_lt' (show n < 256 by omega)]
  exact if_pos h

/-- What a first byte of two says. -/
theorem lead_of_two (n : Nat) (hlow : 2 ≤ n) (hhigh : n < 32) :
    lead (UInt8.ofNat (n + 192)) = .pending ⟨1, 0x80, 0xBF, n⟩ := by
  unfold lead
  rw [UInt8.toNat_ofNat_of_lt' (show n + 192 < 256 by omega)]
  simp only
  rw [if_neg (by omega), if_neg (by omega), if_pos (by omega), Nat.add_sub_cancel]

/-- What a first byte of three says. The range of the second byte leaves out
    shorter characters and surrogates. -/
theorem lead_of_three (n : Nat) (h : n < 16) :
    lead (UInt8.ofNat (n + 224)) =
      .pending ⟨2, if n = 0 then 0xA0 else 0x80, if n = 13 then 0x9F else 0xBF, n⟩ := by
  unfold lead
  rw [UInt8.toNat_ofNat_of_lt' (show n + 224 < 256 by omega)]
  simp only
  rw [if_neg (by omega), if_neg (by omega), if_neg (by omega), Nat.add_sub_cancel]
  by_cases hfirst : n = 0
  · subst hfirst
    rfl
  by_cases hsurrogate : n = 13
  · subst hsurrogate
    rfl
  rw [if_neg (by omega), if_neg (by omega), if_pos (by omega), if_neg hfirst, if_neg hsurrogate]

/-- What a first byte of four says. The range of the second byte leaves out
    shorter characters and what comes after the last one. -/
theorem lead_of_four (n : Nat) (h : n < 5) :
    lead (UInt8.ofNat (n + 240)) =
      .pending ⟨3, if n = 0 then 0x90 else 0x80, if n = 4 then 0x8F else 0xBF, n⟩ := by
  -- There are five bytes to check.
  match n with
  | 0 | 1 | 2 | 3 | 4 => rfl
  | _ + 5 => exact absurd h (by omega)

/-- A byte within the range brings in six bits. -/
theorem scanFrom_next (owed low high bits n : Nat) (bytes : List UInt8) (hn : n < 64)
    (hlow : low ≤ n + 128) (hhigh : n + 128 ≤ high) :
    scanFrom (some ⟨owed, low, high, bits⟩) (UInt8.ofNat (n + 128) :: bytes) =
      if owed ≤ 1 then some (Char.ofNat (bits * 64 + n)) :: scanFrom none bytes
      else scanFrom (some ⟨owed - 1, 0x80, 0xBF, bits * 64 + n⟩) bytes := by
  rw [scanFrom, UInt8.toNat_ofNat_of_lt' (show n + 128 < 256 by omega)]
  simp only [Nat.add_sub_cancel]
  exact if_pos ⟨hlow, hhigh⟩

/-- A character is read back from its bytes. -/
theorem scanFrom_encodeChar (c : Char) (bytes : List UInt8) :
    scanFrom none (String.utf8EncodeChar c ++ bytes) = some c :: scanFrom none bytes := by
  -- Surrogates are no characters, which the case of three bytes needs.
  have hvalid : c.val.toNat < 55296 ∨ 57343 < c.val.toNat ∧ c.val.toNat < 1114112 := c.valid
  have hchar : Char.ofNat c.val.toNat = c := Char.ofNat_toNat c
  rw [String.utf8EncodeChar]
  generalize c.val.toNat = v at hvalid hchar
  have hlast : v % 64 < 64 := Nat.mod_lt v (by decide)
  split
  · rw [List.singleton_append, scanFrom, lead_whole v (by omega), ← hchar]
  split
  · have hbits : v / 64 % 32 * 64 + v % 64 = v := by omega
    rw [List.cons_append, List.singleton_append, scanFrom, lead_of_two _ (by omega) (by omega)]
    simp only
    rw [scanFrom_next _ _ _ _ _ _ hlast (by omega) (by omega), if_pos (by decide), hbits, hchar]
  -- From three bytes on there is one in the middle, whose range depends on the first.
  have hsecond : v / 64 % 64 < 64 := Nat.mod_lt _ (by decide)
  split
  · have hbits : (v / 4096 % 16 * 64 + v / 64 % 64) * 64 + v % 64 = v := by omega
    rw [List.cons_append, List.cons_append, List.singleton_append, scanFrom,
      lead_of_three _ (by omega)]
    simp only
    rw [scanFrom_next _ _ _ _ _ _ hsecond (by split <;> omega) (by split <;> omega),
      if_neg (by decide), scanFrom_next _ _ _ _ _ _ hlast (by omega) (by omega),
      if_pos (by decide), hbits, hchar]
  · have hthird : v / 4096 % 64 < 64 := Nat.mod_lt _ (by decide)
    have hbits : ((v / 262144 % 8 * 64 + v / 4096 % 64) * 64 + v / 64 % 64) * 64 + v % 64 = v := by
      omega
    rw [List.cons_append, List.cons_append, List.cons_append, List.singleton_append, scanFrom,
      lead_of_four _ (by omega)]
    simp only
    rw [scanFrom_next _ _ _ _ _ _ hthird (by split <;> omega) (by split <;> omega),
      if_neg (by decide), scanFrom_next _ _ _ _ _ _ hsecond (by omega) (by omega),
      if_neg (by decide), scanFrom_next _ _ _ _ _ _ hlast (by omega) (by omega),
      if_pos (by decide), hbits, hchar]

/-- Every text is read back from its bytes. -/
theorem decodeLossy_encode (s : List Char) : decodeLossy (encode s) = s := by
  induction s with
  | nil => rfl
  | cons c s ih =>
      unfold decodeLossy scan encode at ih ⊢
      rw [List.flatMap_cons, scanFrom_encodeChar, List.map_cons, ih, Option.getD_some]

end Utf8

namespace FormEncoding

/-- A text with all of its bytes escaped. -/
def escaped (s : List Char) : List Char :=
  (Utf8.encode s).flatMap fun b => ['%', Hex.digit (b.toNat / 16), Hex.digit (b.toNat % 16)]

/-- Hexadecimal digits are characters of one byte, and none of them separates
    names or values. -/
theorem digit_apart (n : Nat) (h : n < 16) :
    (Hex.digit n).toNat < 0x80 ∧ Hex.digit n ≠ '&' ∧ Hex.digit n ≠ '=' := by
  have hall : ∀ n : Fin 16, (Hex.digit n).toNat < 0x80 ∧ Hex.digit n ≠ '&' ∧
      Hex.digit n ≠ '=' := by
    decide
  exact hall ⟨n, h⟩

/-- An escaped text has characters of one byte only, none of which separates. -/
theorem escaped_apart (s : List Char) (c : Char) (h : c ∈ escaped s) :
    c.toNat < 0x80 ∧ c ≠ '&' ∧ c ≠ '=' := by
  rcases List.mem_flatMap.mp h with ⟨b, -, hc⟩
  have hb := b.toNat_lt
  simp only [List.mem_cons, List.not_mem_nil, or_false] at hc
  rcases hc with rfl | rfl | rfl
  · decide
  · exact digit_apart _ (by omega)
  · exact digit_apart _ (Nat.mod_lt _ (by decide))

theorem hexValue?_digit (n : Nat) (h : n < 16) : hexValue? (byte (Hex.digit n)) = some n := by
  have hascii := (digit_apart n h).1
  unfold hexValue?
  rw [toNat_byte _ hascii, Char.ofNat_toNat]
  exact Hex.value?_digit n h

/-- An escaped byte is read as that byte. -/
theorem unescape_byte_escaped (b : UInt8) (bytes : List UInt8) :
    unescape (byte '%' :: byte (Hex.digit (b.toNat / 16)) ::
      byte (Hex.digit (b.toNat % 16)) :: bytes) = b :: unescape bytes := by
  have hb := b.toNat_lt
  have hnumber : b.toNat / 16 * 16 + b.toNat % 16 = b.toNat := by omega
  rw [unescape, if_neg (by decide), if_pos (by decide), hexValue?_digit _ (by omega),
    hexValue?_digit _ (Nat.mod_lt _ (by decide))]
  simp only
  rw [hnumber, UInt8.ofNat_toNat]

/-- Escapes are undone. -/
theorem unescape_escaped (s : List Char) :
    unescape (Utf8.encode (escaped s)) = Utf8.encode s := by
  -- The escapes are characters of one byte, so they are their own encoding.
  rw [encode_of_ascii _ fun c hc => (escaped_apart s c hc).1]
  unfold escaped
  induction Utf8.encode s with
  | nil => rfl
  | cons b bytes ih =>
      rw [List.flatMap_cons, List.map_append]
      simp only [List.map_cons, List.map_nil, List.cons_append, List.nil_append]
      rw [unescape_byte_escaped, ih]

/-- Every name and every value are read from some query string. -/
theorem pairs_escaped (name value : List Char) :
    pairs (escaped name ++ '=' :: escaped value) = [(name, value)] := by
  have hascii : ∀ s, ∀ c ∈ escaped s, c.toNat < 0x80 := fun s c hc => (escaped_apart s c hc).1
  rw [pairs_of_ascii _ _ (hascii name) (hascii value)
    (fun c hc => (escaped_apart name c hc).2) (fun c hc => (escaped_apart value c hc).2.1)]
  -- The bytes are those of the escaped texts, and undoing the escapes leaves those of the
  -- texts.
  rw [← encode_of_ascii _ (hascii name), ← encode_of_ascii _ (hascii value), unescape_escaped,
    unescape_escaped, Utf8.decodeLossy_encode, Utf8.decodeLossy_encode]

end FormEncoding

end Text

end DocQuery
