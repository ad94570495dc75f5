import DocQuery.Text.FormEncoding
import Mathlib.Data.List.Basic
import Mathlib.Tactic.Common

/-!
# Parts of Form-Encoded Texts

Two texts with an ampersand between them have the pairs of both. A name and a
value that are written with characters that stand for themselves are read as
they are.

Query strings are read as bytes: they are cut at ampersands, each piece at its
first equals sign, and only then are escapes undone and bytes read as
characters. Characters below 0x80 have one byte, and all separators and marks
are such characters. So for texts of them the bytes can be followed one for one,
and a separator is found in the bytes exactly where it is in the text.

The lemmas about cutting are stated for any list and any test of what separates,
since texts are cut at several characters in this development, bytes among them.

## Main definitions

* `FormEncoding.isLiteral`: Does a character stand for itself?

## Theorems

* `pieces_append`, `tokens_append`: The parts on both sides of a separator.
* `FormEncoding.pairs_append`: The pairs on both sides of an ampersand.
* `FormEncoding.pairs_of_ascii`: A pair without separators in it.
* `FormEncoding.pairs_literal`: A pair that needs no escapes.
-/

namespace DocQuery

namespace Text

section Cut

variable {α : Type} (sep : α → Bool)

/-- A separator ends one piece and begins another, whatever stands around it. -/
theorem pieces_append (a b : List α) (c : α) (h : sep c = true) :
    pieces sep (a ++ c :: b) = pieces sep a ++ pieces sep b := by
  induction a with
  | nil =>
      simp only [List.nil_append, pieces, h, if_true, List.cons_append]
  | cons x a ih =>
      rw [List.cons_append, pieces, pieces, ih]
      by_cases hx : sep x = true
      · rw [if_pos hx, if_pos hx, List.cons_append]
      · rw [if_neg hx, if_neg hx]
        -- The character belongs to the first piece, and there is always one.
        rcases ha : pieces sep a with _ | ⟨p, ps⟩
        · exact absurd ha (pieces_ne_nil sep a)
        · rfl

theorem tokens_append (a b : List α) (c : α) (h : sep c = true) :
    tokens sep (a ++ c :: b) = tokens sep a ++ tokens sep b := by
  unfold tokens
  rw [pieces_append sep a b c h, List.filter_append]

theorem pieces_of_not_sep (s : List α) (h : ∀ c ∈ s, sep c = false) : pieces sep s = [s] := by
  induction s with
  | nil => rfl
  | cons c s ih =>
      rw [List.forall_mem_cons] at h
      rw [pieces, h.1, ih h.2]
      rfl

/-- A text that is not empty and has no separator is one token. -/
theorem tokens_of_not_sep (s : List α) (hs : s ≠ []) (h : ∀ c ∈ s, sep c = false) :
    tokens sep s = [s] := by
  -- The one piece is not empty, so it is not left out.
  unfold tokens
  rw [pieces_of_not_sep sep s h]
  rcases s with _ | ⟨c, s⟩
  · exact absurd rfl hs
  · rfl

theorem cut?_append (a b : List α) (c : α) (hc : sep c = true) (ha : ∀ x ∈ a, sep x = false) :
    cut? sep (a ++ c :: b) = some (a, b) := by
  induction a with
  | nil => rw [List.nil_append, cut?, if_pos hc]
  | cons x a ih =>
      rw [List.forall_mem_cons] at ha
      rw [List.cons_append, cut?, ha.1, ih ha.2]
      rfl

end Cut

namespace FormEncoding

/-- Does a character stand for itself in form-encoded text? -/
def isLiteral (c : Char) : Bool :=
  c.toNat < 0x80 && c != '&' && c != '=' && c != '+' && c != '%'

/-- The byte of a character that has one only. -/
def byte (c : Char) : UInt8 :=
  UInt8.ofNat c.toNat

theorem toNat_byte (c : Char) (h : c.toNat < 0x80) : (byte c).toNat = c.toNat := by
  unfold byte
  rw [UInt8.toNat_ofNat']
  omega

theorem encode_append (s t : List Char) :
    Utf8.encode (s ++ t) = Utf8.encode s ++ Utf8.encode t :=
  List.flatMap_append

theorem encode_of_ascii (s : List Char) (h : ∀ c ∈ s, c.toNat < 0x80) :
    Utf8.encode s = s.map byte := by
  induction s with
  | nil => rfl
  | cons c s ih =>
      rw [List.forall_mem_cons] at h
      have hc : String.utf8EncodeChar c = [byte c] := by
        have hval : c.val.toNat ≤ 0x7F := Nat.le_of_lt_succ h.1
        rw [String.utf8EncodeChar]
        exact if_pos hval
      unfold Utf8.encode at ih ⊢
      rw [List.flatMap_cons, hc, ih h.2]
      rfl

/-- Characters of one byte are read back one by one, with nothing pending between
    them. -/
theorem decodeLossy_of_ascii (s : List Char) (h : ∀ c ∈ s, c.toNat < 0x80) :
    Utf8.decodeLossy (s.map byte) = s := by
  induction s with
  | nil => rfl
  | cons c s ih =>
      rw [List.forall_mem_cons] at h
      -- The first byte of such a character is all of it.
      have hlead : Utf8.lead (byte c) = .whole c := by
        unfold Utf8.lead
        rw [if_pos (by rw [toNat_byte c h.1]; exact h.1), toNat_byte c h.1, Char.ofNat_toNat]
      have hrest := ih h.2
      unfold Utf8.decodeLossy Utf8.scan at hrest ⊢
      rw [List.map_cons, Utf8.scanFrom, hlead, List.map_cons, hrest]
      rfl

theorem byte_ne (c d : Char) (hc : c.toNat < 0x80) (hd : d.toNat < 0x80) (h : c ≠ d) :
    byte c ≠ byte d := by
  intro heq
  have hnat : c.toNat = d.toNat := by
    rw [← toNat_byte c hc, heq, toNat_byte d hd]
  exact h (Char.toNat_inj.mp hnat)

theorem isLiteral_iff (c : Char) :
    isLiteral c = true ↔ c.toNat < 0x80 ∧ c ≠ '&' ∧ c ≠ '=' ∧ c ≠ '+' ∧ c ≠ '%' := by
  unfold isLiteral
  simp only [Bool.and_eq_true, decide_eq_true_eq, bne_iff_ne, and_assoc]

/-- A byte that is neither a plus sign nor a percent sign is left alone. -/
theorem unescape_cons (b : UInt8) (bytes : List UInt8) (hplus : b ≠ 0x2B) (hpercent : b ≠ 0x25) :
    unescape (b :: bytes) = b :: unescape bytes := by
  -- An escape would need two more bytes, so their number matters to the definition.
  rcases bytes with _ | ⟨x, _ | ⟨y, bytes⟩⟩
  · simp only [unescape, hplus, hpercent, if_false]
  · simp only [unescape, hplus, hpercent, if_false]
  · simp only [unescape, hplus, hpercent, if_false]

/-- So characters that stand for themselves are left alone. -/
theorem unescape_byte (s : List Char) (h : s.all isLiteral = true) :
    unescape (s.map byte) = s.map byte := by
  induction s with
  | nil => rfl
  | cons c s ih =>
      rw [List.all_cons, Bool.and_eq_true] at h
      have hc := (isLiteral_iff c).mp h.1
      rw [List.map_cons, unescape_cons, ih h.2]
      · exact byte_ne c '+' hc.1 (by decide) hc.2.2.2.1
      · exact byte_ne c '%' hc.1 (by decide) hc.2.2.2.2

/-- The pairs on both sides of an ampersand. -/
theorem pairs_append (s t : List Char) : pairs (s ++ '&' :: t) = pairs s ++ pairs t := by
  have hencode : Utf8.encode (s ++ '&' :: t) = Utf8.encode s ++ 0x26 :: Utf8.encode t :=
    encode_append s ('&' :: t)
  -- The ampersand is one byte of the encoding, and separates there.
  unfold pairs
  rw [hencode, tokens_append _ _ _ _ (by rfl), List.map_append]

/-- A name and a value of characters that have one byte each and separate
    nothing. -/
theorem pairs_of_ascii (name value : List Char) (hname : ∀ c ∈ name, c.toNat < 0x80)
    (hvalue : ∀ c ∈ value, c.toNat < 0x80) (hnameSep : ∀ c ∈ name, c ≠ '&' ∧ c ≠ '=')
    (hvalueSep : ∀ c ∈ value, c ≠ '&') :
    pairs (name ++ '=' :: value) =
      [(Utf8.decodeLossy (unescape (name.map byte)),
        Utf8.decodeLossy (unescape (value.map byte)))] := by
  -- A character that does not occur does not occur among the bytes.
  have hbytes : ∀ (s : List Char) (d : Char), (∀ c ∈ s, c.toNat < 0x80) → (∀ c ∈ s, c ≠ d) →
      d.toNat < 0x80 → ∀ b ∈ s.map byte, (b == byte d) = false := by
    intro s d hs hd hlt b hb
    rcases List.mem_map.mp hb with ⟨c, hc, rfl⟩
    rw [beq_eq_false_iff_ne]
    exact byte_ne c d (hs c hc) hlt (hd c hc)
  have hencode : Utf8.encode (name ++ '=' :: value) = name.map byte ++ 0x3D :: value.map byte := by
    rw [encode_append, encode_of_ascii name hname]
    exact congrArg _ (congrArg (0x3D :: ·) (encode_of_ascii value hvalue))
  -- No byte is an ampersand, so there is one pair, and it is cut at the equals sign
  -- written.
  have htokens : tokens (· == 0x26) (name.map byte ++ 0x3D :: value.map byte) =
      [name.map byte ++ 0x3D :: value.map byte] := by
    apply tokens_of_not_sep
    · simp
    · intro b hb
      rcases List.mem_append.mp hb with hb | hb
      · exact hbytes name '&' hname (fun c hc => (hnameSep c hc).1) (by decide) b hb
      · rcases List.mem_cons.mp hb with rfl | hb
        · decide
        · exact hbytes value '&' hvalue hvalueSep (by decide) b hb
  have hcut : cut? (· == 0x3D) (name.map byte ++ 0x3D :: value.map byte) =
      some (name.map byte, value.map byte) :=
    cut?_append _ _ _ _ (by rfl)
      (hbytes name '=' hname (fun c hc => (hnameSep c hc).2) (by decide))
  unfold pairs
  rw [hencode, htokens, List.map_singleton, pair, hcut, Option.getD_some]

/-- A name and a value of characters that stand for themselves. -/
theorem pairs_literal (name value : List Char) (hname : name.all isLiteral = true)
    (hvalue : value.all isLiteral = true) :
    pairs (name ++ '=' :: value) = [(name, value)] := by
  have hliteral : ∀ s : List Char, s.all isLiteral = true → ∀ c ∈ s,
      c.toNat < 0x80 ∧ c ≠ '&' ∧ c ≠ '=' := by
    intro s hs c hc
    have h := (isLiteral_iff c).mp (List.all_eq_true.mp hs c hc)
    exact ⟨h.1, h.2.1, h.2.2.1⟩
  have hascii : ∀ s : List Char, s.all isLiteral = true → ∀ c ∈ s, c.toNat < 0x80 :=
    fun s hs c hc => (hliteral s hs c hc).1
  rw [pairs_of_ascii name value (hascii name hname) (hascii value hvalue)
    (fun c hc => (hliteral name hname c hc).2) (fun c hc => (hliteral value hvalue c hc).2.1),
    unescape_byte name hname, unescape_byte value hvalue,
    decodeLossy_of_ascii name (hascii name hname), decodeLossy_of_ascii value (hascii value hvalue)]

end FormEncoding

end Text

end DocQuery
