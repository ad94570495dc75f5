import DocQuery.Text.Blank

/-!
# Decimal Digits

Runs of the ten ASCII digits as natural numbers, and integers written with an
optional sign. Digits of other scripts are not digits here.

## Main definitions

* `isDigit`: Is this one of the ten ASCII digits?
* `ofDigits`: The number that a run of digits stands for.
* `digits`: The digits of a number, without leading zeros.
* `padded`: The digits of a number in a fixed count.
* `readNat?`, `readInt?`: Texts that are a number from end to end.
* `text`: The digits of an integer, with a sign when it is negative.

## Theorems

* `ofDigits_digits`: The digits of a number stand for it.
* `readInt?_text`: Every integer that is written reads back.
-/

namespace DocQuery

namespace Number

/-- Is this one of the ten ASCII digits? -/
def isDigit (c : Char) : Bool :=
  48 ≤ c.toNat && c.toNat ≤ 57

/-- The digit of a value below ten. -/
def digit (n : Nat) : Char :=
  Char.ofNat (48 + n)

/-- Read on from the number that the digits before stand for. -/
def ofDigitsFrom (n : Nat) (s : List Char) : Nat :=
  s.foldl (fun n c => n * 10 + (c.toNat - 48)) n

/-- The number that a run of digits stands for. -/
def ofDigits (s : List Char) : Nat :=
  ofDigitsFrom 0 s

/-- The digits of a number, without leading zeros. -/
def digits (n : Nat) : List Char :=
  if n < 10 then [digit n] else digits (n / 10) ++ [digit (n % 10)]

/-- The last `count` digits of a number, leading zeros included. -/
def padded : Nat → Nat → List Char
  | 0, _ => []
  | count + 1, n => padded count (n / 10) ++ [digit (n % 10)]

/-- A text of digits only as a number. -/
def readNat? (s : List Char) : Option Nat :=
  if !s.isEmpty && s.all isDigit then some (ofDigits s) else none

/-- A text of digits with at most one sign in front of them as a number. -/
def readInt? : List Char → Option Int
  | '-' :: s => (readNat? s).map fun (n : Nat) => -(n : Int)
  | '+' :: s => (readNat? s).map Int.ofNat
  | s => (readNat? s).map Int.ofNat

/-- The digits of an integer, with a minus sign when it is negative. -/
def text (n : Int) : List Char :=
  if n < 0 then '-' :: digits n.natAbs else digits n.natAbs

theorem toNat_digit (n : Nat) (h : n < 10) : (digit n).toNat = 48 + n := by
  have : ∀ n : Fin 10, (digit n.val).toNat = 48 + n.val := by decide
  exact this ⟨n, h⟩

theorem isDigit_digit (n : Nat) (h : n < 10) : isDigit (digit n) = true := by
  simp only [isDigit, toNat_digit n h, Bool.and_eq_true, decide_eq_true_eq]
  omega

/-- No digit is among the blanks, so a number is not trimmed. -/
theorem not_isBlank_of_isDigit (c : Char) (h : isDigit c = true) : Text.isBlank c = false := by
  simp only [isDigit, Bool.and_eq_true, decide_eq_true_eq] at h
  simp only [Text.isBlank, Bool.or_eq_false_iff, Bool.and_eq_false_iff, decide_eq_false_iff_not,
    beq_eq_false_iff_ne]
  omega

theorem ofDigitsFrom_append (n : Nat) (s t : List Char) :
    ofDigitsFrom n (s ++ t) = ofDigitsFrom (ofDigitsFrom n s) t := by
  simp [ofDigitsFrom]

theorem ofDigits_append_digit (s : List Char) (n : Nat) (h : n < 10) :
    ofDigits (s ++ [digit n]) = ofDigits s * 10 + n := by
  simp only [ofDigits, ofDigitsFrom_append]
  simp only [ofDigitsFrom, List.foldl_cons, List.foldl_nil, toNat_digit n h]
  omega

theorem ofDigits_digits (n : Nat) : ofDigits (digits n) = n := by
  induction n using digits.induct with
  | case1 n h =>
      rw [digits, if_pos h]
      simp only [ofDigits, ofDigitsFrom, List.foldl_cons, List.foldl_nil, toNat_digit n h]
      omega
  | case2 n h ih =>
      rw [digits, if_neg h, ofDigits_append_digit _ _ (Nat.mod_lt n (by decide)), ih]
      omega

theorem all_isDigit_digits (n : Nat) : (digits n).all isDigit = true := by
  induction n using digits.induct with
  | case1 n h =>
      rw [digits, if_pos h]
      simp [isDigit_digit n h]
  | case2 n h ih =>
      rw [digits, if_neg h, List.all_append, ih]
      simp [isDigit_digit _ (Nat.mod_lt n (by decide : 10 > 0))]

theorem digits_ne_nil (n : Nat) : digits n ≠ [] := by
  rw [digits]
  split <;> simp

theorem readNat?_digits (n : Nat) : readNat? (digits n) = some n := by
  simp only [readNat?, all_isDigit_digits, ofDigits_digits, Bool.and_true, Bool.not_eq_true',
    List.isEmpty_eq_false_iff, ne_eq, digits_ne_nil, not_false_eq_true, if_true]

theorem readInt?_of_isDigit (c : Char) (s : List Char) (h : isDigit c = true) :
    readInt? (c :: s) = (readNat? (c :: s)).map Int.ofNat := by
  rw [readInt?]
  · intro t heq
    rw [(List.cons.inj heq).1] at h
    exact absurd h (by decide)
  · intro t heq
    rw [(List.cons.inj heq).1] at h
    exact absurd h (by decide)

theorem readInt?_digits (n : Nat) : readInt? (digits n) = some (n : Int) := by
  rcases hd : digits n with _ | ⟨c, s⟩
  · exact absurd hd (digits_ne_nil n)
  · have hall := all_isDigit_digits n
    rw [hd, List.all_cons, Bool.and_eq_true] at hall
    rw [readInt?_of_isDigit c s hall.1, ← hd, readNat?_digits]
    rfl

theorem readInt?_text (n : Int) : readInt? (text n) = some n := by
  simp only [text]
  split
  · rw [readInt?, readNat?_digits, Option.map_some]
    congr 1
    omega
  · rw [readInt?_digits]
    congr 1
    omega

end Number

end DocQuery
