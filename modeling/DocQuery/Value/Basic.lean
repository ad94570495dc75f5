import DocQuery.Number.Binary64
import DocQuery.Number.Decimal128
import DocQuery.Text.Hex

/-!
# Values and Documents

The values that a document store holds. Numbers come in four kinds that stay
apart: 32-bit and 64-bit integers, double-precision numbers and decimals. A
document is a list of named values in which the order of the names matters for
output and for nothing else.

Documents are built with `insert`, which keeps the names distinct: a name that
is there keeps its place and gets the new value, a new name comes last.

## Main definitions

* `ObjectId`: A 96-bit identifier, written as 24 hexadecimal digits.
* `Value`: A value.
* `Document`: Named values in order.
* `Document.get?`, `insert`, `erase`, `keys`: Its operations.
* `Document.overlay`: Several insertions in a row.

## Theorems

* `Document.get?_insert_self`, `get?_insert_of_ne`: What a name stands for
  after an insertion.
* `Document.get?_erase_self`, `get?_erase_of_ne`: The same after a removal.
* `Document.insert_insert`: The last of two insertions under a name counts.
-/

namespace DocQuery

open Number

/-- An identifier of 96 bits. -/
structure ObjectId where
  code : BitVec 96
deriving DecidableEq, Inhabited

namespace ObjectId

/-- The 24 lower-case hexadecimal digits of an identifier. -/
def hex (id : ObjectId) : List Char :=
  Text.Hex.padded 24 id.code.toNat

/-- The identifier that 24 hexadecimal digits stand for. -/
def read? (s : List Char) : Option ObjectId :=
  if s.length = 24 then (Text.Hex.read? s).map fun n => ⟨BitVec.ofNat 96 n⟩ else none

end ObjectId

/-- A value of a document. -/
inductive Value where
  | null
  | boolean (b : Bool)
  | int32 (n : Int32)
  | int64 (n : Int64)
  | double (x : Binary64)
  | decimal (x : Decimal128)
  | string (s : String)
  | array (items : List Value)
  | document (fields : List (String × Value))
  | objectId (id : ObjectId)
  | dateTime (millis : Int64)
  | regex (pattern options : String)
  | binary (subtype : UInt8) (bytes : List UInt8)
  | timestamp (time increment : UInt32)
  | symbol (s : String)
  | code (source : String)
  | scopedCode (source : String) (scope : List (String × Value))
  | undefined
  | minKey
  | maxKey
  | pointer (collection : String) (id : ObjectId)
deriving Inhabited

/-- The largest 32-bit integer. -/
def Value.maxInt32 : Nat := 0x7FFFFFFF

/-- The largest 64-bit integer. -/
def Value.maxInt64 : Nat := 0x7FFFFFFFFFFFFFFF

/-- Named values in order. -/
abbrev Document := List (String × Value)

namespace Document

/-- The value under a name. -/
def get? : Document → String → Option Value
  | [], _ => none
  | (k, v) :: d, key => if k = key then some v else get? d key

/-- Is there a value under this name? -/
def contains (d : Document) (key : String) : Bool :=
  (d.get? key).isSome

/-- Put a value under a name. A name that is there keeps its place, a new one
    comes last. -/
def insert : Document → String → Value → Document
  | [], key, value => [(key, value)]
  | (k, v) :: d, key, value =>
    if k = key then (k, value) :: d else (k, v) :: insert d key value

/-- Remove a name. The others keep their order. -/
def erase (d : Document) (key : String) : Document :=
  d.filter fun p => p.1 ≠ key

/-- The names in order. -/
def keys (d : Document) : List String :=
  d.map Prod.fst

/-- Put all values of another document into this one, in its order. -/
def overlay (d other : Document) : Document :=
  other.foldl (fun d p => insert d p.1 p.2) d

/-- The document that insertion of the given pairs builds. -/
def ofPairs (pairs : List (String × Value)) : Document :=
  overlay [] pairs

/-- A document in which every name occurs once. -/
def Distinct (d : Document) : Prop :=
  (keys d).Nodup

theorem get?_insert_self (d : Document) (key : String) (value : Value) :
    get? (insert d key value) key = some value := by
  induction d with
  | nil => simp [insert, get?]
  | cons p d ih =>
      rcases p with ⟨k, v⟩
      by_cases h : k = key <;> simp [insert, get?, h, ih]

theorem get?_insert_of_ne (d : Document) (key other : String) (value : Value)
    (h : other ≠ key) : get? (insert d key value) other = get? d other := by
  induction d with
  | nil => simp [insert, get?, h.symm]
  | cons p d ih =>
      rcases p with ⟨k, v⟩
      by_cases hk : k = key
      · -- The value is replaced in place, under a name other than the one looked up.
        subst hk
        simp [insert, get?, h.symm]
      · rw [insert, if_neg hk, get?, get?, ih]

theorem get?_erase_self (d : Document) (key : String) : get? (erase d key) key = none := by
  induction d with
  | nil => rfl
  | cons p d ih =>
      rcases p with ⟨k, v⟩
      by_cases h : k = key
      · simpa [erase, List.filter_cons, h] using ih
      · simpa [erase, List.filter_cons, get?, h] using ih

theorem get?_erase_of_ne (d : Document) (key other : String) (h : other ≠ key) :
    get? (erase d key) other = get? d other := by
  induction d with
  | nil => rfl
  | cons p d ih =>
      rcases p with ⟨k, v⟩
      by_cases hk : k = key
      · subst hk
        simpa [erase, List.filter_cons, get?, h.symm] using ih
      · have hf : erase ((k, v) :: d) key = (k, v) :: erase d key := by
          simp [erase, hk]
        rw [hf, get?, get?, ih]

theorem insert_insert (d : Document) (key : String) (v w : Value) :
    insert (insert d key v) key w = insert d key w := by
  induction d with
  | nil => simp [insert]
  | cons p d ih =>
      rcases p with ⟨k, u⟩
      by_cases h : k = key <;> simp [insert, h, ih]

theorem get?_eq_none_iff (d : Document) (key : String) : get? d key = none ↔ key ∉ keys d := by
  induction d with
  | nil => simp [get?, keys]
  | cons p d ih =>
      rcases p with ⟨k, v⟩
      by_cases h : k = key
      · simp [get?, keys, h]
      · simpa [get?, keys, h, Ne.symm h] using ih

theorem mem_keys_insert (d : Document) (key other : String) (value : Value) :
    other ∈ keys (insert d key value) ↔ other = key ∨ other ∈ keys d := by
  induction d with
  | nil => simp [insert, keys]
  | cons p d ih =>
      rcases p with ⟨k, v⟩
      by_cases h : k = key
      · subst h
        simp [insert, keys]
      · have ih' : other ∈ List.map Prod.fst (insert d key value) ↔
            other = key ∨ other ∈ List.map Prod.fst d := ih
        simp only [insert, h, if_false, keys, List.map_cons, List.mem_cons, ih']
        exact or_left_comm

theorem distinct_insert (d : Document) (key : String) (value : Value) (h : Distinct d) :
    Distinct (insert d key value) := by
  induction d with
  | nil => simp [Distinct, insert, keys]
  | cons p d ih =>
      rcases p with ⟨k, v⟩
      simp only [Distinct, keys, List.map_cons, List.nodup_cons] at h
      by_cases hk : k = key
      · simp only [Distinct, insert, hk, if_true, keys, List.map_cons, List.nodup_cons]
        exact hk ▸ h
      · simp only [Distinct, insert, hk, if_false, keys, List.map_cons, List.nodup_cons]
        refine ⟨fun hmem => ?_, ih h.2⟩
        -- A name further on is the new one or was there before, and `k` is neither.
        rcases (mem_keys_insert d key k value).mp hmem with heq | hmem
        · exact hk heq
        · exact h.1 hmem

end Document

end DocQuery
