import DocQuery.Value.Basic

/-!
# Equality and Order of Values

Values are compared in three ways.

* `Value.identical` tells whether two values are the same value of the same
  kind. Documents are the same when they have the same names with the same
  values, in whatever order; numbers inside follow the equality of numbers, and
  decimals are the same when their bits are.
* `Value.same` is the equality of filters. It sees numbers of different kinds
  as equal when they are the same number.
* `Value.compare?` is the order of filters, defined within one kind of values
  only, and for numbers of all kinds together.

Sorting needs an order of all values and of missing ones. `Value.sortOrder`
goes by the rank of the kind first and by `compare?` within a rank.

Integers compare exactly among themselves. An integer and a double-precision
number compare after rounding the integer. Decimals have the rank of numbers but
compare with nothing, not even with each other.

## Main definitions

* `Value.identical`, `Value.same`: The two equalities.
* `Value.compare?`: The order within a kind.
* `Value.rank`, `Value.sortOrder`: The order across kinds.
-/

namespace DocQuery

open Number

mutual

/-- Are these the same value of the same kind? -/
def Value.identical : Value → Value → Bool
  | .null, .null => true
  | .boolean a, .boolean b => a == b
  | .int32 a, .int32 b => a == b
  | .int64 a, .int64 b => a == b
  | .double a, .double b => a.same b
  | .decimal a, .decimal b => a == b
  | .string a, .string b => a == b
  | .array a, .array b => Value.identicalItems a b
  | .document a, .document b => a.length == b.length && Value.identicalFields a b
  | .objectId a, .objectId b => a == b
  | .dateTime a, .dateTime b => a == b
  | .regex p a, .regex q b => p == q && a == b
  | .binary s a, .binary t b => s == t && a == b
  | .timestamp t i, .timestamp u j => t == u && i == j
  | .symbol a, .symbol b => a == b
  | .code a, .code b => a == b
  | .scopedCode a s, .scopedCode b t =>
    a == b && s.length == t.length && Value.identicalFields s t
  | .undefined, .undefined => true
  | .minKey, .minKey => true
  | .maxKey, .maxKey => true
  | .pointer c a, .pointer d b => c == d && a == b
  | _, _ => false

/-- Are these the same values in the same order? -/
def Value.identicalItems : List Value → List Value → Bool
  | [], [] => true
  | a :: as, b :: bs => a.identical b && Value.identicalItems as bs
  | _, _ => false

/-- Has the second document the same value under each name of the first? -/
def Value.identicalFields : List (String × Value) → List (String × Value) → Bool
  | [], _ => true
  | (k, a) :: as, bs =>
    (match Document.get? bs k with
      | some b => a.identical b
      | none => false) && Value.identicalFields as bs

end

namespace Value

/-- The integer that a value is. -/
def integer? : Value → Option Int
  | .int32 n => some n.toInt
  | .int64 n => some n.toInt
  | _ => none

/-- The double-precision number nearest to a number of any kind but the decimal
    one. -/
def number? : Value → Option Binary64
  | .int32 n => some (.ofInt n.toInt)
  | .int64 n => some (.ofInt n.toInt)
  | .double x => some x
  | _ => none

/-- The order of two numbers: exact between integers, after rounding
    otherwise. -/
def compareNumbers? (a b : Value) : Option Ordering :=
  match a.integer?, b.integer? with
  | some m, some n => some (compare m n)
  -- An integer beyond 53 bits may become a neighbour of itself here.
  | _, _ => match a.number?, b.number? with
    | some x, some y => x.compare? y
    | _, _ => none

/-- Are both of these numbers, of whatever kind? -/
def areNumbers (a b : Value) : Bool :=
  a.number?.isSome && b.number?.isSome

/-- The equality of filters: numbers by what they are, everything else, decimals
    included, by kind and content. -/
def same (a b : Value) : Bool :=
  if areNumbers a b then compareNumbers? a b == some .eq else a.identical b

/-- The order of filters, undefined between values of different kinds. -/
def compare? : Value → Value → Option Ordering
  | .string a, .string b => some (compare a b)
  | .boolean a, .boolean b => some (compare a b)
  | .objectId a, .objectId b => some (compare a.code.toNat b.code.toNat)
  | .dateTime a, .dateTime b => some (compare a.toInt b.toInt)
  | a, b => compareNumbers? a b

/-- The rank of a kind of values in sorting. -/
def rank : Value → Nat
  | .null | .undefined => 1
  | .int32 _ | .int64 _ | .double _ | .decimal _ => 2
  | .string _ | .symbol _ => 3
  | .document _ => 4
  | .array _ => 5
  | .binary _ _ => 6
  | .objectId _ => 7
  | .boolean _ => 8
  | .dateTime _ => 9
  | .timestamp _ _ => 10
  | .regex _ _ => 11
  | .code _ | .scopedCode _ _ | .minKey | .maxKey | .pointer _ _ => 12

/-- The rank of a value that may be missing. Missing ranks with null. -/
def rank? (v : Option Value) : Nat :=
  v.elim 1 rank

/-- The order of sorting: by rank, and by value where values of one rank are
    comparable. -/
def sortOrder (a b : Option Value) : Ordering :=
  (compare (rank? a) (rank? b)).then <| match a, b with
    | some a, some b => (a.compare? b).getD .eq
    | _, _ => .eq

/-- The count that a number stands for: an integer that is not negative, of
    any kind. Counts beyond 64 bits become the largest one. -/
def count? (v : Value) : Option Nat :=
  match v.integer?, v with
  | some n, _ => if 0 ≤ n then some n.toNat else none
  | none, .double x =>
    if x.isIntegral && 0 ≤ x.key then some (min x.truncate (UInt64.size - 1)) else none
  | none, _ => none

end Value

end DocQuery
