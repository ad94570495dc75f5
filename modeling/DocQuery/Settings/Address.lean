import DocQuery.Number.Digits
import DocQuery.Text.Cut
import DocQuery.Text.Hex

/-!
# Socket Addresses

Addresses to listen at: an IPv4 or IPv6 address with a port. An IPv6 address
stands in brackets, may leave out one run of zero groups, may end in the form
of an IPv4 address, and may have a numeric scope after a percent sign.

Written, the longest run of at least two zero groups is left out, the first of
equal ones, and addresses that embed IPv4 ones end in their form.

## Main definitions

* `SocketAddress`: An address and a port.
* `SocketAddress.read?`: Read an address.
* `SocketAddress.render`: Write an address.
-/

namespace DocQuery

open Number

/-- An address and a port. -/
inductive SocketAddress where
  /-- Four numbers below 256. -/
  | v4 (octets : List Nat) (port : Nat)
  /-- Eight numbers below 2 ^ 16. -/
  | v6 (groups : List Nat) (scope : Nat) (port : Nat)
deriving DecidableEq

namespace SocketAddress

/-- Read the digits at the front of a text as a number up to a limit. -/
def number? (limit : Nat) (s : List Char) : Option (Nat × List Char) :=
  let digits := s.takeWhile isDigit
  let n := ofDigits digits
  if digits.isEmpty || limit < n then none else some (n, s.dropWhile isDigit)

/-- Read one number of an IPv4 address, which has three digits at most and no
    leading zero. -/
def octet? (s : List Char) : Option (Nat × List Char) :=
  let digits := s.takeWhile isDigit
  if digits.length ≤ 3 ∧ (digits.head? ≠ some '0' ∨ digits.length = 1) then number? 255 s
  else none

/-- Read a given character. -/
def expect? (c : Char) : List Char → Option (List Char)
  | [] => none
  | d :: s => if d = c then some s else none

/-- Read an IPv4 address. -/
def octets? (s : List Char) : Option (List Nat × List Char) := do
  let (a, s) ← octet? s
  let (b, s) ← (expect? '.' s).bind octet?
  let (c, s) ← (expect? '.' s).bind octet?
  let (d, s) ← (expect? '.' s).bind octet?
  return ([a, b, c, d], s)

/-- Read one group of an IPv6 address, which has four digits at most. -/
def group? (s : List Char) : Option (Nat × List Char) :=
  let digits := s.takeWhile Text.Hex.isDigit
  if 4 < digits.length then none
  else (Text.Hex.read? digits).map fun n => (n, s.dropWhile Text.Hex.isDigit)

/-- The two groups of an embedded IPv4 address. -/
def embedded (octets : List Nat) : List Nat :=
  match octets with
  | [a, b, c, d] => [a * 256 + b, c * 256 + d]
  | _ => []

/-- Read up to `limit` groups, the last two perhaps as an IPv4 address, after
    which no more can follow. The first one follows at once, the others after
    a colon. -/
def groups (first : Bool) : Nat → List Char → List Nat × Bool × List Char
  | 0, s => ([], false, s)
  | limit + 1, s =>
    match if first then some s else expect? ':' s with
    | none => ([], false, s)
    | some t =>
      -- An embedded address takes two places, so there is none in the last.
      match if 1 ≤ limit then octets? t else none with
      | some (octets, rest) => (embedded octets, true, rest)
      | none => match group? t with
        | some (n, rest) =>
          let (more, ended, rest) := groups false limit rest
          (n :: more, ended, rest)
        | none => ([], false, s)

/-- Read an IPv6 address. -/
def address6? (s : List Char) : Option (List Nat × List Char) :=
  match groups true 8 s with
  | (head, ended, rest) =>
    if head.length = 8 then some (head, rest)
    -- Zeros cannot be left out behind an embedded address.
    else if ended then none
    else match rest with
      | ':' :: ':' :: rest =>
        -- At least one group has been left out.
        let (tail, _, rest) := groups true (7 - head.length) rest
        some (head ++ List.replicate (8 - head.length - tail.length) 0 ++ tail, rest)
      | _ => none

/-- Read a port after a colon, up to the end. -/
def port? (s : List Char) : Option Nat := do
  let (n, rest) ← (expect? ':' s).bind (number? 65535)
  if rest.isEmpty then some n else none

/-- Read the scope after a percent sign, if there is one. -/
def scope? : List Char → Option (Nat × List Char)
  | '%' :: s => number? (UInt32.size - 1) s
  | s => some (0, s)

/-- Read an address with an IPv4 address. -/
def readV4? (s : List Char) : Option SocketAddress := do
  let (octets, s) ← octets? s
  let port ← port? s
  return v4 octets port

/-- Read an address with an IPv6 address. -/
def readV6? (s : List Char) : Option SocketAddress := do
  let (groups, s) ← (expect? '[' s).bind address6?
  let (scope, s) ← scope? s
  let port ← (expect? ']' s).bind port?
  return v6 groups scope port

/-- Read an address. -/
def read? (s : List Char) : Option SocketAddress :=
  readV4? s <|> readV6? s

/-- Four numbers with points between them. -/
def renderOctets (octets : List Nat) : List Char :=
  ['.'].intercalate (octets.map digits)

/-- The hexadecimal digits of a group, without leading zeros. -/
def renderGroup (n : Nat) : List Char :=
  match (Text.Hex.padded 4 n).dropWhile (· == '0') with
  | [] => ['0']
  | ds => ds

/-- Some groups with colons between them. -/
def renderGroups (groups : List Nat) : List Char :=
  [':'].intercalate (groups.map renderGroup)

/-- The start and the length of the first longest run of zero groups, with the
    run that ends before the given groups and the best one so far. -/
def longestZeros (place start length : Nat) (best : Nat × Nat) : List Nat → Nat × Nat
  | [] => best
  | n :: groups =>
    if n = 0 then
      let start := if length = 0 then place else start
      -- A later run has to be longer to be the best.
      let best := if best.2 < length + 1 then (start, length + 1) else best
      longestZeros (place + 1) start (length + 1) best groups
    else longestZeros (place + 1) 0 0 best groups

/-- An IPv6 address without its longest run of zeros. -/
def renderAddress6 (groups : List Nat) : List Char :=
  match groups with
  | [0, 0, 0, 0, 0, 0xFFFF, a, b] =>
    "::ffff:".toList ++ renderOctets [a / 256, a % 256, b / 256, b % 256]
  | groups =>
    let (start, length) := longestZeros 0 0 0 (0, 0) groups
    if 1 < length then
      renderGroups (groups.take start) ++ ':' :: ':' :: renderGroups (groups.drop (start + length))
    else renderGroups groups

/-- The scope of an address, unless it is zero. -/
def renderScope (scope : Nat) : List Char :=
  if scope = 0 then [] else '%' :: digits scope

/-- Write an address. -/
def render : SocketAddress → List Char
  | v4 octets port => renderOctets octets ++ ':' :: digits port
  | v6 groups scope port =>
    '[' :: renderAddress6 groups ++ renderScope scope ++ ']' :: ':' :: digits port

end SocketAddress

end DocQuery
