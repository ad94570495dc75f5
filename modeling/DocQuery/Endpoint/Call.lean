import DocQuery.Text.Cut
import DocQuery.Text.Utf8

/-!
# Calls

A call is a method and the path and query that a URI leads to. A URI may be a
path, an asterisk, a host alone, or a scheme, a host and a path. What follows
a number sign does not count, and nothing is decoded.

A host may have a user in front of an at sign, an address in brackets, and a
port. It is checked for its form only.

## Main definitions

* `Target`: A path and a query.
* `Target.ofUri?`: Where a URI leads.
* `Call`: A method and a target.
* `Call.read?`: The call that a method and a URI make.
-/

namespace DocQuery

/-- A path and a query. -/
structure Target where
  path : List Char
  query : Option (List Char) := none
deriving DecidableEq

namespace Target

/-- Can this character stand in a path? -/
def inPath (c : Char) : Bool :=
  let n := c.toNat
  n == 0x21 || (0x24 ≤ n && n ≤ 0x3B) || n == 0x3D || (0x40 ≤ n && n ≤ 0x5F) ||
    (0x61 ≤ n && n ≤ 0x7A) || n == 0x7C || 0x7E ≤ n || n == 0x22 || n == 0x7B || n == 0x7D

/-- Can this character stand in a query? -/
def inQuery (c : Char) : Bool :=
  let n := c.toNat
  n == 0x21 || (0x24 ≤ n && n ≤ 0x3B) || n == 0x3D || 0x3F ≤ n

/-- A path with characters that can stand there. An empty path stands for the
    root. -/
def checked? (path : List Char) (query : Option (List Char)) : Option Target :=
  if path.all inPath && (query.getD []).all inQuery then
    some ⟨if path.isEmpty then ['/'] else path, query⟩
  else none

/-- The path and the query of a text, up to a number sign. -/
def ofPath? (s : List Char) : Option Target :=
  let s := s.takeWhile (· != '#')
  match Text.cut? (· == '?') s with
  | some (path, query) => checked? path (some query)
  | none => checked? s none

/-- Can this character stand in a host, apart from the colon, the brackets and
    the at sign? -/
def inHost (c : Char) : Bool :=
  c.isAlphanum ||
    ['!', '$', '&', '\'', '(', ')', '*', '+', ',', '-', '.', ';', '=', '_', '~'].contains c

/-- What has been seen of a host: the colons since the user or the address,
    the brackets, a percent sign since then, and whether the last character was
    an at sign. -/
structure HostScan where
  colons : Nat := 0
  opened : Bool := false
  closed : Bool := false
  percent : Bool := false
  atEnd : Bool := false

/-- See one more character of a host. -/
def HostScan.step? (scan : HostScan) (c : Char) : Option HostScan :=
  let scan := { scan with atEnd := false }
  if c = ':' then
    -- An address in brackets has up to eight colons, which its closing bracket takes back.
    if 8 ≤ scan.colons then none else some { scan with colons := scan.colons + 1 }
  else if c = '[' then
    if scan.percent || scan.opened then none else some { scan with opened := true }
  else if c = ']' then
    if !scan.opened || scan.closed then none
    else some { scan with closed := true, colons := 0, percent := false }
  else if c = '@' then some { scan with colons := 0, percent := false, atEnd := true }
  else if c = '%' then some { scan with percent := true }
  else if inHost c then some scan
  else none

/-- Is this the form of a host? -/
def isHost (s : List Char) : Bool :=
  match s.foldlM HostScan.step? {} with
  | some scan => scan.opened == scan.closed && scan.colons ≤ 1 && !scan.percent && !scan.atEnd
  | none => false

/-- Does this character end a host? -/
def endsHost (c : Char) : Bool :=
  c == '/' || c == '?' || c == '#'

/-- Can this character stand in the name of a scheme? -/
def inScheme (c : Char) : Bool :=
  c.isAlphanum || c == '+' || c == '-' || c == '.' || c == '~'

/-- The scheme of a URI and what follows it. -/
def scheme? (s : List Char) : Option (List Char × List Char) :=
  match s.takeWhile inScheme, s.dropWhile inScheme with
  | name, ':' :: '/' :: '/' :: rest => some (name, rest)
  | _, _ => none

/-- Where a URI with a scheme leads, from after the scheme. -/
def ofAbsolute? (s : List Char) : Option Target :=
  let host := s.takeWhile fun c => !endsHost c
  if host.isEmpty || !isHost host then none else ofPath? (s.dropWhile fun c => !endsHost c)

/-- The longest URI, in bytes. -/
def maxUriLength : Nat := 65534

/-- The longest name of a scheme. -/
def maxSchemeLength : Nat := 64

/-- Where a URI leads. -/
def ofUri? (s : List Char) : Option Target :=
  if maxUriLength < (Text.Utf8.encode s).length then none
  else match s with
    | [] => none
    | ['*'] => some ⟨['*'], none⟩
    | '/' :: _ => ofPath? s
    -- Everything else is a host, alone or with a scheme in front and a path behind.
    | s => match scheme? s with
      | some (name, rest) => if maxSchemeLength < name.length then none else ofAbsolute? rest
      | none => if isHost s then some ⟨[], none⟩ else none

end Target

/-- A method and a target. -/
structure Call where
  method : List Char
  target : Target
deriving DecidableEq

namespace Call

/-- Can this character stand in the name of a method? -/
def inMethod (c : Char) : Bool :=
  c.isAlphanum ||
    ['!', '#', '$', '%', '&', '\'', '*', '+', '-', '.', '^', '_', '\x60', '|', '~'].contains c

/-- The call that a method and a URI make. -/
def read? (method uri : List Char) : Option Call :=
  if method.isEmpty || !method.all inMethod then none
  else (Target.ofUri? uri).map fun target => ⟨method, target⟩

end Call

end DocQuery
