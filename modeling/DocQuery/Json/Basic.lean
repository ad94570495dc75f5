import DocQuery.Number.Digits
import DocQuery.Number.Shortest
import DocQuery.Text.Hex

/-!
# JSON

JSON values and their compact text. Whole numbers and numbers with a fraction
or an exponent stay apart, since documents tell them apart. The members of an
object keep their order.

Strings escape what has to be escaped and nothing else: the quotation mark,
the backslash and the controls below the space, five of which have a short
form.

## Main definitions

* `Json`: A JSON value.
* `Json.insertField`: Give an object a member.
* `Json.render`: The compact text of a value.
-/

namespace DocQuery

open Number

/-- A JSON value. -/
inductive Json where
  | null
  | bool (b : Bool)
  | whole (n : Int)
  | real (x : Binary64)
  | string (s : String)
  | array (items : List Json)
  | object (fields : List (String × Json))
deriving Inhabited

namespace Json

/-- Give an object a member. A name that is there keeps its place and gets the
    new value. -/
def insertField : List (String × Json) → String → Json → List (String × Json)
  | [], name, value => [(name, value)]
  | (k, v) :: fields, name, value =>
    if k = name then (k, value) :: fields else (k, v) :: insertField fields name value

/-- The member of an object with a name. -/
def field? : List (String × Json) → String → Option Json
  | [], _ => none
  | (k, v) :: fields, name => if k = name then some v else field? fields name

/-- Numbers are written positionally while their first digit lies between the
    fifth place after the point and the sixteenth before it. -/
def layout : DecimalLayout := ⟨-5, 15⟩

/-- A character inside a string. -/
def escape (c : Char) : List Char :=
  if c = '"' then ['\\', '"']
  else if c = '\\' then ['\\', '\\']
  else if 0x20 ≤ c.toNat then [c]
  else match c.toNat with
    | 8 => ['\\', 'b']
    | 9 => ['\\', 't']
    | 10 => ['\\', 'n']
    | 12 => ['\\', 'f']
    | 13 => ['\\', 'r']
    | n => '\\' :: 'u' :: Text.Hex.padded 4 n

/-- A string in quotation marks. -/
def quote (s : String) : List Char :=
  '"' :: s.toList.flatMap escape ++ ['"']

mutual

/-- The compact text of a value. -/
def render : Json → List Char
  | null => ['n', 'u', 'l', 'l']
  | bool true => ['t', 'r', 'u', 'e']
  | bool false => ['f', 'a', 'l', 's', 'e']
  | whole n => text n
  | real x => layout.render x
  | string s => quote s
  | array [] => ['[', ']']
  | array (v :: items) => '[' :: render v ++ renderItems items
  | object [] => ['{', '}']
  | object ((k, v) :: fields) => '{' :: quote k ++ ':' :: render v ++ renderFields fields

/-- The items of an array after the first, and its end. -/
def renderItems : List Json → List Char
  | [] => [']']
  | v :: items => ',' :: render v ++ renderItems items

/-- The members of an object after the first, and its end. -/
def renderFields : List (String × Json) → List Char
  | [] => ['}']
  | (k, v) :: fields => ',' :: quote k ++ ':' :: render v ++ renderFields fields

end

end Json

end DocQuery
