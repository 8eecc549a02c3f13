import EventRelay.Decimal.Layout
import EventRelay.Json.Basic
import EventRelay.Text.Hex

/-!
# Compact JSON text

Values are written without blanks. Strings escape the quote, the backslash and the controls below
U+0020 and nothing else, so a written value never holds a line break. Doubles are written with the
fewest digits that read back.

* `Json.render`: the text of a value.
-/

namespace EventRelay.Json

/-- One character inside a string. -/
def escapeChar (c : Char) : List Char :=
  if c = '"' then ['\\', '"']
  else if c = '\\' then ['\\', '\\']
  else if c = '\x08' then ['\\', 'b']
  else if c = '\x0c' then ['\\', 'f']
  else if c = '\n' then ['\\', 'n']
  else if c = '\r' then ['\\', 'r']
  else if c = '\t' then ['\\', 't']
  else if c.toNat < 0x20 then ['\\', 'u'] ++ Text.Hex.padded 4 c.toNat
  else [c]

/-- A string in its quotes. -/
def stringText (s : String) : List Char := '"' :: s.toList.flatMap escapeChar ++ ['"']

/-- An integer in decimal digits. -/
def integerText (i : Int) : List Char :=
  if i < 0 then '-' :: Nat.toDigits 10 i.natAbs else Nat.toDigits 10 i.natAbs

/-- A number. -/
def Number.text : Number → List Char
  | .int i _ => integerText i
  | .float x => Layout.document.write x

mutual

/-- The characters of a value's text. -/
def write : Json → List Char
  | .null => ['n', 'u', 'l', 'l']
  | .bool true => ['t', 'r', 'u', 'e']
  | .bool false => ['f', 'a', 'l', 's', 'e']
  | .num n => n.text
  | .str s => stringText s
  | .arr [] => ['[', ']']
  | .arr (item :: items) => '[' :: write item ++ writeItems items
  | .obj [] => ['\x7b', '\x7d']
  | .obj ((name, value) :: members) =>
    '\x7b' :: stringText name ++ ':' :: write value ++ writeMembers members

/-- The items after the first, and the bracket that closes the array. -/
def writeItems : List Json → List Char
  | [] => [']']
  | item :: items => ',' :: write item ++ writeItems items

/-- The members after the first, and the brace that closes the object. -/
def writeMembers : List (String × Json) → List Char
  | [] => ['\x7d']
  | (name, value) :: members =>
    ',' :: stringText name ++ ':' :: write value ++ writeMembers members

end

/-- The text of a value. -/
def render (j : Json) : String := String.ofList j.write

/-- The text of an object with the given members, in ascending order of their names. -/
def renderMembers (members : List (String × Json)) : String := (ofMembers members).render

end EventRelay.Json
