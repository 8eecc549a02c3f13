import EventRelay.Decimal.Reader
import EventRelay.Entries
import EventRelay.Settings.Node
import EventRelay.Text.Blank
import EventRelay.Text.Hex
import EventRelay.Text.Number
import EventRelay.Text.Utf8

/-!
# The values of environment variables

The text of a variable is a truth value, a quoted string, one character in single quotes, a list,
a table or bare text. Bare text is a double when it has a point and reads as one, a number when it
reads as one, and else a string. A text that is none of these as a whole is a string as it stands.

* `Variable.parse`: the value of a text.
-/

namespace EventRelay.Variable

/-- Passes over the blanks of ASCII. -/
def skipBlanks (cs : List Char) : List Char :=
  cs.dropWhile (fun c => c = ' ' || c = '\t' || c = '\n' || c = '\x0c' || c = '\r')

/-- Whether a character stands for itself between double quotes. -/
def isPlain (c : Char) : Bool := c = '\t' || (32 ≤ c.toNat && c.toNat ≠ 127)

/-- The value of a code point, unless it is a surrogate or beyond the last one. -/
def codePoint? (n : Nat) : Option Char :=
  if n < 0xD800 ∨ (0xE000 ≤ n ∧ n < 0x110000) then some (Char.ofNat n) else none

/-- The number that hexadecimal digits make. -/
def hexNumber? (cs : List Char) : Option Nat :=
  cs.foldl (fun acc c => acc.bind (fun n => (Text.Hex.digitValue? c).map (16 * n + ·))) (some 0)

/-- The character that a letter after a backslash stands for. -/
def escape? (c : Char) : Option Char :=
  if c = 'b' then some '\x08'
  else if c = 't' then some '\t'
  else if c = 'n' then some '\n'
  else if c = 'f' then some '\x0c'
  else if c = 'r' then some '\r'
  else if c = '"' ∨ c = '\\' then some c
  else none

/-- A string from a place between its quotes on, and the rest; what stands before it is given in
reverse. -/
def quotedFrom (done : List Char) : List Char → Option (String × List Char)
  | '"' :: rest => some (String.ofList done.reverse, rest)
  | '\\' :: 'u' :: a :: b :: c :: d :: rest => do
    let n ← hexNumber? [a, b, c, d]
    let ch ← codePoint? n
    quotedFrom (ch :: done) rest
  | '\\' :: 'U' :: a :: b :: c :: d :: e :: f :: g :: h :: rest => do
    let n ← hexNumber? [a, b, c, d, e, f, g, h]
    let ch ← codePoint? n
    quotedFrom (ch :: done) rest
  | '\\' :: c :: rest => do
    let ch ← escape? c
    quotedFrom (ch :: done) rest
  | c :: rest => if isPlain c && c ≠ '\\' then quotedFrom (c :: done) rest else none
  | [] => none

/-- A string from the character after its first quote on, and the rest. What stands before the first
escape is cut down to as many bytes as it has characters. -/
def quoted? (cs : List Char) : Option (String × List Char) :=
  let before := cs.takeWhile (fun c => isPlain c && c ≠ '\\' && c ≠ '"')
  let rest := cs.drop before.length
  if rest.head? = some '\\' then quotedFrom (Text.fitting before.length before).reverse rest
  else quotedFrom before.reverse rest

/-- Whether a character divides the values of a list or a table. -/
def isDivider (c : Char) : Bool := c = ',' || c = '\x7b' || c = '\x7d' || c = '[' || c = ']'

/-- Whether a character may stand in a name without quotes. -/
def isNameChar (c : Char) : Bool := c.isAlphanum || c = '_' || c = '-'

/-- The value of a number with a sign, if a signed word holds it. -/
def signed? (cs : List Char) : Option Int :=
  match cs with
  | '-' :: digits =>
    (Text.digits? digits).bind (fun n => if n ≤ UInt64.size / 2 then some (-(n : Int)) else none)
  | _ => (Text.decimal? cs).bind (fun n => if n < UInt64.size / 2 then some (n : Int) else none)

/-- The value of bare text. -/
def bare (cs : List Char) : Scalar :=
  let cs := Text.trim cs
  let whole : Scalar :=
    match Text.word? cs with
    | some n => .unsigned (.ofNat n)
    | none => match signed? cs with
      | some i => .signed (.ofInt i)
      | none => .text (String.ofList cs)
  if cs.contains '.' then
    match Binary64.parse? cs with
    | some x => .double x
    | none => whole
  else whole

/-- A scalar of an environment variable. -/
def leaf (value : Scalar) : Node := .scalar .environment value

/-- The name of an entry, between blanks and before its equals sign, and the rest. -/
def name? (cs : List Char) : Option (String × List Char) :=
  let cs := skipBlanks cs
  let named := match cs with
    | '"' :: rest => quoted? rest
    | _ =>
      if (cs.takeWhile isNameChar).isEmpty then none
      else some (String.ofList (cs.takeWhile isNameChar), cs.dropWhile isNameChar)
  named.bind (fun (name, rest) =>
    match skipBlanks rest with
    | '=' :: rest => some (name, rest)
    | _ => none)

mutual

/-- A value between blanks, and the rest. Each call spends a unit of fuel, of which the caller
gives two for every character. -/
def value? : Nat → List Char → Option (Node × List Char)
  | 0, _ => none
  | fuel + 1, cs =>
    match skipBlanks cs with
    | 't' :: 'r' :: 'u' :: 'e' :: rest => some (leaf (.bool true), skipBlanks rest)
    | 'f' :: 'a' :: 'l' :: 's' :: 'e' :: rest => some (leaf (.bool false), skipBlanks rest)
    | '\x7b' :: rest =>
      (entries? fuel [] rest).map (fun r => (.table .environment r.1, skipBlanks r.2))
    | '[' :: rest =>
      (items? fuel [] rest).map (fun r => (.list .environment r.1, skipBlanks r.2))
    | '"' :: rest => (quoted? rest).map (fun r => (leaf (.text r.1), skipBlanks r.2))
    | '\x27' :: rest =>
      match rest with
      | c :: '\x27' :: rest => some (leaf (.text (String.ofList [c])), skipBlanks rest)
      | _ => none
    | cs =>
      some (leaf (bare (cs.takeWhile (fun c => !isDivider c))),
        skipBlanks (cs.dropWhile (fun c => !isDivider c)))

/-- The items of a list up to its bracket, given those before in reverse. -/
def items? : Nat → List Node → List Char → Option (List Node × List Char)
  | 0, _, _ => none
  | _ + 1, done, ']' :: rest => some (done.reverse, rest)
  | fuel + 1, done, cs => do
    let (item, rest) ← value? fuel cs
    match rest with
    | ',' :: rest => items? fuel (item :: done) rest
    | ']' :: rest => some ((item :: done).reverse, rest)
    | _ => none

/-- The entries of a table up to its brace, given the table of those before. -/
def entries? : Nat → Entries Node → List Char → Option (List (String × Node) × List Char)
  | 0, _, _ => none
  | _ + 1, done, '\x7d' :: rest => some (done, rest)
  | fuel + 1, done, cs => do
    let (name, rest) ← name? cs
    let (item, rest) ← value? fuel rest
    match rest with
    | ',' :: rest => entries? fuel (done.insert name item) rest
    | '\x7d' :: rest => some (done.insert name item, rest)
    | _ => none

end

/-- The value of a text. -/
def parse (text : String) : Node :=
  let cs := text.toList
  match value? (2 * cs.length + 2) cs with
  | some (node, []) => node
  | _ => leaf (.text text)

end EventRelay.Variable
