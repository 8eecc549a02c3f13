import EventRelay.Json.Literal
import EventRelay.Json.Numeral
import EventRelay.Json.Printer
import EventRelay.Text.Quoted

/-!
# Reading JSON text

The first fault, in reading order, refuses a text. Of two members with one name the later wins.
Arrays and objects are nested at most 127 deep.

* `Json.parse`: the value of a text.
* `Json.parseObject`: the members of a text whose value has to be an object.
-/

namespace EventRelay.Json

/-- How many arrays and objects may enclose one another. -/
def maxNesting : Nat := 127

/-- Whether a character may stand between the parts of a text. -/
def isBetween (c : Char) : Bool := c = ' ' || c = '\n' || c = '\t' || c = '\r'

/-- Passes over the blanks between the parts of a text. -/
def skipBetween (cs : List Char) : List Char := cs.dropWhile isBetween

/-- The rest of a word whose first letter was read. -/
def word : List Char → List Char → Except Fault (List Char)
  | [], cs => .ok cs
  | _ :: _, [] => .error (.here .endInValue [])
  | expected :: more, c :: rest =>
    if c = expected then word more rest else .error (.next .wordExpected (c :: rest))

/-- Where the next item of an array starts, after a comma or right after the bracket; none at the
closing bracket. -/
def itemStart (first : Bool) (cs : List Char) : Except Fault (Option (List Char)) :=
  match skipBetween cs with
  | [] => .error (.here .endInList [])
  | ']' :: _ => .ok none
  | ',' :: rest =>
    if first then .ok (some (',' :: rest))
    else match skipBetween rest with
      | [] => .error (.here .endInValue [])
      | ']' :: more => .error (.next .trailingComma (']' :: more))
      | start => .ok (some start)
  | start => if first then .ok (some start) else .error (.next .commaOrBracketExpected start)

/-- The text after the quote that opens the next member's name; none at the closing brace. -/
def memberStart (first : Bool) (cs : List Char) : Except Fault (Option (List Char)) :=
  match skipBetween cs with
  | [] => .error (.here .endInObject [])
  | '\x7d' :: _ => .ok none
  | ',' :: rest =>
    if first then .error (.next .keyNotString (',' :: rest))
    else match skipBetween rest with
      | [] => .error (.here .endInValue [])
      | '"' :: name => .ok (some name)
      | '\x7d' :: more => .error (.next .trailingComma ('\x7d' :: more))
      | start => .error (.next .keyNotString start)
  | '"' :: name =>
    if first then .ok (some name) else .error (.next .commaOrBraceExpected ('"' :: name))
  | start =>
    if first then .error (.next .keyNotString start)
    else .error (.next .commaOrBraceExpected start)

/-- The text after the colon between a name and its value. -/
def afterColon (cs : List Char) : Except Fault (List Char) :=
  match skipBetween cs with
  | [] => .error (.here .endInObject [])
  | ':' :: rest => .ok rest
  | rest => .error (.next .colonExpected rest)

mutual

/-- A value, given how much deeper it may nest. Each call spends a unit of fuel, of which the
callers give two for every character. -/
def value : Nat → Nat → List Char → Except Fault (Json × List Char)
  | 0, _, cs => .error (.here .valueExpected cs)
  | fuel + 1, depth, cs =>
    match skipBetween cs with
    | [] => .error (.here .endInValue [])
    | 'n' :: rest => (word ['u', 'l', 'l'] rest).map (fun r => (.null, r))
    | 't' :: rest => (word ['r', 'u', 'e'] rest).map (fun r => (.bool true, r))
    | 'f' :: rest => (word ['a', 'l', 's', 'e'] rest).map (fun r => (.bool false, r))
    | '-' :: rest => (numeral true rest).map (fun r => (.num r.1, r.2))
    | '"' :: rest => (literal rest).map (fun r => (.str r.1, r.2))
    | '[' :: rest =>
      match depth with
      | 0 => .error (.next .tooDeep ('[' :: rest))
      | depth + 1 => (items fuel depth true [] rest).map (fun r => (.arr r.1, r.2))
    | '\x7b' :: rest =>
      match depth with
      | 0 => .error (.next .tooDeep ('\x7b' :: rest))
      | depth + 1 => (members fuel depth true [] rest).map (fun r => (.obj r.1, r.2))
    | c :: rest =>
      if (digitOf? c).isSome then (numeral false (c :: rest)).map (fun r => (.num r.1, r.2))
      else .error (.next .valueExpected (c :: rest))

/-- The items of an array up to its bracket, given those before in reverse. -/
def items : Nat → Nat → Bool → List Json → List Char → Except Fault (List Json × List Char)
  | 0, _, _, _, cs => .error (.here .endInList cs)
  | fuel + 1, depth, first, done, cs =>
    match itemStart first cs with
    | .error fault => .error fault
    | .ok none => .ok (done.reverse, (skipBetween cs).drop 1)
    | .ok (some start) =>
      match value fuel depth start with
      | .error fault => .error fault
      | .ok (item, rest) => items fuel depth false (item :: done) rest

/-- The members of an object up to its brace, given the table of those before. -/
def members : Nat → Nat → Bool → Entries Json → List Char →
    Except Fault (List (String × Json) × List Char)
  | 0, _, _, _, cs => .error (.here .endInObject cs)
  | fuel + 1, depth, first, done, cs =>
    match memberStart first cs with
    | .error fault => .error fault
    | .ok none => .ok (done, (skipBetween cs).drop 1)
    | .ok (some name) =>
      match literal name with
      | .error fault => .error fault
      | .ok (name, rest) =>
        match afterColon rest with
        | .error fault => .error fault
        | .ok rest =>
          match value fuel depth rest with
          | .error fault => .error fault
          | .ok (item, rest) => members fuel depth false (done.insert name item) rest

end

/-- Fuel enough for a text of the given length. -/
def fuelFor (cs : List Char) : Nat := 2 * cs.length + 2

/-- Nothing but blanks may follow the value. -/
def ended {α : Type} (result : α) (rest : List Char) : Except Fault α :=
  match skipBetween rest with
  | [] => .ok result
  | more => .error (.next .trailingCharacters more)

/-- The value of a text. -/
def parseChars (cs : List Char) : Except Fault Json := do
  let (j, rest) ← value (fuelFor cs) maxNesting cs
  ended j rest

/-- The value of a text. -/
def parse (text : String) : Except Fault Json := parseChars text.toList

/-- The value of a text, without the reason why there is none. -/
def parse? (text : String) : Option Json := (parse text).toOption

/-- What the text of another value than an object shows of it. -/
def shapeText : Json → String
  | .null => "null"
  | .bool b => "boolean `" ++ (if b then "true" else "false") ++ "`"
  | .num (.int i fits) => "integer `" ++ String.ofList (Number.int i fits).text ++ "`"
  | .num (.float x) => "floating point `" ++ String.ofList (Number.float x).text ++ "`"
  | .str s => "string " ++ Text.quote s
  | .arr _ => "sequence"
  | .obj _ => "map"

/-- The members of a text whose value has to be an object. Another value is refused when its
shape is known: an array at its bracket, any other value after its last character. -/
def parseObject (text : String) : Except Fault (List (String × Json)) :=
  let cs := text.toList
  let otherShape (j : Json) (rest : List Char) : Fault :=
    .here (.otherShape (shapeText j) "a map") rest
  match skipBetween cs with
  | '[' :: rest => .error (otherShape (.arr []) ('[' :: rest))
  | _ =>
    match value (fuelFor cs) maxNesting cs with
    | .error fault => .error fault
    | .ok (.obj members, rest) => ended members rest
    | .ok (j, rest) => .error (otherShape j rest)

end EventRelay.Json
