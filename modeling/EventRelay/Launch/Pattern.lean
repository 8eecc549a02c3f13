import EventRelay.Text.Hex
import EventRelay.Unicode.Letter

/-!
# Patterns of values

A pattern is made of characters, of sets of characters in brackets and of groups in parentheses,
with alternatives between bars; what can be matched can be repeated. Counted repetition, references
back to a group and the bounds of words are no part of a pattern.

* `Pattern.isPattern`: whether a text is a pattern.
* `isPattern_of_all_isPlain`: a text without marks is one.
-/

namespace EventRelay.Pattern

/-- What a character after a backslash stands for: a character, a set of them, or a place in the
text. -/
inductive Escape where
  | char (c : Char)
  | set
  | place
  deriving DecidableEq, Repr

/-- The character of a given count of hexadecimal digits. -/
def numbered? (count : Nat) (cs : List Char) : Option (Escape × List Char) := do
  let digits ← (cs.take count).mapM Text.Hex.digitValue?
  let n := digits.foldl (fun n d => 16 * n + d) 0
  if digits.length = count ∧ n.isValidChar then some (.char (Char.ofNat n), cs.drop count) else none

/-- An escape, from the character after the backslash on. -/
def escape? : List Char → Option (Escape × List Char)
  | [] => none
  | 'x' :: rest => numbered? 2 rest
  | 'u' :: rest => numbered? 4 rest
  | 'U' :: rest => numbered? 8 rest
  | 'a' :: rest => some (.char '\x07', rest)
  | 'f' :: rest => some (.char '\x0c', rest)
  | 'n' :: rest => some (.char '\n', rest)
  | 'r' :: rest => some (.char '\r', rest)
  | 't' :: rest => some (.char '\t', rest)
  | 'v' :: rest => some (.char '\x0b', rest)
  | 'A' :: rest | 'z' :: rest => some (.place, rest)
  | 'd' :: rest | 'D' :: rest | 's' :: rest | 'S' :: rest | 'w' :: rest | 'W' :: rest =>
    some (.set, rest)
  | 'p' :: c :: rest | 'P' :: c :: rest =>
    if "CLMNPSZclmnpsz".toList.contains c then some (.set, rest) else none
  | c :: rest =>
    if c.toNat < 128 && !c.isAlphanum && c != '<' && c != '>' then some (.char c, rest) else none

/-! ## Sets -/

/-- The names of sets. -/
def setNames : List String :=
  ["alnum", "alpha", "ascii", "blank", "cntrl", "digit", "graph", "lower", "print", "punct",
    "space", "upper", "word", "xdigit"]

/-- The rest after a named set, from the character after its bracket on. -/
def namedSet? : List Char → Option (List Char)
  | ':' :: rest =>
    let rest := if rest.head? = some '^' then rest.drop 1 else rest
    let name := String.ofList (rest.takeWhile (· ≠ ':'))
    match rest.dropWhile (· ≠ ':') with
    | ':' :: ']' :: rest => if setNames.contains name then some rest else none
    | _ => none
  | _ => none

/-- The rest after the marks with which a set may begin: a bracket that closes is a character where
it comes first. -/
def setStart (cs : List Char) : List Char :=
  let cs := if cs.head? = some '^' then cs.drop 1 else cs
  match cs with
  | ']' :: rest => rest
  | _ => cs.dropWhile (· = '-')

/-- A member of a set or the end of a range. -/
def member? : List Char → Option (Escape × List Char)
  | [] => none
  | '\\' :: rest => escape? rest
  | c :: rest => some (.char c, rest)

/-- The rest after the end of a range that begins with a given member. -/
def rangeEnd? (first : Escape) (cs : List Char) : Option (List Char) :=
  match first, member? cs with
  | .char low, some (.char high, rest) => if low ≤ high then some rest else none
  | _, _ => none

/-- The rest after a member of a set or a range of them. -/
def span? (cs : List Char) : Option (List Char) := do
  let (first, rest) ← member? cs
  match rest with
  | '-' :: '-' :: _ | '-' :: ']' :: _ => if first = .place then none else some rest
  | '-' :: more => rangeEnd? first more
  | _ => if first = .place then none else some rest

/-- The rest after the bracket that closes a set, given how many sets are open beside it. -/
def setEnd? : Nat → Nat → List Char → Option (List Char)
  | 0, _, _ | _, _, [] => none
  | fuel + 1, depth, '[' :: rest =>
    match namedSet? rest with
    | some rest => setEnd? fuel depth rest
    | none => setEnd? fuel (depth + 1) (setStart rest)
  | fuel + 1, depth, ']' :: rest => if depth = 0 then some rest else setEnd? fuel (depth - 1) rest
  | fuel + 1, depth, '&' :: '&' :: rest | fuel + 1, depth, '-' :: '-' :: rest
  | fuel + 1, depth, '~' :: '~' :: rest => setEnd? fuel depth rest
  | fuel + 1, depth, cs => (span? cs).bind (setEnd? fuel depth)

/-! ## Groups -/

/-- Whether a text can name a group. -/
def isGroupName : List Char → Bool
  | [] => false
  | c :: rest =>
    (c = '_' || (Unicode.isLetterOrNumber c && !c.isDigit)) &&
      rest.all (fun c => "_.[]".toList.contains c || Unicode.isLetterOrNumber c)

/-- Whether a text switches options on or, after a hyphen, off. -/
def areOptions (cs : List Char) : Bool :=
  cs.all "imsUuRx-".toList.contains && decide cs.Nodup && cs.getLast? != some '-'

/-- How a parenthesis opens: a group with a name or without one, or options for what follows. -/
inductive Opening where
  | group (name : Option String)
  | options
  deriving DecidableEq, Repr

/-- A named group, from its name on. -/
def namedGroup? (cs : List Char) : Option (Opening × List Char) :=
  let name := cs.takeWhile (· ≠ '>')
  match cs.dropWhile (· ≠ '>') with
  | '>' :: rest => if isGroupName name then some (.group (String.ofList name), rest) else none
  | _ => none

/-- What opens, from the character after the parenthesis on. -/
def opening? : List Char → Option (Opening × List Char)
  | '?' :: 'P' :: '<' :: rest | '?' :: '<' :: rest => namedGroup? rest
  | '?' :: rest =>
    let isEnd := fun c => c = ':' || c = ')'
    let options := rest.takeWhile (!isEnd ·)
    if areOptions options then
      match rest.dropWhile (!isEnd ·) with
      | ':' :: rest => some (.group none, rest)
      | ')' :: rest => if options.isEmpty then none else some (.options, rest)
      | _ => none
    else none
  | rest => some (.group none, rest)

/-! ## Patterns -/

/-- Whether the rest of a pattern is one, given how many groups are open, the names of groups so
far, and whether what came last can be repeated. Each character spends a unit of fuel. -/
def continues : Nat → Nat → List String → Bool → List Char → Bool
  | _, depth, _, _, [] => depth = 0
  | 0, _, _, _, _ => false
  | fuel + 1, depth, names, ready, c :: rest =>
    if c = '(' then
      match opening? rest with
      | some (.options, rest) => continues fuel depth names false rest
      | some (.group none, rest) => continues fuel (depth + 1) names false rest
      | some (.group (some name), rest) =>
        !names.contains name && continues fuel (depth + 1) (name :: names) false rest
      | none => false
    else if c = ')' then 0 < depth && continues fuel (depth - 1) names true rest
    else if c = '|' then continues fuel depth names false rest
    else if c = '?' || c = '*' || c = '+' then
      ready && continues fuel depth names true
        (if rest.head? = some '?' then rest.drop 1 else rest)
    else if c = '\x7b' then false
    else if c = '[' then
      match setEnd? fuel 0 (setStart rest) with
      | some rest => continues fuel depth names true rest
      | none => false
    else if c = '\\' then
      match escape? rest with
      | some (_, rest) => continues fuel depth names true rest
      | none => false
    else continues fuel depth names true rest

/-- Whether a text is a pattern. -/
def isPattern (cs : List Char) : Bool := continues cs.length 0 [] false cs

/-- Whether a character is no mark. -/
def isPlain (c : Char) : Bool := !"()|?*+\x7b[\\".toList.contains c

theorem continues_of_all_isPlain {cs : List Char} (h : cs.all isPlain = true) (ready : Bool) :
    continues cs.length 0 [] ready cs = true := by
  induction cs generalizing ready with
  | nil => simp [continues]
  | cons c rest ih =>
    simp only [List.all_cons, Bool.and_eq_true] at h
    have hc := h.1
    simp only [isPlain, String.reduceToList, List.contains_cons, List.contains_nil] at hc
    simp_all [continues]

/-- A text without marks is a pattern. -/
theorem isPattern_of_all_isPlain {cs : List Char} (h : cs.all isPlain = true) :
    isPattern cs = true := continues_of_all_isPlain h false

end EventRelay.Pattern
