import EventRelay.Json.Basic
import EventRelay.Json.Fault

/-!
# Numbers in a JSON text

An integer that 64 bits hold is exact. Every other number is a double made from the leading digits
that fit an unsigned word: the word is rounded to a double, and that is multiplied or divided by
the double nearest to the power of ten, so a number with many digits need not come out as the
nearest double. A number beyond the greatest double is a fault.

* `Json.numeral`: a number, from the character after the sign on.
-/

namespace EventRelay.Json

/-- The value of a decimal digit. -/
def digitOf? (c : Char) : Option Nat :=
  if '0' ≤ c ∧ c ≤ '9' then some (c.toNat - 48) else none

/-- Whether a text starts with a decimal digit. -/
def startsWithDigit : List Char → Bool
  | c :: _ => (digitOf? c).isSome
  | [] => false

/-- Takes digits as long as the number stays at most `limit`: the number, how many were taken and
the rest. -/
def takeDigits (limit : Nat) : Nat → Nat → List Char → Nat × Nat × List Char
  | n, taken, [] => (n, taken, [])
  | n, taken, c :: rest =>
    match digitOf? c with
    | some d =>
      if n * 10 + d ≤ limit then takeDigits limit (n * 10 + d) (taken + 1) rest
      else (n, taken, c :: rest)
    | none => (n, taken, c :: rest)

/-- Passes over digits: how many there were and the rest. -/
def skipDigits : Nat → List Char → Nat × List Char
  | count, c :: rest =>
    if (digitOf? c).isSome then skipDigits (count + 1) rest else (count, c :: rest)
  | count, [] => (count, [])

/-- The greatest unsigned word. -/
def maxWord : Nat := UInt64.size - 1

/-- The double `word * 10 ^ exponent`, made in one rounded step, or in two below 10^-308. -/
def scaled? (negative : Bool) (word : Nat) (exponent : Int) : Option Finite64 :=
  let f := Finite64.ofNat word
  let signed : Finite64 → Finite64 := fun x => if negative then x.neg else x
  if 308 < exponent then
    if word = 0 then some (Finite64.zero negative) else none
  else if 0 ≤ exponent then
    (f.mul? (Finite64.powerOfTen exponent.toNat)).map signed
  else if -308 ≤ exponent then
    (f.div? (Finite64.powerOfTen (-exponent).toNat)).map signed
  else if -616 ≤ exponent then
    ((f.div? (Finite64.powerOfTen 308)).bind
      (fun g => g.div? (Finite64.powerOfTen (-exponent - 308).toNat))).map signed
  else some (Finite64.zero negative)

/-- A double from its parts, or a fault where the number ends. -/
def double (negative : Bool) (word : Nat) (exponent : Int) (rest : List Char) :
    Except Fault (Number × List Char) :=
  match scaled? negative word exponent with
  | some x => .ok (.float x, rest)
  | none => .error (.here .numberOutOfRange rest)

/-- The digits of an exponent, from the second on; an exponent beyond a signed word of 32 bits
makes the number zero or a fault. -/
def exponentDigits (negative : Bool) (word : Nat) (start : Int) (up : Bool) :
    Nat → List Char → Except Fault (Number × List Char)
  | e, c :: rest =>
    match digitOf? c with
    | some d =>
      if e * 10 + d ≤ 2147483647 then exponentDigits negative word start up (e * 10 + d) rest
      else if word ≠ 0 ∧ up then .error (.here .numberOutOfRange rest)
      else .ok (.float (Finite64.zero negative), (skipDigits 0 rest).2)
    | none => double negative word (if up then start + e else start - e) (c :: rest)
  | e, [] => double negative word (if up then start + e else start - e) []

/-- An exponent, from the character after its letter on. -/
def exponentPart (negative : Bool) (word : Nat) (start : Int) (cs : List Char) :
    Except Fault (Number × List Char) :=
  let (up, rest) := match cs with
    | '+' :: rest => (true, rest)
    | '-' :: rest => (false, rest)
    | rest => (true, rest)
  match rest with
  | [] => .error (.here .endInValue [])
  | c :: more =>
    match digitOf? c with
    | some d => exponentDigits negative word start up d more
    | none => .error (.next .badNumber rest)

/-- What may follow the digits of a double: an exponent or nothing. -/
def afterDigits (negative : Bool) (word : Nat) (exponent : Int) (cs : List Char) :
    Except Fault (Number × List Char) :=
  match cs with
  | 'e' :: rest | 'E' :: rest => exponentPart negative word exponent rest
  | _ => double negative word exponent cs

/-- The digits after the point. Those that no longer fit the word are passed over. -/
def fraction (negative : Bool) (word : Nat) (before : Int) (cs : List Char) :
    Except Fault (Number × List Char) :=
  let (word, taken, rest) := takeDigits maxWord word 0 cs
  let exponent := before - taken
  if startsWithDigit rest then afterDigits negative word exponent (skipDigits 0 rest).2
  else if taken = 0 then
    if rest.isEmpty then .error (.here .endInValue []) else .error (.next .badNumber rest)
  else afterDigits negative word exponent rest

/-- An integer, when neither a point nor an exponent follows: exact within 64 bits, and minus zero
and what lies beyond are doubles. -/
def integer (negative : Bool) (word : Nat) : Number :=
  let i : Int := if negative then -word else word
  if negative ∧ word = 0 then .float (Finite64.zero true)
  else match Number.ofInt? i with
    | some n => n
    | none => .float (if negative then (Finite64.ofNat word).neg else Finite64.ofNat word)

/-- What may follow the whole digits that fit the word; digits that do not fit count as tens. -/
def afterWhole (negative : Bool) (word : Nat) (cs : List Char) :
    Except Fault (Number × List Char) :=
  let (dropped, rest) := skipDigits 0 cs
  match rest with
  | '.' :: more => fraction negative word dropped more
  | 'e' :: more | 'E' :: more => exponentPart negative word dropped more
  | _ =>
    if dropped = 0 then .ok (integer negative word, rest)
    else double negative word dropped rest

/-- A number, from the character after the sign on. -/
def numeral (negative : Bool) (cs : List Char) : Except Fault (Number × List Char) :=
  match cs with
  | [] => .error (.here .endInValue [])
  | '0' :: rest =>
    if startsWithDigit rest then .error (.next .badNumber rest)
    else afterWhole negative 0 rest
  | c :: rest =>
    match digitOf? c with
    | some d =>
      let (word, _, rest) := takeDigits maxWord d 0 rest
      afterWhole negative word rest
    | none => .error (.next .badNumber cs)

end EventRelay.Json
