import EventRelay.Decimal.Binary64

/-!
# Reading a decimal

A decimal is digits with at most one point among them, after an optional sign and before an
optional exponent; at least one digit stands beside the point. It is read as the nearest double.
The words for an infinity and for what is no number are read in any case.

* `Binary64.parse?`: the double of a text.
* `Binary64.parseSingle?`: the same, rounded to single precision.
-/

namespace EventRelay

/-- A decimal taken apart: `digits * 10 ^ exponent`, negated if `negative`. -/
structure SignedDecimal where
  negative : Bool
  digits : Nat
  exponent : Int
  deriving DecidableEq, Repr

namespace SignedDecimal

/-- The leading digits of a text appended to a number: the number, how many there were and the
rest. -/
def digitsOnto : Nat → Nat → List Char → Nat × Nat × List Char
  | n, count, c :: rest =>
    if '0' ≤ c ∧ c ≤ '9' then digitsOnto (10 * n + (c.toNat - 48)) (count + 1) rest
    else (n, count, c :: rest)
  | n, count, [] => (n, count, [])

/-- The sign in front of a text. -/
def sign : List Char → Bool × List Char
  | '+' :: rest => (false, rest)
  | '-' :: rest => (true, rest)
  | rest => (false, rest)

/-- The exponent that ends a text; zero when nothing is left. -/
def exponent? : List Char → Option Int
  | [] => some 0
  | c :: rest =>
    if c = 'e' ∨ c = 'E' then
      let (negative, rest) := sign rest
      let (n, count, rest) := digitsOnto 0 0 rest
      if count = 0 ∨ rest ≠ [] then none
      else some (if negative then -(n : Int) else n)
    else none

/-- A decimal taken apart. -/
def parse? (cs : List Char) : Option SignedDecimal :=
  let (negative, cs) := sign cs
  let (whole, wholeCount, rest) := digitsOnto 0 0 cs
  let (digits, places, rest) := match rest with
    | '.' :: more => digitsOnto whole 0 more
    | more => (whole, 0, more)
  if wholeCount + places = 0 then none
  else (exponent? rest).map (fun e => ⟨negative, digits, e - places⟩)

end SignedDecimal

namespace Binary64

/-- The words for doubles that are not finite. -/
def word? (cs : List Char) : Option Binary64 :=
  let (negative, cs) := SignedDecimal.sign cs
  let lower := String.ofList (cs.map Char.toLower)
  if lower = "inf" ∨ lower = "infinity" then some (.infinite negative)
  else if lower = "nan" then some .nan
  else none

/-- The double of a text. -/
def parse? (cs : List Char) : Option Binary64 :=
  match SignedDecimal.parse? cs with
  | some d => some (.ofDecimal d.negative d.digits d.exponent)
  | none => word? cs

/-- The double equal to the single-precision number nearest to a quotient. -/
def nearestSingle (negative : Bool) (num den : Nat) : Binary64 :=
  let scaled := num * Nat.pow 2 149
  let scale := (scaled / den).log2 - 23
  let rounded := Finite64.roundEven scaled (den * Nat.pow 2 scale)
  if Nat.pow 2 277 ≤ rounded * Nat.pow 2 scale then .infinite negative
  else match Finite64.nearest? negative (rounded * Nat.pow 2 scale) (Nat.pow 2 149) with
    | some x => .finite x
    | none => .infinite negative

/-- The double equal to the single-precision number of a text. -/
def parseSingle? (cs : List Char) : Option Binary64 :=
  match SignedDecimal.parse? cs with
  | some d =>
    if d.digits = 0 then some (.finite (.zero d.negative))
    else if 100 < d.exponent then some (.infinite d.negative)
    else if d.exponent < -(100 + (Nat.log2 d.digits : Int)) then some (.finite (.zero d.negative))
    else if 0 ≤ d.exponent then
      some (nearestSingle d.negative (d.digits * Nat.pow 10 d.exponent.toNat) 1)
    else some (nearestSingle d.negative d.digits (Nat.pow 10 (-d.exponent).toNat))
  | none => word? cs

end Binary64
end EventRelay
