/-!
# Double-precision numbers

A finite double is a sign, a whole significand below 2^53 and a power of two, kept in the one
canonical form that the format allows, so that two doubles are equal as data exactly when they
have the same bits. Every operation works on whole numbers and rounds once, to the nearest double
and to the even significand between two.

* `Finite64.sameValue`: equality of values, for which the two zeros are one.
* `Finite64.nearest?`: the double nearest to a quotient; none when it is out of range.
* `Finite64.mul?`, `Finite64.div?`: the rounded product and quotient.
-/

namespace EventRelay

/-- A finite double: `significand * 2 ^ scale / 2 ^ 1074`, negated if `negative`. -/
structure Finite64 where
  negative : Bool
  significand : Nat
  scale : Nat
  canonical : significand < Nat.pow 2 53 ∧ (scale = 0 ∨ Nat.pow 2 52 ≤ significand) ∧ scale ≤ 2045
  deriving DecidableEq, Repr

/-- A double: a finite one, an infinity or not a number. -/
inductive Binary64 where
  | finite (x : Finite64)
  | infinite (negative : Bool)
  | nan
  deriving DecidableEq, Repr

namespace Finite64

/-- Zero of either sign. -/
def zero (negative : Bool) : Finite64 := ⟨negative, 0, 0, by decide⟩

/-- Whether the value is zero. -/
def isZero (x : Finite64) : Bool := x.significand == 0

/-- Equality of values: the two zeros are equal, and otherwise equal doubles have equal parts. -/
def sameValue (x y : Finite64) : Bool :=
  (x.isZero && y.isZero) ||
    (x.negative == y.negative && x.significand == y.significand && x.scale == y.scale)

theorem sameValue_refl (x : Finite64) : x.sameValue x = true := by simp [sameValue]

theorem sameValue_comm (x y : Finite64) : x.sameValue y = y.sameValue x := by
  rw [Bool.eq_iff_iff]
  simp only [sameValue, Bool.or_eq_true, Bool.and_eq_true, beq_iff_eq]
  grind

/-- The double with the given parts, if they are in canonical form. -/
def ofParts? (negative : Bool) (significand scale : Nat) : Option Finite64 :=
  if h : significand < Nat.pow 2 53 ∧ (scale = 0 ∨ Nat.pow 2 52 ≤ significand) ∧ scale ≤ 2045 then
    some ⟨negative, significand, scale, h⟩
  else none

/-- A quotient rounded to the nearest whole number, to the even one of two. -/
def roundEven (num den : Nat) : Nat :=
  let q := num / den
  let r := num % den
  if 2 * r < den then q
  else if den < 2 * r then q + 1
  else q + q % 2

/-- The power of two by which a value in units of 2^-1074 exceeds 53 binary digits. -/
def excess (units : Nat) : Nat := units.log2 - 52

/-- The double nearest to `num / den`; none when it is beyond the greatest one. -/
def nearest? (negative : Bool) (num den : Nat) : Option Finite64 :=
  let scaled := num * Nat.pow 2 1074
  let scale := excess (scaled / den)
  let rounded := roundEven scaled (den * Nat.pow 2 scale)
  if rounded < Nat.pow 2 53 then ofParts? negative rounded scale
  else ofParts? negative (rounded / 2) (scale + 1)

/-- The value's size as a quotient of whole numbers. -/
def magnitude (x : Finite64) : Nat × Nat := (x.significand * Nat.pow 2 x.scale, Nat.pow 2 1074)

/-- The double nearest to a whole number below 2^1000. -/
def ofNat (n : Nat) : Finite64 := (nearest? false n 1).getD (zero false)

/-- The same size with the other sign. -/
def neg (x : Finite64) : Finite64 := { x with negative := !x.negative }

/-- The rounded product; none when it is out of range. -/
def mul? (x y : Finite64) : Option Finite64 :=
  nearest? (x.negative != y.negative) (x.magnitude.1 * y.magnitude.1)
    (x.magnitude.2 * y.magnitude.2)

/-- The rounded quotient; none when it is out of range or the divisor is zero. -/
def div? (x y : Finite64) : Option Finite64 :=
  if y.isZero then none
  else nearest? (x.negative != y.negative) x.magnitude.1 y.magnitude.1

/-- The double nearest to a power of ten. -/
def powerOfTen (n : Nat) : Finite64 := ofNat (Nat.pow 10 n)

/-- The double nearest to `digits * 10 ^ exponent`; none when it is out of range. Exponents so far
out that no digits make up for them are settled without the power. -/
def ofDecimal? (negative : Bool) (digits : Nat) (exponent : Int) : Option Finite64 :=
  if digits = 0 then some (zero negative)
  else if 400 < exponent then none
  else if exponent < -(400 + (Nat.log2 digits : Int)) then some (zero negative)
  else if 0 ≤ exponent then nearest? negative (digits * Nat.pow 10 exponent.toNat) 1
  else nearest? negative digits (Nat.pow 10 (-exponent).toNat)

end Finite64

/-- A double read from a decimal: out of range it is an infinity. -/
def Binary64.ofDecimal (negative : Bool) (digits : Nat) (exponent : Int) : Binary64 :=
  match Finite64.ofDecimal? negative digits exponent with
  | some x => .finite x
  | none => .infinite negative

end EventRelay
