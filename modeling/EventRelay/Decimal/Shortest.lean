import EventRelay.Decimal.Binary64

/-!
# The shortest decimal of a double

The fewest digits that read back as the double, and of those the decimal nearest to it. A decimal
reads back as a double when it lies between the points half way to the two neighbours; the points
themselves do exactly when the significand is even. All comparisons are of whole numbers, in
units of `1 / (2 ^ 1076 * 10 ^ 340)`.

* `Finite64.shortest`: the digits and the power of ten.
-/

namespace EventRelay

/-- A decimal `digits * 10 ^ exponent`. -/
structure Decimal where
  digits : Nat
  exponent : Int
  deriving DecidableEq, Repr

namespace Finite64

/-- The value's size in the units of this module. -/
def inUnits (x : Finite64) : Nat := x.significand * Nat.pow 2 x.scale * 4 * Nat.pow 10 340

/-- The decimal's size in the units of this module, for exponents from -340 on. -/
def decimalUnits (d : Decimal) : Nat :=
  d.digits * Nat.pow 10 (d.exponent + 340).toNat * Nat.pow 2 1076

/-- Half way to the next double below. -/
def lowerMiddle (x : Finite64) : Nat :=
  if x.significand = Nat.pow 2 52 ∧ 0 < x.scale then
    (4 * x.significand - 1) * Nat.pow 2 x.scale * Nat.pow 10 340
  else (2 * x.significand - 1) * Nat.pow 2 (x.scale + 1) * Nat.pow 10 340

/-- Half way to the next double above. -/
def upperMiddle (x : Finite64) : Nat :=
  (2 * x.significand + 1) * Nat.pow 2 (x.scale + 1) * Nat.pow 10 340

/-- Whether a decimal reads back as the double. -/
def readsBack (x : Finite64) (d : Decimal) : Bool :=
  let n := decimalUnits d
  if x.significand % 2 = 0 then x.lowerMiddle ≤ n && n ≤ x.upperMiddle
  else x.lowerMiddle < n && n < x.upperMiddle

/-- The power of ten of the leading digit. -/
def leadingPower (x : Finite64) : Int :=
  ((Nat.toDigits 10 (x.magnitude.1 * Nat.pow 10 330 / x.magnitude.2)).length : Int) - 331

/-- The nearer of the two decimals around the value with the given last place that read back. -/
def onGrid? (x : Finite64) (exponent : Int) : Option Decimal :=
  let unit := Nat.pow 10 (exponent + 340).toNat * Nat.pow 2 1076
  let low : Decimal := ⟨x.inUnits / unit, exponent⟩
  let high : Decimal := ⟨x.inUnits / unit + 1, exponent⟩
  match x.readsBack low, x.readsBack high with
  | true, true =>
    let below := x.inUnits - decimalUnits low
    let above := decimalUnits high - x.inUnits
    if below < above then some low
    else if above < below then some high
    else some (if low.digits % 2 = 0 then low else high)
  | true, false => some low
  | false, true => some high
  | false, false => none

/-- The first grid, from coarse to fine, that holds a decimal which reads back. -/
def searchGrids (x : Finite64) (top : Int) : Nat → Nat → Option Decimal
  | 0, _ => none
  | fuel + 1, places =>
    match x.onGrid? (top - places) with
    | some d => some d
    | none => x.searchGrids top fuel (places + 1)

/-- The same decimal with a single digit in place of ten. -/
def carryTen (d : Decimal) : Decimal := if d.digits = 10 then ⟨1, d.exponent + 1⟩ else d

/-- The shortest decimal that reads back as the double. -/
def shortest (x : Finite64) : Decimal :=
  if x.isZero then ⟨0, 0⟩
  else
    let top := x.leadingPower
    carryTen ((x.searchGrids top 17 0).getD
      ⟨x.inUnits / (Nat.pow 10 (top + 324).toNat * Nat.pow 2 1076), top - 16⟩)

end Finite64
end EventRelay
