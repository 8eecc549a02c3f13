import EventRelay.Decimal.Shortest

/-!
# Writing a decimal

How the digits of a shortest decimal are laid out: up to which powers of ten without an exponent,
whether a whole number keeps a zero after the point, and how an exponent is written. Fixed places
are rounded from the exact value, a half to the even digit.

* `Layout.write`: a finite double in a layout.
* `Finite64.fixedText`: a finite double with a fixed number of places.
-/

namespace EventRelay

/-- A way of laying out a decimal. `plainFrom` and `plainTo` bound the powers of ten of the leading
digit that are written without an exponent; none means no bound. -/
structure Layout where
  plainFrom : Option Int
  plainTo : Option Int
  wholeZero : Bool

namespace Layout

/-- Numbers in a document: an exponent from 10^16 on and below 10^-5, a point or an exponent
always. -/
def document : Layout := ⟨some (-5), some 15, true⟩

/-- Numbers in a message: never an exponent, no point in a whole number. -/
def message : Layout := ⟨none, none, false⟩

/-- Digits without an exponent, the leading one at the power of ten `top`. -/
def plain (layout : Layout) (digits : List Char) (top : Int) : List Char :=
  if top < 0 then ['0', '.'] ++ List.replicate (-top - 1).toNat '0' ++ digits
  else
    let whole := top.toNat + 1
    if digits.length ≤ whole then
      digits ++ List.replicate (whole - digits.length) '0' ++
        (if layout.wholeZero then ['.', '0'] else [])
    else digits.take whole ++ ['.'] ++ digits.drop whole

/-- Digits with an exponent. -/
def scientific (digits : List Char) (top : Int) : List Char :=
  let front := match digits with
    | first :: second :: rest => first :: '.' :: second :: rest
    | short => short
  front ++ ['e', if top < 0 then '-' else '+'] ++ Nat.toDigits 10 top.natAbs

/-- The size of a double in a layout. -/
def writeSize (layout : Layout) (x : Finite64) : List Char :=
  let d := x.shortest
  let digits := Nat.toDigits 10 d.digits
  let top := d.exponent + (digits.length : Int) - 1
  if layout.plainFrom.all (· ≤ top) && layout.plainTo.all (top ≤ ·) then
    layout.plain digits top
  else scientific digits top

/-- A finite double in a layout; a negative zero keeps its sign. -/
def write (layout : Layout) (x : Finite64) : List Char :=
  (if x.negative then ['-'] else []) ++ layout.writeSize x

end Layout

/-- A finite double with `places` digits after the point, rounded from its exact value. -/
def Finite64.fixedText (x : Finite64) (places : Nat) : List Char :=
  let scaled := roundEven (x.magnitude.1 * Nat.pow 10 places) x.magnitude.2
  let digits := Nat.toDigits 10 scaled
  let digits := List.replicate (places + 1 - digits.length) '0' ++ digits
  let whole := digits.length - places
  (if x.negative then ['-'] else []) ++ digits.take whole ++
    (if places = 0 then [] else '.' :: digits.drop whole)

/-- A double in a message. -/
def Binary64.messageText : Binary64 → String
  | .finite x => String.ofList (Layout.message.write x)
  | .infinite negative => if negative then "-inf" else "inf"
  | .nan => "NaN"

end EventRelay
