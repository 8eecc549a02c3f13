/-!
# Hexadecimal digits

Lower-case digits, a byte as two of them, and the value of a digit.

* `digitValue?_digit`: reading a digit that was written gives its value.
* `length_padded`, `eq_digit_of_mem_padded`: a padded number has its width and consists of digits.
-/

namespace EventRelay.Text.Hex

/-- The lower-case digit of a value below sixteen. -/
def digit (n : Nat) : Char := Char.ofNat (if n < 10 then 48 + n else 87 + n)

/-- The upper-case digit of a value below sixteen. -/
def upperDigit (n : Nat) : Char := Char.ofNat (if n < 10 then 48 + n else 55 + n)

/-- The value of a digit of either case. -/
def digitValue? (c : Char) : Option Nat :=
  let n := c.toNat
  if 48 ≤ n ∧ n ≤ 57 then some (n - 48)
  else if 97 ≤ n ∧ n ≤ 102 then some (n - 87)
  else if 65 ≤ n ∧ n ≤ 70 then some (n - 55)
  else none

theorem digitValue?_digit : ∀ n < 16, digitValue? (digit n) = some n := by decide

/-- A byte as two lower-case digits. -/
def ofByte (b : UInt8) : List Char := [digit (b.toNat / 16), digit (b.toNat % 16)]

/-- Bytes as lower-case digits, two each. -/
def encode (bytes : List UInt8) : String := String.ofList (bytes.flatMap ofByte)

/-- The bytes that pairs of digits stand for. -/
def decode? : List Char → Option (List UInt8)
  | [] => some []
  | [_] => none
  | a :: b :: rest => do
    let high ← digitValue? a
    let low ← digitValue? b
    let bytes ← decode? rest
    pure (UInt8.ofNat (16 * high + low) :: bytes)

/-- A number in lower-case digits, as few as it takes. -/
def ofNat (n : Nat) : List Char := Nat.toDigits 16 n

/-- Exactly `width` lower-case digits: the last ones of a number. -/
def padded : Nat → Nat → List Char
  | 0, _ => []
  | width + 1, n => padded width (n / 16) ++ [digit (n % 16)]

@[simp] theorem length_padded (width n : Nat) : (padded width n).length = width := by
  induction width generalizing n with
  | zero => rfl
  | succ width ih => simp [padded, ih]

theorem eq_digit_of_mem_padded {width n : Nat} {c : Char} (h : c ∈ padded width n) :
    ∃ m < 16, c = digit m := by
  induction width generalizing n with
  | zero => simp [padded] at h
  | succ width ih =>
    rcases List.mem_append.1 h with h | h
    · exact ih h
    · exact ⟨n % 16, Nat.mod_lt n (by decide), List.mem_singleton.1 h⟩

end EventRelay.Text.Hex
