/-!
# Names in ASCII

Any text as letters, digits and hyphens of ASCII. The characters of ASCII come first and a hyphen
after them; the others follow in the order of their code points, each as the number of steps from
the one before. A step goes to the next place in the text, and from its end to the next code point.

* `encode`, `decode?`: the two directions.
* `digitValue?_digit`: reading a digit that was written gives its value.
* `encode_ascii`: what is written is in ASCII.
-/

namespace EventRelay.Url.Punycode

/-! ## Numbers -/

/-- The digit of a value below thirty-six: the letters, then the decimal digits. -/
def digit (n : Nat) : Char := Char.ofNat (if n < 26 then 97 + n else 22 + n)

/-- The value of a lower-case digit. -/
def digitValue? (c : Char) : Option Nat :=
  let n := c.toNat
  if 97 ≤ n ∧ n ≤ 122 then some (n - 97)
  else if 48 ≤ n ∧ n ≤ 57 then some (n - 22)
  else none

theorem digitValue?_digit : ∀ n < 36, digitValue? (digit n) = some n := by decide

theorem digit_ascii : ∀ n < 36, (digit n).toNat < 128 := by decide

/-- A digit below this value is the last one of its number. -/
def threshold (bias position : Nat) : Nat := min 26 (max 1 (36 * (position + 1) - bias))

theorem threshold_pos (bias position : Nat) : 1 ≤ threshold bias position := by
  unfold threshold
  omega

theorem threshold_le (bias position : Nat) : threshold bias position ≤ 26 := by
  unfold threshold
  omega

/-- A number in digits, the least valued first. -/
def digits (bias position n : Nat) : List Char :=
  let t := threshold bias position
  if n < t then [digit n]
  else digit (t + (n - t) % (36 - t)) :: digits bias (position + 1) ((n - t) / (36 - t))
termination_by n
decreasing_by
  have ht := threshold_pos bias position
  exact Nat.lt_of_le_of_lt (Nat.div_le_self _ _) (by omega)

theorem digits_ascii (bias position n : Nat) : ∀ c ∈ digits bias position n, c.toNat < 128 := by
  fun_induction digits bias position n with
  | case1 position n t h =>
    have ht := threshold_le bias position
    simpa using digit_ascii n (by omega)
  | case2 position n t h ih =>
    have ht := threshold_le bias position
    have hm : (n - t) % (36 - t) < 36 - t := Nat.mod_lt _ (by omega)
    intro c hc
    rcases List.mem_cons.1 hc with rfl | hc
    · exact digit_ascii _ (by omega)
    · exact ih c hc

/-- What a number becomes, and how many digits it takes more, once it is small. -/
def shrink (n bias : Nat) : Nat :=
  if h : 455 < n then shrink (n / 35) (bias + 36) else bias + 36 * n / (n + 38)
termination_by n
decreasing_by omega

/-- The bias after a number of steps in a text of a given length: long ways make long digits. -/
def adapt (steps length : Nat) (first : Bool) : Nat :=
  let n := if first then steps / 700 else steps / 2
  shrink (n + n / length) 0

/-! ## Writing -/

/-- What is known while a text is written: the bias, the steps since the last character, the number
of characters that stand, the code point in hand and the digits. -/
structure Writer where
  bias : Nat
  steps : Nat
  standing : Nat
  point : Nat
  digits : List Char

/-- Goes past a character of the text; one of the code point in hand is written. -/
def Writer.pass (first : Nat) (w : Writer) (c : Char) : Writer :=
  if c.toNat < w.point then { w with steps := w.steps + 1 }
  else if c.toNat = w.point then
    { w with
      bias := adapt w.steps (w.standing + 1) (w.standing = first)
      steps := 0
      standing := w.standing + 1
      digits := w.digits ++ Punycode.digits w.bias 0 w.steps }
  else w

/-- Writes all characters of a code point. -/
def Writer.write (text : List Char) (first : Nat) (w : Writer) (point : Nat) : Writer :=
  let steps := w.steps + (point - w.point) * (w.standing + 1)
  let w := text.foldl (pass first) { w with steps := steps, point := point }
  { w with steps := w.steps + 1, point := point + 1 }

/-- Whether a character is one of ASCII. -/
def isAscii (c : Char) : Bool := c.toNat < 128

/-- A text in ASCII. -/
def encode (text : List Char) : List Char :=
  let plain := text.filter isAscii
  let points := ((text.filter (fun c => !isAscii c)).map Char.toNat).mergeSort.eraseReps
  let w := points.foldl (Writer.write text plain.length) ⟨72, 0, plain.length, 128, []⟩
  plain ++ (if plain.isEmpty then [] else ['-']) ++ w.digits

/-! ## Reading -/

/-- What is known while a text is read: the bias, the code point in hand, the place that comes
next, the number being read with the weight and position of its next digit, and the text. -/
structure Reader where
  bias : Nat
  point : Nat
  place : Nat
  steps : Nat
  weight : Nat
  position : Nat
  text : List Char

/-- Puts the character in its place after a number of steps, if there is one. -/
def Reader.insert? (r : Reader) (steps : Nat) : Option Reader :=
  let length := r.text.length + 1
  let point := r.point + (r.place + steps) / length
  let place := (r.place + steps) % length
  if point.isValidChar then
    some ⟨adapt steps length (r.place = 0), point, place + 1, 0, 1, 0,
      r.text.insertIdx place (Char.ofNat point)⟩
  else none

/-- Reads a digit. -/
def Reader.read? (r : Reader) (c : Char) : Option Reader := do
  let d ← digitValue? c
  let t := threshold r.bias r.position
  let steps := r.steps + d * r.weight
  if d < t then r.insert? steps
  else some { r with steps := steps, weight := r.weight * (36 - t), position := r.position + 1 }

/-- The text that stands in ASCII. A hyphen in front of everything is taken for a digit, which it is
not. -/
def decode? (cs : List Char) : Option (List Char) := do
  let after := (cs.reverse.takeWhile (· ≠ '-')).reverse
  let plain := cs.take (cs.length - after.length - 1)
  let numbers := if plain.isEmpty then cs else after
  let r ← numbers.foldlM Reader.read? ⟨72, 128, 0, 0, 1, 0, plain⟩
  if r.position = 0 then some r.text else none

/-! ## What is written is in ASCII -/

theorem Writer.pass_ascii {first : Nat} {w : Writer} (c : Char)
    (h : ∀ d ∈ w.digits, d.toNat < 128) : ∀ d ∈ (w.pass first c).digits, d.toNat < 128 := by
  unfold pass
  split
  · exact h
  · split
    · intro d hd
      rcases List.mem_append.1 hd with hd | hd
      · exact h d hd
      · exact digits_ascii _ _ _ d hd
    · exact h

theorem Writer.foldl_pass_ascii {first : Nat} (text : List Char) {w : Writer}
    (h : ∀ d ∈ w.digits, d.toNat < 128) :
    ∀ d ∈ (text.foldl (pass first) w).digits, d.toNat < 128 := by
  induction text generalizing w with
  | nil => exact h
  | cons c rest ih => exact ih (pass_ascii c h)

theorem Writer.foldl_write_ascii {text : List Char} {first : Nat} (points : List Nat) {w : Writer}
    (h : ∀ d ∈ w.digits, d.toNat < 128) :
    ∀ d ∈ (points.foldl (write text first) w).digits, d.toNat < 128 := by
  induction points generalizing w with
  | nil => exact h
  | cons p rest ih =>
    refine ih ?_
    unfold write
    exact foldl_pass_ascii text h

/-- What is written is in ASCII. -/
theorem encode_ascii (text : List Char) : ∀ c ∈ encode text, c.toNat < 128 := by
  intro c hc
  simp only [encode, List.mem_append] at hc
  rcases hc with (hc | hc) | hc
  · simpa [isAscii] using (List.mem_filter.1 hc).2
  · split at hc
    · simp at hc
    · simp only [List.mem_singleton] at hc
      subst hc
      decide
  · exact Writer.foldl_write_ascii _ (by simp) c hc

end EventRelay.Url.Punycode
