/-!
# Blanks

The blanks of Unicode (the property White_Space) and what is left of a text without the blanks at
its ends.

* `isBlank_of_isWhitespace`: every blank of ASCII is one.
* `trim_eq_self`: a text that neither starts nor ends with a blank is left alone.
-/

namespace EventRelay.Text

/-- Whether a character is a blank of Unicode. -/
def isBlank (c : Char) : Bool :=
  let n := c.toNat
  (9 ≤ n && n ≤ 13) || n == 0x20 || n == 0x85 || n == 0xA0 || n == 0x1680 ||
    (0x2000 ≤ n && n ≤ 0x200A) || n == 0x2028 || n == 0x2029 || n == 0x202F || n == 0x205F ||
    n == 0x3000

/-- A text without the blanks at its ends. -/
def trim (cs : List Char) : List Char :=
  ((cs.dropWhile isBlank).reverse.dropWhile isBlank).reverse

/-- A string without the blanks at its ends. -/
def trimBlanks (s : String) : String := String.ofList (trim s.toList)

theorem isBlank_of_isWhitespace {c : Char} (h : c.isWhitespace = true) : isBlank c = true := by
  simp only [Char.isWhitespace, Bool.or_eq_true, decide_eq_true_eq] at h
  rcases h with ((rfl | rfl) | rfl) | rfl <;> decide

/-- A text that neither starts nor ends with a blank is left alone. -/
theorem trim_eq_self {cs : List Char} (first : ∀ c ∈ cs.head?, isBlank c = false)
    (last : ∀ c ∈ cs.getLast?, isBlank c = false) : trim cs = cs := by
  have keep : ∀ {l : List Char}, (∀ c ∈ l.head?, isBlank c = false) →
      l.dropWhile isBlank = l := by
    intro l h
    cases l with
    | nil => rfl
    | cons c r => simp [List.dropWhile, h c (by simp)]
  have flipped : ∀ c ∈ cs.reverse.head?, isBlank c = false := by
    simpa [List.head?_reverse] using last
  rw [trim, keep first, keep flipped, List.reverse_reverse]

end EventRelay.Text
