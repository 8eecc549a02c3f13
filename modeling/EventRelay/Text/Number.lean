/-!
# Whole numbers in text

* `decimal?`: the value of a text of ASCII digits, which may start with a plus sign.
* `digits?_eq_some_iff`: a text has a value if it is made of digits, and that is their number.
* `split`: the pieces of a text between separators. `split_eq_splitOn`: the list of characters is
  split there.
-/

namespace EventRelay.Text

theorem isDigit_iff {c : Char} : c.isDigit = true ↔ '0' ≤ c ∧ c ≤ '9' := by
  rw [Char.isDigit_iff_toNat]
  rfl

/-- The value of a text of one or more ASCII digits. -/
def digits? (cs : List Char) : Option Nat :=
  if cs.isEmpty then none
  else cs.foldl (fun acc c =>
    acc.bind (fun n => if '0' ≤ c ∧ c ≤ '9' then some (10 * n + (c.toNat - 48)) else none)) (some 0)

private theorem foldl_digits_none (cs : List Char) :
    cs.foldl (fun acc c => acc.bind fun n =>
      if '0' ≤ c ∧ c ≤ '9' then some (10 * n + (c.toNat - 48)) else none) none = none := by
  induction cs with
  | nil => rfl
  | cons c cs ih => exact ih

private theorem foldl_digits_eq_some_iff {cs : List Char} {m n : Nat} :
    cs.foldl (fun acc c => acc.bind fun n =>
      if '0' ≤ c ∧ c ≤ '9' then some (10 * n + (c.toNat - 48)) else none) (some m) = some n ↔
      (∀ c ∈ cs, c.isDigit) ∧ Nat.ofDigitChars 10 cs m = n := by
  induction cs generalizing m with
  | nil => simp
  | cons c cs ih =>
    rw [List.foldl_cons, Option.bind_some, List.forall_mem_cons, Nat.ofDigitChars_cons]
    by_cases hc : '0' ≤ c ∧ c ≤ '9'
    · rw [if_pos hc, ih, eq_true (isDigit_iff.2 hc), true_and]
      rfl
    · rw [if_neg hc, foldl_digits_none]
      exact ⟨nofun, fun h => absurd (isDigit_iff.1 h.1.1) hc⟩

/-- A text has a value if it is made of one or more digits, and that is their number. -/
theorem digits?_eq_some_iff {cs : List Char} {n : Nat} :
    digits? cs = some n ↔ cs ≠ [] ∧ (∀ c ∈ cs, c.isDigit) ∧ Nat.ofDigitChars 10 cs 0 = n := by
  rw [digits?]
  split
  · next h => simp [List.isEmpty_iff.1 h]
  · next h =>
    rw [foldl_digits_eq_some_iff]
    exact (and_iff_right (mt List.isEmpty_iff.2 h)).symm

/-- The value of a text of digits, which may start with a plus sign. -/
def decimal? : List Char → Option Nat
  | '+' :: rest => digits? rest
  | cs => digits? cs

theorem decimal?_eq_digits? {cs : List Char} (h : '+' ∉ cs) : decimal? cs = digits? cs := by
  unfold decimal?
  split
  · exact absurd List.mem_cons_self h
  · rfl

/-- The value of a text of digits that an unsigned word of 64 bits holds. -/
def word? (cs : List Char) : Option Nat := (decimal? cs).filter (· < UInt64.size)

/-- The pieces of a text between the separators; one more than there are separators. -/
def split (separator : Char) : List Char → List (List Char)
  | [] => [[]]
  | c :: rest =>
    if c = separator then [] :: split separator rest
    else match split separator rest with
      | piece :: more => (c :: piece) :: more
      | [] => [[c]]

theorem split_ne_nil (separator : Char) (cs : List Char) : split separator cs ≠ [] := by
  cases cs with
  | nil => simp [split]
  | cons c rest =>
    simp only [split]
    split
    · simp
    · split <;> simp

/-- The list of characters is split at the separators. -/
theorem split_eq_splitOn (separator : Char) (cs : List Char) :
    split separator cs = cs.splitOn separator := by
  induction cs with
  | nil => rfl
  | cons c rest ih =>
    rw [split, List.splitOn_cons_eq_if_modifyHead, ih]
    by_cases hc : c = separator
    · rw [if_pos hc, if_pos (beq_iff_eq.2 hc)]
    · rw [if_neg hc, if_neg (mt beq_iff_eq.1 hc)]
      cases h : rest.splitOn separator with
      | nil => exact absurd h (List.splitOn_ne_nil _ _)
      | cons piece more => rfl

/-- The pieces of a string between the separators. -/
def splitString (separator : Char) (s : String) : List String :=
  (split separator s.toList).map String.ofList

/-- Upper case for the letters of ASCII alone. -/
def asciiUpper (s : String) : String := String.ofList (s.toList.map Char.toUpper)

/-- Lower case for the letters of ASCII alone. -/
def asciiLower (s : String) : String := String.ofList (s.toList.map Char.toLower)

end EventRelay.Text
