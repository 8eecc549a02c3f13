import EventRelay.Decimal.Reader
import EventRelay.Text.Number
import Mathlib.Data.List.TakeWhile

/-!
# The texts of decimals

* `SignedDecimal.Pointed`: a decimal with a point, as it is written.
* `SignedDecimal.parse?_isSome_iff`: a text with a point is taken apart if it is written so.
* `Binary64.parse?_isSome_iff`: the words for doubles that are not finite have no point, so it is
  read as a double just then.
-/

namespace EventRelay

namespace SignedDecimal

/-- A sign, or none. -/
def IsSign (front : List Char) : Prop := front = [] ∨ front = ['+'] ∨ front = ['-']

/-- An exponent as it is written, or none. -/
inductive IsExponent : List Char → Prop
  | absent : IsExponent []
  | present {mark : Char} {front digits : List Char} (mark_e : mark = 'e' ∨ mark = 'E')
      (sign : IsSign front) (ne : digits ≠ []) (all : ∀ c ∈ digits, c.isDigit) :
      IsExponent (mark :: (front ++ digits))

/-- A decimal with a point as it is written: a sign, digits, the point, more digits and an exponent,
with at least one digit beside the point. -/
inductive Pointed : List Char → Prop
  | mk {front whole places exponent : List Char} (sign : IsSign front)
      (whole_all : ∀ c ∈ whole, c.isDigit) (places_all : ∀ c ∈ places, c.isDigit)
      (ne : whole ++ places ≠ []) (exponent_end : IsExponent exponent) :
      Pointed (front ++ (whole ++ '.' :: (places ++ exponent)))

/-- The leading digits of a text are taken, and the rest is left. -/
theorem digitsOnto_eq (n count : Nat) (cs : List Char) :
    digitsOnto n count cs =
      (Nat.ofDigitChars 10 (cs.takeWhile Char.isDigit) n,
        count + (cs.takeWhile Char.isDigit).length, cs.dropWhile Char.isDigit) := by
  induction cs generalizing n count with
  | nil => rfl
  | cons c cs ih =>
    rw [digitsOnto, List.takeWhile_cons, List.dropWhile_cons]
    by_cases hc : c.isDigit = true
    · rw [if_pos (Text.isDigit_iff.1 hc), if_pos hc, if_pos hc, ih, Nat.ofDigitChars_cons,
        List.length_cons, Nat.add_assoc, Nat.add_comm 1]
      rfl
    · rw [if_neg (mt Text.isDigit_iff.2 hc), if_neg hc, if_neg hc]
      rfl

theorem exists_sign (cs : List Char) : ∃ front, IsSign front ∧ cs = front ++ (sign cs).2 := by
  unfold sign
  split
  · exact ⟨['+'], .inr (.inl rfl), rfl⟩
  · exact ⟨['-'], .inr (.inr rfl), rfl⟩
  · exact ⟨[], .inl rfl, rfl⟩

theorem sign_append {front rest : List Char} (h : IsSign front)
    (hrest : ∀ c ∈ rest.head?, c ≠ '+' ∧ c ≠ '-') : (sign (front ++ rest)).2 = rest := by
  obtain rfl | rfl | rfl := h
  · rw [List.nil_append]
    unfold sign
    split
    · exact absurd rfl (hrest _ rfl).1
    · exact absurd rfl (hrest _ rfl).2
    · rfl
  · rfl
  · rfl

theorem ne_sign_of_isDigit {c : Char} (h : c.isDigit = true) : c ≠ '+' ∧ c ≠ '-' := by
  constructor <;> rintro rfl <;> exact absurd h (by decide)

theorem exponent?_cons_isSome_iff {c : Char} {rest : List Char} :
    (exponent? (c :: rest)).isSome ↔
      (c = 'e' ∨ c = 'E') ∧ (sign rest).2 ≠ [] ∧ ∀ d ∈ (sign rest).2, d.isDigit := by
  rw [exponent?]
  by_cases hc : c = 'e' ∨ c = 'E'
  · rw [if_pos hc, eq_true hc, true_and]
    dsimp only
    rw [digitsOnto_eq, Nat.zero_add, ← List.dropWhile_eq_nil_iff]
    dsimp only
    generalize (sign rest).2 = digits
    constructor
    · intro h
      split at h
      · cases h
      · next hnot =>
        obtain ⟨hcount, hend⟩ := not_or.1 hnot
        refine ⟨?_, Decidable.not_not.1 hend⟩
        rintro rfl
        exact hcount rfl
    · rintro ⟨hne, hend⟩
      have hall : digits.takeWhile Char.isDigit = digits := by
        have happend := @List.takeWhile_append_dropWhile _ Char.isDigit digits
        rwa [hend, List.append_nil] at happend
      rw [hall, hend, if_neg (by simpa using hne)]
      rfl
  · rw [if_neg hc]
    exact ⟨nofun, fun h => absurd h.1 hc⟩

/-- What ends a decimal is read if it is an exponent as it is written. -/
theorem exponent?_isSome_iff {cs : List Char} : (exponent? cs).isSome ↔ IsExponent cs := by
  cases cs with
  | nil => exact ⟨fun _ => .absent, fun _ => rfl⟩
  | cons c rest =>
    rw [exponent?_cons_isSome_iff]
    constructor
    · rintro ⟨hmark, hne, hall⟩
      obtain ⟨front, hfront, heq⟩ := exists_sign rest
      rw [heq]
      exact .present hmark hfront hne hall
    · intro h
      cases h with
      | present hmark hfront hne hall =>
        rw [sign_append hfront fun d hd => ne_sign_of_isDigit (hall d (List.mem_of_mem_head? hd))]
        exact ⟨hmark, hne, hall⟩

theorem IsExponent.point_notMem {cs : List Char} (h : IsExponent cs) : '.' ∉ cs := by
  cases h with
  | absent => exact List.not_mem_nil
  | present hmark hfront _ hall =>
    intro hmem
    rw [List.mem_cons, List.mem_append] at hmem
    obtain rfl | hmem | hmem := hmem
    · exact absurd hmark (by decide)
    · obtain rfl | rfl | rfl := hfront <;> exact absurd hmem (by decide)
    · exact absurd (hall _ hmem) (by decide)

/-- An exponent does not begin with a digit. -/
theorem IsExponent.takeWhile_append {cs places : List Char} (h : IsExponent cs)
    (hall : ∀ c ∈ places, c.isDigit) : (places ++ cs).takeWhile Char.isDigit = places ∧
      (places ++ cs).dropWhile Char.isDigit = cs := by
  rw [List.takeWhile_append_of_pos hall, List.dropWhile_append_of_pos hall]
  cases h with
  | absent => exact ⟨List.append_nil _, rfl⟩
  | present hmark =>
    obtain rfl | rfl := hmark
    · exact ⟨by rw [List.takeWhile_cons_of_neg (by decide), List.append_nil],
        List.dropWhile_cons_of_neg (by decide)⟩
    · exact ⟨by rw [List.takeWhile_cons_of_neg (by decide), List.append_nil],
        List.dropWhile_cons_of_neg (by decide)⟩

/-- A text whose leading digits end at a point is taken apart if there are digits on either side and
an exponent at the end. -/
theorem parse?_isSome_of_point {cs more : List Char}
    (h : (sign cs).2.dropWhile Char.isDigit = '.' :: more) :
    (parse? cs).isSome ↔ (sign cs).2.takeWhile Char.isDigit ++ more.takeWhile Char.isDigit ≠ [] ∧
      IsExponent (more.dropWhile Char.isDigit) := by
  simp only [parse?, digitsOnto_eq, h, Nat.zero_add, ← List.length_append]
  rw [← exponent?_isSome_iff]
  split
  · next hnone => exact ⟨nofun, fun hsome => absurd (List.length_eq_zero_iff.1 hnone) hsome.1⟩
  · next hsome =>
    rw [Option.isSome_map]
    exact (and_iff_right (mt List.length_eq_zero_iff.2 hsome)).symm

/-- Without a point there only an exponent follows the leading digits. -/
theorem isExponent_of_parse?_isSome {cs : List Char}
    (h : ∀ more, (sign cs).2.dropWhile Char.isDigit ≠ '.' :: more) (hsome : (parse? cs).isSome) :
    IsExponent ((sign cs).2.dropWhile Char.isDigit) := by
  simp only [parse?, digitsOnto_eq] at hsome
  rw [← exponent?_isSome_iff]
  split at hsome
  · cases hsome
  · rwa [Option.isSome_map] at hsome

/-- A text with a point is taken apart if it is a decimal as it is written. -/
theorem parse?_isSome_iff {cs : List Char} : (parse? cs).isSome ∧ '.' ∈ cs ↔ Pointed cs := by
  constructor
  · rintro ⟨hsome, hpoint⟩
    obtain ⟨front, hfront, hcs⟩ := exists_sign cs
    have hbody := @List.takeWhile_append_dropWhile _ Char.isDigit (sign cs).2
    have hwhole : ∀ c ∈ (sign cs).2.takeWhile Char.isDigit, c.isDigit := fun c hc =>
      List.mem_takeWhile_imp hc
    by_cases hrest : ∃ more, (sign cs).2.dropWhile Char.isDigit = '.' :: more
    · obtain ⟨more, hmore⟩ := hrest
      obtain ⟨hne, hexponent⟩ := (parse?_isSome_of_point hmore).1 hsome
      rw [hmore, ← @List.takeWhile_append_dropWhile _ Char.isDigit more] at hbody
      rw [hcs, ← hbody]
      exact .mk hfront hwhole (fun c hc => List.mem_takeWhile_imp hc) hne hexponent
    · -- no point is left to stand in the sign, in the digits or in the exponent
      have hexponent := isExponent_of_parse?_isSome (not_exists.1 hrest) hsome
      rw [hcs, ← hbody, List.mem_append, List.mem_append] at hpoint
      obtain hmem | hmem | hmem := hpoint
      · obtain rfl | rfl | rfl := hfront <;> exact absurd hmem (by decide)
      · exact absurd (hwhole _ hmem) (by decide)
      · exact absurd hmem hexponent.point_notMem
  · rintro @⟨front, whole, places, exponent, hfront, hwhole, hplaces, hne, hexponent⟩
    have hsign : (sign (front ++ (whole ++ '.' :: (places ++ exponent)))).2 =
        whole ++ '.' :: (places ++ exponent) := by
      refine sign_append hfront fun c hc => ?_
      cases whole with
      | nil =>
        cases hc
        decide
      | cons d whole =>
        cases hc
        exact ne_sign_of_isDigit (hwhole _ List.mem_cons_self)
    obtain ⟨htaken, hdropped⟩ := hexponent.takeWhile_append hplaces
    have hpoint : (sign (front ++ (whole ++ '.' :: (places ++ exponent)))).2.dropWhile
        Char.isDigit = '.' :: (places ++ exponent) := by
      rw [hsign, List.dropWhile_append_of_pos hwhole]
      exact List.dropWhile_cons_of_neg (by decide)
    refine ⟨(parse?_isSome_of_point hpoint).2 ?_, by simp⟩
    rw [hsign, List.takeWhile_append_of_pos hwhole, List.takeWhile_cons_of_neg (by decide),
      List.append_nil, htaken, hdropped]
    exact ⟨hne, hexponent⟩

instance (cs : List Char) : Decidable (Pointed cs) := decidable_of_iff _ parse?_isSome_iff

end SignedDecimal

namespace Binary64

/-- The words for doubles that are not finite have no point in them. -/
theorem word?_eq_none_of_point {cs : List Char} (h : '.' ∈ cs) : word? cs = none := by
  have hmem : '.' ∈ (SignedDecimal.sign cs).2 := by
    obtain ⟨front, hfront, hcs⟩ := SignedDecimal.exists_sign cs
    rw [hcs, List.mem_append] at h
    refine h.resolve_left fun hmem => ?_
    obtain rfl | rfl | rfl := hfront <;> exact absurd hmem (by decide)
  have hlower : '.' ∈ (SignedDecimal.sign cs).2.map Char.toLower :=
    List.mem_map.2 ⟨'.', hmem, rfl⟩
  have hnot : ∀ word : String, '.' ∉ word.toList →
      String.ofList ((SignedDecimal.sign cs).2.map Char.toLower) ≠ word := by
    rintro word hword rfl
    rw [String.toList_ofList] at hword
    exact hword hlower
  simp only [word?]
  rw [if_neg (not_or.2 ⟨hnot "inf" (by decide), hnot "infinity" (by decide)⟩),
    if_neg (hnot "nan" (by decide))]

/-- A text with a point is read as a double if it is a decimal as it is written. -/
theorem parse?_isSome_iff {cs : List Char} :
    (parse? cs).isSome ∧ '.' ∈ cs ↔ SignedDecimal.Pointed cs := by
  rw [← SignedDecimal.parse?_isSome_iff, and_congr_left_iff]
  intro hpoint
  rw [parse?, word?_eq_none_of_point hpoint]
  cases SignedDecimal.parse? cs <;> rfl

end Binary64
end EventRelay
