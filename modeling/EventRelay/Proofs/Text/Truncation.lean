import EventRelay.Proofs.Text.Bytes

/-!
# The longest start of a text that fits

A text that is too long is cut at the last place between characters that a limit in bytes allows.
The place can be looked for byte by byte, backwards from the limit: a character takes four bytes at
most, and the beginning of the text is such a place.

* `Text.StartWithin`: a start of a text that ends between characters and is within the limit.
* `Text.boundaryFrom?`: the search for the place. `boundaryFrom?_eq_some_iff`: what it finds.
* `Text.truncateBytes?`: the cut on bytes, which fails if the search passes the beginning or the cut
  goes through a character. `truncateBytes?_eq`: it never fails, and cuts alike.
* `Text.truncate_longest`: what is left is the longest start within the limit.
-/

namespace EventRelay

namespace Text

/-- A start of a text that ends between characters and takes at most `max` bytes. -/
structure StartWithin (max : Nat) (text front : String) : Prop where
  start : ∃ rest, text = front ++ rest
  within : front.utf8ByteSize ≤ max

/-- The first place between characters from a given one backwards, looked for byte by byte; none if
the search passes the beginning. -/
def boundaryFrom? (bytes : List UInt8) : Nat → Option Nat
  | 0 => if isBoundary bytes 0 then some 0 else none
  | place + 1 =>
    if isBoundary bytes (place + 1) then some (place + 1) else boundaryFrom? bytes place

/-- A text cut on its bytes to what fits `max` of them; none if the search for the place passes the
beginning or the cut goes through a character. -/
def truncateBytes? (max : Nat) (text : String) : Option String :=
  if text.utf8ByteSize ≤ max then some text
  else (boundaryFrom? text.toByteArray.data.toList max).bind (slice? text 0)

/-! ## The search -/

section Search

variable {bytes : List UInt8} {limit place : Nat}

/-- The search finds the last place between characters up to the one that it starts from. -/
theorem boundaryFrom?_eq_some_iff : boundaryFrom? bytes limit = some place ↔
    isBoundary bytes place = true ∧ place ≤ limit ∧
      ∀ p ≤ limit, isBoundary bytes p = true → p ≤ place := by
  induction limit with
  | zero =>
    have hzero : isBoundary bytes 0 = true := isBoundary_iff.2 (.inl rfl)
    rw [boundaryFrom?, if_pos hzero, Option.some.injEq]
    constructor
    · rintro rfl
      exact ⟨hzero, Nat.le_refl 0, fun _ hp _ => hp⟩
    · rintro ⟨-, hle, -⟩
      exact (Nat.le_zero.1 hle).symm
  | succ limit ih =>
    rw [boundaryFrom?]
    split
    · next hhere =>
      rw [Option.some.injEq]
      constructor
      · rintro rfl
        exact ⟨hhere, Nat.le_refl _, fun _ hp _ => hp⟩
      · rintro ⟨-, hle, hlast⟩
        exact Nat.le_antisymm (hlast _ (Nat.le_refl _) hhere) hle
    · next hhere =>
      -- a place between characters is not the one just passed
      have hpassed : ∀ p ≤ limit + 1, isBoundary bytes p = true → p ≤ limit := by
        intro p hp hbound
        obtain rfl | hlt := Nat.eq_or_lt_of_le hp
        · exact absurd hbound hhere
        · exact Nat.le_of_lt_succ hlt
      rw [ih]
      constructor
      · rintro ⟨hplace, hle, hlast⟩
        exact ⟨hplace, Nat.le_succ_of_le hle,
          fun p hp hbound => hlast p (hpassed p hp hbound) hbound⟩
      · rintro ⟨hplace, hle, hlast⟩
        exact ⟨hplace, hpassed _ hle hplace, fun p hp => hlast p (Nat.le_succ_of_le hp)⟩

end Search

/-! ## Whole characters within a number of bytes -/

section Fitting

variable {max : Nat} {cs : List Char}

theorem fitting_of_byteCount_le (h : byteCount cs ≤ max) : fitting max cs = cs := by
  induction cs generalizing max with
  | nil => rfl
  | cons c cs ih =>
    rw [byteCount] at h
    rw [fitting, if_pos (by omega), ih (by omega)]

/-- A start that fits is a start of what is left. -/
theorem isPrefix_fitting {front : List Char} (h : byteCount front ≤ max) (back : List Char) :
    front <+: fitting max (front ++ back) := by
  induction front generalizing max with
  | nil => exact List.nil_prefix
  | cons c front ih =>
    rw [byteCount] at h
    rw [List.cons_append, fitting, if_pos (by omega)]
    exact List.cons_prefix_cons.2 ⟨rfl, ih (by omega)⟩

theorem byteCount_le_of_isPrefix {front : List Char} (h : front <+: cs) :
    byteCount front ≤ byteCount cs := by
  obtain ⟨rest, rfl⟩ := h
  rw [byteCount_append]
  exact Nat.le_add_right ..

/-- What is cut off begins with a character that does not fit, and takes four bytes at most. -/
theorem lt_byteCount_fitting (h : max < byteCount cs) : max < byteCount (fitting max cs) + 4 := by
  induction cs generalizing max with
  | nil => cases h
  | cons c cs ih =>
    have hc := c.utf8Size_le_four
    rw [byteCount] at h
    rw [fitting]
    split
    · have hrest := @ih (max - c.utf8Size) (by omega)
      rw [byteCount]
      omega
    · rw [byteCount_nil]
      omega

end Fitting

/-! ## The cut -/

variable {max : Nat} {text : String}

theorem utf8ByteSize_truncate (max : Nat) (text : String) :
    (truncate max text).utf8ByteSize = byteCount (fitting max text.toList) := by
  rw [truncate, utf8ByteSize_ofList]

theorem utf8ByteSize_truncate_le (max : Nat) (text : String) :
    (truncate max text).utf8ByteSize ≤ max := by
  rw [utf8ByteSize_truncate]
  exact byteCount_fitting_le max _

theorem startWithin_truncate (max : Nat) (text : String) :
    StartWithin max text (truncate max text) := by
  obtain ⟨rest, hrest⟩ := fitting_isPrefix max text.toList
  refine ⟨⟨.ofList rest, ?_⟩, utf8ByteSize_truncate_le max text⟩
  rw [truncate, ← String.ofList_append, ← hrest, String.ofList_toList]

theorem StartWithin.le_truncate {front : String} (h : StartWithin max text front) :
    front.utf8ByteSize ≤ (truncate max text).utf8ByteSize := by
  obtain ⟨⟨rest, rfl⟩, hfits⟩ := h
  rw [utf8ByteSize_eq] at hfits
  rw [utf8ByteSize_eq, utf8ByteSize_truncate, String.toList_append]
  exact byteCount_le_of_isPrefix (isPrefix_fitting hfits rest.toList)

theorem truncate_of_fits (h : text.utf8ByteSize ≤ max) : truncate max text = text := by
  rw [utf8ByteSize_eq] at h
  rw [truncate, fitting_of_byteCount_le h, String.ofList_toList]

theorem le_truncate_of_not_fits (h : max < text.utf8ByteSize) :
    max ≤ (truncate max text).utf8ByteSize + 3 := by
  rw [utf8ByteSize_eq] at h
  rw [utf8ByteSize_truncate]
  exact Nat.le_of_lt_succ (lt_byteCount_fitting h)

/-- A text is not cut down to nothing if there is room for a character. -/
theorem truncate_ne_empty (hmax : 4 ≤ max) (hs : text ≠ "") : truncate max text ≠ "" := by
  intro h
  have hnil : fitting max text.toList = [] := by
    have hlist := congrArg String.toList h
    rwa [truncate, String.toList_ofList] at hlist
  cases hchars : text.toList with
  | nil => exact hs (String.toList_eq_nil_iff.1 hchars)
  | cons c cs =>
    rw [hchars, fitting, if_pos (Nat.le_trans c.utf8Size_le_four hmax)] at hnil
    cases hnil

/-- The search from the limit finds the place of the cut, also if the text ends before the limit. -/
theorem boundaryFrom?_bytes (max : Nat) (text : String) :
    boundaryFrom? text.toByteArray.data.toList max = some (truncate max text).utf8ByteSize := by
  obtain ⟨⟨rest, hrest⟩, hfits⟩ := startWithin_truncate max text
  refine boundaryFrom?_eq_some_iff.2 ⟨?_, hfits, fun p hp hbound => ?_⟩
  · exact isBoundary_iff_exists_append.2 ⟨_, rest, hrest, rfl⟩
  · obtain ⟨front, back, htext, rfl⟩ := isBoundary_iff_exists_append.1 hbound
    exact StartWithin.le_truncate ⟨⟨back, htext⟩, hp⟩

/-- **Bytes.** The search does not pass the beginning, the place that it finds lies between
characters, and what is cut on bytes is what is cut on characters. -/
theorem truncateBytes?_eq (max : Nat) (text : String) :
    truncateBytes? max text = some (truncate max text) := by
  rw [truncateBytes?]
  split
  · next hfits => rw [truncate_of_fits hfits]
  · obtain ⟨rest, hrest⟩ := (startWithin_truncate max text).start
    have hslice := slice?_append "" (truncate max text) rest
    rw [String.empty_append, ← hrest] at hslice
    rw [boundaryFrom?_bytes, Option.bind_some]
    exact hslice

/-- **Truncation.** What is left of a text is a start of it that ends between characters and is
within the limit, and no such start is longer. It is the text itself if the text is within the
limit, and else at most three bytes short of the limit. On bytes, the search backwards from the
limit ends at its end, for every limit, and the cut there goes through no character. -/
theorem truncate_longest (max : Nat) (text : String) :
    StartWithin max text (truncate max text) ∧
    (∀ front, StartWithin max text front →
      front.utf8ByteSize ≤ (truncate max text).utf8ByteSize) ∧
    (text.utf8ByteSize ≤ max → truncate max text = text) ∧
    (max < text.utf8ByteSize → max ≤ (truncate max text).utf8ByteSize + 3) ∧
    boundaryFrom? text.toByteArray.data.toList max = some (truncate max text).utf8ByteSize ∧
    truncateBytes? max text = some (truncate max text) :=
  ⟨startWithin_truncate max text, fun _ h => h.le_truncate, truncate_of_fits,
    le_truncate_of_not_fits, boundaryFrom?_bytes max text, truncateBytes?_eq max text⟩

/-- A character of four bytes for which one byte is missing, and no room at all. -/
theorem truncate_longest_wide :
    StartWithin 4 "a😀" "a" ∧ 4 < "a😀".utf8ByteSize ∧ "a😀".utf8ByteSize ≤ 5 ∧
      "a".utf8ByteSize ≤ (truncate 4 "a😀").utf8ByteSize ∧
      4 ≤ (truncate 4 "a😀").utf8ByteSize + 3 ∧ truncate 5 "a😀" = "a😀" ∧
      truncateBytes? 4 "a😀" = some "a" ∧ truncateBytes? 0 "a😀" = some "" := by
  have hstart : StartWithin 4 "a😀" "a" := ⟨⟨"😀", rfl⟩, by decide⟩
  have hlong : 4 < "a😀".utf8ByteSize := by decide
  have hshort : "a😀".utf8ByteSize ≤ 5 := by decide
  obtain ⟨-, hlongest, -, hlost, -, hbytes⟩ := truncate_longest 4 "a😀"
  obtain ⟨-, -, hwhole, -⟩ := truncate_longest 5 "a😀"
  obtain ⟨-, -, -, -, -, hnone⟩ := truncate_longest 0 "a😀"
  have hcut : truncate 4 "a😀" = "a" := by decide
  have hempty : truncate 0 "a😀" = "" := by decide
  exact ⟨hstart, hlong, hshort, hlongest _ hstart, hlost hlong, hwhole hshort, hcut ▸ hbytes,
    hempty ▸ hnone⟩

end Text
end EventRelay
