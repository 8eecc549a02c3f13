import EventRelay.Text.Utf8

/-!
# The bytes of a text

A text is cut at places that are counted in bytes. The bytes themselves tell which places lie
between characters: the first byte of a character can be told from its others.

* `Text.slice?`: a part of a text between two bytes, if these lie between characters.
  `slice?_append`: what is cut out.
* `Text.isBoundary`: whether a place lies between characters, as the byte after it tells.
  `isBoundary_iff_exists_append`: it does exactly when the text is made of two texts there.
-/

namespace EventRelay

namespace Text

/-- The part of a text between two places, counted in bytes; none if a place lies within a character
or beyond the end, or the second comes before the first. -/
def slice? (text : String) (first last : Nat) : Option String :=
  if (⟨first⟩ : String.Pos.Raw).IsValid text ∧ (⟨last⟩ : String.Pos.Raw).IsValid text ∧
      first ≤ last then
    String.fromUTF8? (text.toByteArray.extract first last)
  else none

/-- Whether a byte continues the character of the byte before it. -/
def isContinuation (b : UInt8) : Bool := 0x80 ≤ b.toNat && b.toNat < 0xC0

/-- Whether a place in bytes lies between characters: it is the beginning or the end, or the byte
after it continues no character. -/
def isBoundary (bytes : List UInt8) (place : Nat) : Bool :=
  place = 0 || place = bytes.length || bytes[place]?.any (!isContinuation ·)

theorem isBoundary_iff {bytes : List UInt8} {place : Nat} : isBoundary bytes place = true ↔
    place = 0 ∨ place = bytes.length ∨ ∃ b, bytes[place]? = some b ∧ isContinuation b = false := by
  simp [isBoundary, or_assoc, Option.any_eq_true]

theorem isContinuation_ofNat {n : Nat} (h : n < 256) :
    isContinuation (.ofNat n) = (0x80 ≤ n && n < 0xC0) := by
  rw [isContinuation, UInt8.toNat_ofNat', Nat.mod_eq_of_lt h]

/-! ## Bytes of characters -/

/-- The bytes of a text are those of its characters, one after the other. -/
theorem bytes_eq (text : String) :
    text.toByteArray.data.toList = text.toList.flatMap String.utf8EncodeChar := by
  rw [← String.ofList_toList (s := text), String.toByteArray_ofList, List.utf8Encode,
    List.toList_data_toByteArray, String.toList_ofList]

theorem length_flatMap_utf8EncodeChar (cs : List Char) :
    (cs.flatMap String.utf8EncodeChar).length = byteCount cs := by
  induction cs with
  | nil => rfl
  | cons c cs ih =>
    rw [List.flatMap_cons, List.length_append, String.length_utf8EncodeChar, ih, byteCount]

theorem utf8ByteSize_ofList (cs : List Char) :
    (String.ofList cs).utf8ByteSize = byteCount cs := by
  induction cs with
  | nil => rfl
  | cons c cs ih =>
    rw [byteCount, ← ih, ← List.singleton_append, String.ofList_append, String.utf8ByteSize_append]
    simp

theorem utf8ByteSize_eq (text : String) : text.utf8ByteSize = byteCount text.toList := by
  rw [← utf8ByteSize_ofList, String.ofList_toList]

/-- A byte of ASCII is part of the character that it is the code of, and of no other. -/
theorem toNat_eq_of_mem_utf8EncodeChar {b : UInt8} {c : Char}
    (h : b ∈ String.utf8EncodeChar c) (hb : b.toNat < 128) : c.toNat = b.toNat := by
  show c.val.toNat = b.toNat
  revert h
  fun_cases String.utf8EncodeChar c with
  | case1 v hv =>
    intro h
    rw [List.mem_singleton.1 h, UInt8.toNat_ofNat']
    omega
  | case2 v | case3 v | case4 v =>
    -- the bytes of the other characters are all beyond ASCII
    intro h
    simp only [List.mem_cons, List.not_mem_nil, or_false] at h
    obtain rfl | rfl | rfl | rfl := h <;> rw [UInt8.toNat_ofNat'] at hb <;> omega

/-- The first byte of a character continues none, and each of its other bytes does. -/
theorem utf8EncodeChar_eq_cons (c : Char) : ∃ b more, String.utf8EncodeChar c = b :: more ∧
    isContinuation b = false ∧ ∀ x ∈ more, isContinuation x = true := by
  have hfirst : ∀ n, n < 128 ∨ 192 ≤ n ∧ n < 256 → isContinuation (.ofNat n) = false := by
    intro n hn
    rw [isContinuation_ofNat (by omega), Bool.and_eq_false_iff]
    simp only [decide_eq_false_iff_not]
    omega
  have hmore : ∀ n, isContinuation (.ofNat (n % 64 + 128)) = true := by
    intro n
    rw [isContinuation_ofNat (by omega), Bool.and_eq_true]
    simp only [decide_eq_true_eq]
    omega
  fun_cases String.utf8EncodeChar c with
  | case1 v hv => exact ⟨_, _, rfl, hfirst _ (.inl (by omega)), by simp⟩
  | case2 v | case3 v | case4 v =>
    refine ⟨_, _, rfl, hfirst _ (.inr (by omega)), ?_⟩
    simp only [List.forall_mem_cons, hmore, List.not_mem_nil, true_and]
    simp

/-! ## Cutting -/

/-- What stands between the beginning and the end of a text is cut out of it. -/
theorem slice?_append (front middle back : String) :
    slice? (front ++ middle ++ back) front.utf8ByteSize (front ++ middle).utf8ByteSize =
      some middle := by
  have hfirst : (⟨front.utf8ByteSize⟩ : String.Pos.Raw).IsValid (front ++ middle ++ back) :=
    String.Pos.Raw.isValid_iff_exists_append.2
      ⟨front, middle ++ back, String.append_assoc .., rfl⟩
  have hlast : (⟨(front ++ middle).utf8ByteSize⟩ : String.Pos.Raw).IsValid
      (front ++ middle ++ back) :=
    String.Pos.Raw.isValid_iff_exists_append.2 ⟨front ++ middle, back, rfl, rfl⟩
  have hbytes : (front ++ middle ++ back).toByteArray.extract front.utf8ByteSize
      (front ++ middle).utf8ByteSize = middle.toByteArray := by
    have hinside : (front ++ middle).toByteArray.extract front.utf8ByteSize
        (front ++ middle).utf8ByteSize = middle.toByteArray := by
      rw [String.toByteArray_append, String.utf8ByteSize_append]
      exact ByteArray.extract_append_eq_right String.size_toByteArray.symm (by simp)
    rw [String.toByteArray_append, ByteArray.extract_append, hinside, String.size_toByteArray,
      Nat.sub_self]
    simp
  rw [slice?, if_pos ⟨hfirst, hlast, by rw [String.utf8ByteSize_append]; omega⟩, hbytes,
    String.fromUTF8?, dif_pos middle.isValidUTF8]
  rfl

/-- The byte after whole characters, if there is one, is the first of a character. -/
theorem isBoundary_append (front back : List Char) :
    isBoundary ((front ++ back).flatMap String.utf8EncodeChar) (byteCount front) = true := by
  rw [List.flatMap_append, ← length_flatMap_utf8EncodeChar, isBoundary_iff]
  cases back with
  | nil => exact .inr (.inl (by simp))
  | cons c back =>
    obtain ⟨b, more, hc, hb, -⟩ := utf8EncodeChar_eq_cons c
    refine .inr (.inr ⟨b, ?_, hb⟩)
    rw [List.getElem?_append_right (Nat.le_refl _), Nat.sub_self, List.flatMap_cons, hc]
    rfl

/-- A place at which no byte continues a character has whole characters before it. -/
theorem exists_append_of_isBoundary {cs : List Char} {place : Nat}
    (h : isBoundary (cs.flatMap String.utf8EncodeChar) place = true) :
    ∃ front back, cs = front ++ back ∧ byteCount front = place := by
  induction cs generalizing place with
  | nil =>
    obtain rfl | rfl | ⟨b, hb, -⟩ := isBoundary_iff.1 h
    · exact ⟨[], [], rfl, rfl⟩
    · exact ⟨[], [], rfl, rfl⟩
    · cases hb
  | cons c cs ih =>
    have hsize := String.length_utf8EncodeChar c
    rw [List.flatMap_cons, isBoundary_iff, List.length_append, hsize] at h
    obtain rfl | hpos := Nat.eq_zero_or_pos place
    · exact ⟨[], c :: cs, rfl, rfl⟩
    obtain hlt | hle := Nat.lt_or_ge place c.utf8Size
    · -- within the first character every byte continues it
      obtain ⟨b, more, hc, -, hmore⟩ := utf8EncodeChar_eq_cons c
      obtain ⟨i, rfl⟩ := Nat.exists_eq_add_one.2 hpos
      obtain hzero | hend | ⟨x, hx, hfirst⟩ := h
      · omega
      · omega
      · rw [List.getElem?_append_left (by omega), hc, List.getElem?_cons_succ] at hx
        rw [hmore x (List.mem_of_getElem? hx)] at hfirst
        cases hfirst
    · obtain ⟨p, rfl⟩ := Nat.exists_eq_add_of_le hle
      have hp : isBoundary (cs.flatMap String.utf8EncodeChar) p = true := by
        rw [isBoundary_iff]
        obtain hzero | hend | ⟨x, hx, hfirst⟩ := h
        · omega
        · exact .inr (.inl (by omega))
        · rw [List.getElem?_append_right (by omega), hsize, Nat.add_sub_cancel_left] at hx
          exact .inr (.inr ⟨x, hx, hfirst⟩)
      obtain ⟨front, back, rfl, rfl⟩ := ih hp
      exact ⟨c :: front, back, rfl, rfl⟩

/-- **Places between characters.** The byte after a place tells whether the text is made of two
texts there. -/
theorem isBoundary_iff_exists_append {text : String} {place : Nat} :
    isBoundary text.toByteArray.data.toList place = true ↔
      ∃ front back : String, text = front ++ back ∧ front.utf8ByteSize = place := by
  rw [bytes_eq]
  constructor
  · intro h
    obtain ⟨front, back, htext, hplace⟩ := exists_append_of_isBoundary h
    refine ⟨.ofList front, .ofList back, ?_, by rw [utf8ByteSize_ofList, hplace]⟩
    rw [← String.ofList_append, ← htext, String.ofList_toList]
  · rintro ⟨front, back, rfl, rfl⟩
    rw [utf8ByteSize_eq, String.toList_append]
    exact isBoundary_append front.toList back.toList

end Text
end EventRelay
