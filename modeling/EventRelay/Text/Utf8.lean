/-!
# UTF-8

Byte counts of texts, the longest start of a text that fits a number of bytes, and the text of
bytes in which every malformed piece is replaced.

* `byteCount`: the bytes a text takes.
* `fitting`: the longest start of a text within a number of bytes, whole characters only.
* `Decoder`: one byte at a time, as a state machine; `decodeReplacing` runs it.
-/

namespace EventRelay.Text

/-- The number of bytes that a text takes. -/
def byteCount : List Char → Nat
  | [] => 0
  | c :: rest => c.utf8Size + byteCount rest

/-- The longest start of a text that takes at most `max` bytes and ends between characters. -/
def fitting (max : Nat) : List Char → List Char
  | [] => []
  | c :: rest => if c.utf8Size ≤ max then c :: fitting (max - c.utf8Size) rest else []

@[simp] theorem byteCount_nil : byteCount [] = 0 := rfl

theorem byteCount_append (a b : List Char) : byteCount (a ++ b) = byteCount a + byteCount b := by
  induction a with
  | nil => simp
  | cons c r ih => simp [byteCount, ih, Nat.add_assoc]

theorem fitting_isPrefix (max : Nat) (cs : List Char) : ∃ rest, cs = fitting max cs ++ rest := by
  induction cs generalizing max with
  | nil => exact ⟨[], rfl⟩
  | cons c r ih =>
    simp only [fitting]
    split
    · obtain ⟨rest, h⟩ := ih (max - c.utf8Size)
      exact ⟨rest, by rw [List.cons_append, ← h]⟩
    · exact ⟨c :: r, rfl⟩

theorem byteCount_fitting_le (max : Nat) (cs : List Char) : byteCount (fitting max cs) ≤ max := by
  induction cs generalizing max with
  | nil => simp [fitting]
  | cons c r ih =>
    simp only [fitting]
    split
    · have := ih (max - c.utf8Size)
      simp only [byteCount]
      omega
    · simp

/-- A string cut to the longest start within `max` bytes. -/
def truncate (max : Nat) (s : String) : String := String.ofList (fitting max s.toList)

/-! ## Reading bytes, malformed pieces replaced -/

/-- The character that stands for a malformed piece. -/
def replacement : Char := Char.ofNat 0xFFFD

/-- Where a reader stands between bytes: how many continuation bytes are owed, the range of the
next one, and the bits of the character so far. -/
structure Decoder where
  owed : Nat
  low : UInt8
  high : UInt8
  bits : Nat
  deriving DecidableEq, Repr

/-- Between characters. -/
def Decoder.start : Decoder := ⟨0, 0x80, 0xBF, 0⟩

/-- The first byte of a character: what is written and where the reader then stands. -/
def Decoder.first (b : UInt8) : List Char × Decoder :=
  let n := b.toNat
  if n < 0x80 then ([Char.ofNat n], start)
  else if n < 0xC2 then ([replacement], start)
  else if n < 0xE0 then ([], ⟨1, 0x80, 0xBF, n % 32⟩)
  else if n < 0xF0 then
    ([], ⟨2, if n = 0xE0 then 0xA0 else 0x80, if n = 0xED then 0x9F else 0xBF, n % 16⟩)
  else if n < 0xF5 then
    ([], ⟨3, if n = 0xF0 then 0x90 else 0x80, if n = 0xF4 then 0x8F else 0xBF, n % 8⟩)
  else ([replacement], start)

/-- One byte: a byte that cannot continue the character ends it as malformed and starts anew. -/
def Decoder.step (d : Decoder) (b : UInt8) : List Char × Decoder :=
  if d.owed = 0 then first b
  else if d.low ≤ b && b ≤ d.high then
    let bits := d.bits * 64 + b.toNat % 64
    if d.owed = 1 then ([Char.ofNat bits], start) else ([], ⟨d.owed - 1, 0x80, 0xBF, bits⟩)
  else
    let (cs, d) := first b
    (replacement :: cs, d)

/-- The characters of bytes from a place on; a character cut off by the end is malformed. -/
def Decoder.run (d : Decoder) : List UInt8 → List Char
  | [] => if d.owed = 0 then [] else [replacement]
  | b :: rest =>
    let (cs, d) := d.step b
    cs ++ d.run rest

/-- The text of bytes in which every malformed piece is replaced. -/
def decodeReplacing (bytes : List UInt8) : String := String.ofList (Decoder.start.run bytes)

/-- The text of bytes that are well formed. -/
def decode? (bytes : ByteArray) : Option String := String.fromUTF8? bytes

end EventRelay.Text
