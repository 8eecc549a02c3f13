import EventRelay.Text.Number

/-!
# Names and values on the wire

Names of methods and headers are tokens; header values are lines without control characters.

* `isToken`: whether a text can be a name.
* `isFieldName`: whether a text can be the name of a header.
* `isFieldValue`: whether bytes can be the value of a header.
* `isReadable`: whether the bytes of a value are plain ASCII text.
-/

namespace EventRelay.Http

/-- Whether a character may stand in a name. -/
def isTokenChar (c : Char) : Bool :=
  c.isAlphanum || "!#$%&\x27*+-.^_\x60|~".toList.contains c

/-- Whether a text can be a name. -/
def isToken (s : String) : Bool := !s.isEmpty && s.toList.all isTokenChar

/-- The longest name of a header, in bytes. -/
def maxNameBytes : Nat := 65535

/-- Whether a text can be the name of a header. -/
def isFieldName (s : String) : Bool := isToken s && s.utf8ByteSize ≤ maxNameBytes

/-- Whether a byte may stand in the value of a header: no control character but the tab. -/
def isFieldByte (b : UInt8) : Bool := (32 ≤ b && b != 127) || b == 9

/-- Whether bytes can be the value of a header. -/
def isFieldValue (value : ByteArray) : Bool := value.toList.all isFieldByte

/-- Whether the bytes of a value are plain ASCII text. -/
def isReadable (value : ByteArray) : Bool :=
  value.toList.all (fun b => (32 ≤ b && b < 127) || b == 9)

/-- Readable text can stand in a header. -/
theorem isFieldValue_of_isReadable {value : ByteArray} (h : isReadable value = true) :
    isFieldValue value = true := by
  simp only [isReadable, isFieldValue, List.all_eq_true, isFieldByte] at h ⊢
  intro b hb
  have := h b hb
  simp only [Bool.or_eq_true, Bool.and_eq_true, decide_eq_true_eq, bne_iff_ne, beq_iff_eq,
    UInt8.le_iff_toNat_le, UInt8.lt_iff_toNat_lt] at this ⊢
  rcases this with ⟨h1, h2⟩ | h2
  · refine .inl ⟨h1, fun he => ?_⟩
    subst he
    exact absurd h2 (by decide)
  · exact .inr h2

/-- The form in which header names are compared: lower case. -/
def headerName (s : String) : String := Text.asciiLower s

end EventRelay.Http
