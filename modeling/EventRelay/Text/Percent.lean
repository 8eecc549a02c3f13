import EventRelay.Text.Hex

/-!
# Percent encoding

A byte may stand as a percent sign and two hexadecimal digits.

* `percentEncode`: a text in which the characters that a set does not allow stand as their bytes.
* `percentDecode`: the bytes that a text stands for; a percent sign without two digits is itself.
* `percentEncode_eq_self`: a text of allowed characters is left alone.
-/

namespace EventRelay.Text

/-- A byte as a percent sign and two upper-case digits. -/
def percentByte (b : UInt8) : List Char :=
  ['%', Hex.upperDigit (b.toNat / 16), Hex.upperDigit (b.toNat % 16)]

/-- A character as its bytes, each with a percent sign. -/
def percentChar (c : Char) : List Char :=
  (String.ofList [c]).toUTF8.toList.flatMap percentByte

/-- A text in which every character that is not allowed stands as its bytes. -/
def percentEncode (allowed : Char → Bool) (cs : List Char) : List Char :=
  cs.flatMap (fun c => if allowed c then [c] else percentChar c)

/-- The bytes that a text stands for. -/
def percentDecode : List UInt8 → List UInt8
  | [] => []
  | b :: rest =>
    if b = 37 then
      match rest with
      | high :: low :: more =>
        match Hex.digitValue? (Char.ofNat high.toNat), Hex.digitValue? (Char.ofNat low.toNat) with
        | some h, some l => UInt8.ofNat (16 * h + l) :: percentDecode more
        | _, _ => b :: percentDecode (high :: low :: more)
      | short => b :: short
    else b :: percentDecode rest

/-- A text of allowed characters is left alone. -/
theorem percentEncode_eq_self {allowed : Char → Bool} {cs : List Char}
    (h : ∀ c ∈ cs, allowed c = true) : percentEncode allowed cs = cs := by
  induction cs with
  | nil => rfl
  | cons c rest ih =>
    have hc := h c List.mem_cons_self
    have hr := ih (fun d hd => h d (List.mem_cons_of_mem _ hd))
    simp only [percentEncode, List.flatMap_cons, hc, if_true] at hr ⊢
    rw [hr]
    rfl

end EventRelay.Text
