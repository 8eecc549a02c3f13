import EventRelay.Json.Fault
import EventRelay.Text.Hex

/-!
# Strings in a JSON text

A string ends at the first quote that no backslash escapes. Raw controls are refused, and so are
escaped surrogates that do not stand in a pair.

* `Json.literal`: a string, from the character after its first quote on.
-/

namespace EventRelay.Json

/-- The value of four hexadecimal digits. -/
def hexWord? (a b c d : Char) : Option Nat := do
  let a ← Text.Hex.digitValue? a
  let b ← Text.Hex.digitValue? b
  let c ← Text.Hex.digitValue? c
  let d ← Text.Hex.digitValue? d
  pure (((a * 16 + b) * 16 + c) * 16 + d)

/-- The fault of a text that does not start with four hexadecimal digits. -/
def badHex (cs : List Char) : Fault :=
  if Text.byteCount cs < 4 then .here .endInString [] else ⟨.badEscape, cs, 4⟩

/-- The character that a letter after a backslash stands for. -/
def simpleEscape? (c : Char) : Option Char :=
  if c = '"' ∨ c = '\\' ∨ c = '/' then some c
  else if c = 'b' then some '\x08'
  else if c = 'f' then some '\x0c'
  else if c = 'n' then some '\n'
  else if c = 'r' then some '\r'
  else if c = 't' then some '\t'
  else none

/-- The character of a pair of surrogates. -/
def ofSurrogates (high low : Nat) : Char :=
  Char.ofNat (0x10000 + (high - 0xD800) * 0x400 + (low - 0xDC00))

/-- The fault of a leading surrogate that no escaped one follows. -/
def unpaired : List Char → Fault
  | [] => .here .endInString []
  | '\\' :: [] => .here .endInString []
  | '\\' :: c :: rest => .next .cutHexEscape (c :: rest)
  | rest => .next .cutHexEscape rest

/-- The rest of a string, given its characters so far in reverse. -/
def literalFrom (done : List Char) : List Char → Except Fault (String × List Char)
  | [] => .error (.here .endInString [])
  | '"' :: rest => .ok (String.ofList done.reverse, rest)
  | '\\' :: [] => .error (.here .endInString [])
  | '\\' :: 'u' :: a :: b :: c :: d :: rest =>
    match hexWord? a b c d with
    | none => .error (badHex (a :: b :: c :: d :: rest))
    | some n =>
      if n < 0xD800 ∨ 0xDFFF < n then literalFrom (Char.ofNat n :: done) rest
      else if 0xDC00 ≤ n then .error (.here .loneSurrogate rest)
      else match rest with
        | '\\' :: 'u' :: a :: b :: c :: d :: rest =>
          match hexWord? a b c d with
          | none => .error (badHex (a :: b :: c :: d :: rest))
          | some low =>
            if 0xDC00 ≤ low ∧ low ≤ 0xDFFF then literalFrom (ofSurrogates n low :: done) rest
            else .error (.here .loneSurrogate rest)
        | '\\' :: 'u' :: rest => .error (badHex rest)
        | rest => .error (unpaired rest)
  | '\\' :: 'u' :: rest => .error (badHex rest)
  | '\\' :: c :: rest =>
    match simpleEscape? c with
    | some e => literalFrom (e :: done) rest
    | none => .error (.next .badEscape (c :: rest))
  | c :: rest =>
    if c.toNat < 0x20 then .error (.next .controlInString (c :: rest))
    else literalFrom (c :: done) rest

/-- A string, from the character after its first quote on. -/
def literal (cs : List Char) : Except Fault (String × List Char) := literalFrom [] cs

end EventRelay.Json
