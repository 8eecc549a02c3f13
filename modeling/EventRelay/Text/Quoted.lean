import EventRelay.Text.Hex
import EventRelay.Text.Visible

/-!
# Quoted text for people

A text between double quotes in which a quote, a backslash and the common controls are written
with a backslash, and every other character that would not be seen by its code point in braces.

* `quote`: the quoted form of a string.
-/

namespace EventRelay.Text

/-- How one character stands between the quotes. -/
def escapeVisible (c : Char) : List Char :=
  if c = '\x00' then ['\\', '0']
  else if c = '\t' then ['\\', 't']
  else if c = '\r' then ['\\', 'r']
  else if c = '\n' then ['\\', 'n']
  else if c = '"' then ['\\', '"']
  else if c = '\\' then ['\\', '\\']
  else if isVisible c then [c]
  else ['\\', 'u', '\x7b'] ++ Hex.ofNat c.toNat ++ ['\x7d']

/-- The quoted form of a string. -/
def quote (s : String) : String :=
  String.ofList ('"' :: s.toList.flatMap escapeVisible ++ ['"'])

end EventRelay.Text
