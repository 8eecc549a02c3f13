import EventRelay.Decimal.Layout

/-!
# What a panic carries

A handler that fails in an unforeseen way ends by a panic, which carries a payload. Texts, numbers
of the usual kinds, truth values and characters are shown; any other payload is not.

* `Payload.message`: the payload in words.
-/

namespace EventRelay

/-- The payload of a panic. -/
inductive Payload where
  | text (s : String)
  | integer (i : Int)
  | double (x : Binary64)
  | flag (b : Bool)
  | character (c : Char)
  | unshown
  deriving DecidableEq

/-- The payload in words. -/
def Payload.message : Payload → String
  | .text s => s
  | .integer i => toString i
  | .double x => x.messageText
  | .flag b => if b then "true" else "false"
  | .character c => String.ofList [c]
  | .unshown => "non-string panic payload"

end EventRelay
