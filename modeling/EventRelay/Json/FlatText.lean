import EventRelay.Json.Printer

/-!
# Flat text of a value

One line of text for a value in a log field or a topic: strings stand as they are, doubles keep two
places, null is empty, and arrays and objects are their compact JSON.

* `Json.flatText`: the flat text.
* `Json.fieldText`: the text of a log field, in which null and doubles are written as in JSON.
-/

namespace EventRelay.Json

/-- The flat text of a value. -/
def flatText : Json → String
  | .null => ""
  | .bool b => if b then "true" else "false"
  | .num (.int i _) => String.ofList (integerText i)
  | .num (.float x) => String.ofList (x.fixedText 2)
  | .str s => s
  | .arr items => (Json.arr items).render
  | .obj members => (Json.obj members).render

/-- The text of a log field: a string as it is and everything else as JSON. -/
def fieldText : Json → String
  | .str s => s
  | j => j.render

end EventRelay.Json
