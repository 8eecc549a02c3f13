import EventRelay.Entries
import EventRelay.Text.Number
import EventRelay.Text.Percent
import EventRelay.Text.Utf8

/-!
# Queries

The names and values behind the question mark of an address: pairs between ampersands, a name and
a value around the first equals sign, plus signs for blanks, percent signs for bytes.

* `Query.parse`: the table of a query; of two pairs with one name the later wins.
* `pairs_append`: an ampersand joins queries.
-/

namespace EventRelay.Http.Query

/-- A name or a value in plain text; malformed bytes are replaced. -/
def plain (cs : List Char) : String :=
  let spaced := cs.map (fun c => if c = '+' then ' ' else c)
  Text.decodeReplacing (Text.percentDecode (String.ofList spaced).toUTF8.toList)

/-- The name and the value of a piece; without an equals sign the value is empty. -/
def pair (cs : List Char) : String × String :=
  (plain (cs.takeWhile (· ≠ '=')), plain ((cs.dropWhile (· ≠ '=')).drop 1))

/-- The pairs of a query; empty pieces are none. -/
def pairs (cs : List Char) : List (String × String) :=
  ((Text.split '&' cs).filter (fun piece => !piece.isEmpty)).map pair

/-- The table of a query. -/
def parse (query : String) : Entries String := Entries.ofList (pairs query.toList)

/-- An ampersand joins queries. -/
theorem pairs_append (a b : List Char) : pairs (a ++ '&' :: b) = pairs a ++ pairs b := by
  simp [pairs, Text.split_eq_splitOn, List.splitOn_append_cons_self]

end EventRelay.Http.Query
