import EventRelay.Json.Basic
import EventRelay.Text.Number

/-!
# Paths into a document

A path is a list of segments joined by points. A segment names a member of an object or counts the
items of an array from zero; the empty path leads to the document itself.

* `Json.lookup`: the value at a path.
* `follow_append`: a longer walk goes on from where a shorter one ended.
-/

namespace EventRelay.Json

/-- The value one segment further. -/
def child? (j : Json) (segment : String) : Option Json :=
  match j with
  | .obj members => Entries.find? segment members
  | .arr items => (Text.word? segment.toList).bind (fun i => items[i]?)
  | _ => none

/-- The value at the end of a walk along segments. -/
def follow (j : Json) : List String → Option Json
  | [] => some j
  | segment :: rest => (j.child? segment).bind (fun next => next.follow rest)

/-- The value at a path. -/
def lookup (j : Json) (path : String) : Option Json :=
  if path.isEmpty then some j else j.follow (Text.splitString '.' path)

@[simp] theorem lookup_empty (j : Json) : j.lookup "" = some j := rfl

theorem follow_append (j : Json) (p q : List String) :
    j.follow (p ++ q) = (j.follow p).bind (fun next => next.follow q) := by
  induction p generalizing j with
  | nil => rfl
  | cons s p ih =>
    simp only [List.cons_append, follow, Option.bind_assoc]
    congr 1
    funext next
    exact ih next

end EventRelay.Json
