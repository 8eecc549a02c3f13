import EventRelay.Unicode.Direction
import EventRelay.Url.Label

/-!
# Names of hosts

A name is a row of labels between points. Where a label runs from right to left, each one has to
read as a line that runs one way, so that the labels are seen in their order.

* `asciiName?`: the name in ASCII.
* `ascii_of_nameLabels?`: each label of a name is written in ASCII.
-/

namespace EventRelay.Url

/-- The kinds of the characters of a label as it is meant. -/
def Label.directions (label : Label) : List Unicode.Direction := label.text.map Unicode.direction

/-- Whether labels are seen in their order. -/
def areInOrder (labels : List Label) : Bool :=
  !(labels.any (·.directions.any Unicode.Direction.isRightToLeft)) ||
    labels.all (fun label => Unicode.Direction.isLine label.directions)

/-- The labels of a name. -/
def nameLabels? (cs : List Char) : Option (List Label) := do
  let text ← simplified? cs
  let labels ← (Text.split '.' (Unicode.composed text)).mapM Label.ofText?
  if areInOrder labels then some labels else none

/-- A name in ASCII. -/
def asciiName? (cs : List Char) : Option String :=
  (nameLabels? cs).map (fun labels =>
    String.intercalate "." (labels.map (fun label => String.ofList label.ascii)))

theorem ascii_of_mapM {texts : List (List Char)} {labels : List Label}
    (h : texts.mapM Label.ofText? = some labels) :
    ∀ label ∈ labels, ∀ c ∈ label.ascii, c.toNat < 128 := by
  induction texts generalizing labels with
  | nil =>
    obtain rfl : [] = labels := by simpa using h
    simp
  | cons t rest ih =>
    simp only [List.mapM_cons, Option.bind_eq_bind, Option.bind_eq_some_iff, Option.pure_def,
      Option.some.injEq] at h
    obtain ⟨first, hfirst, more, hmore, rfl⟩ := h
    intro label hl
    rcases List.mem_cons.1 hl with rfl | hl
    · exact Label.ascii_of_ofText? hfirst
    · exact ih hmore label hl

/-- Each label of a name is written in ASCII. -/
theorem ascii_of_nameLabels? {cs : List Char} {labels : List Label}
    (h : nameLabels? cs = some labels) : ∀ label ∈ labels, ∀ c ∈ label.ascii, c.toNat < 128 := by
  simp only [nameLabels?, Option.bind_eq_bind, Option.bind_eq_some_iff] at h
  obtain ⟨text, -, all, hall, h⟩ := h
  split at h
  · obtain rfl := Option.some.inj h
    exact ascii_of_mapM hall
  · simp at h

end EventRelay.Url
