import EventRelay.Unicode.Composition
import EventRelay.Unicode.Joining
import EventRelay.Url.NameChar
import EventRelay.Url.Punycode

/-!
# Labels of names

A label is one part of a name. It is meant in any script and written in ASCII, behind a tag when
that takes another spelling.

* `Label.ofText?`: a label from a text in which characters stand for themselves.
* `Label.ascii_of_ofText?`: a label is written in ASCII.
-/

namespace EventRelay.Url

/-! ## Spelling -/

/-- The sign that keeps two letters from being joined. -/
def nonJoiner : Char := '\u200c'

/-- The sign that joins two letters. -/
def joiner : Char := '\u200d'

/-- Whether the signs about joining stand where they matter: after a mark that binds a letter to the
next, or, to keep them apart, between two letters that are joined without the sign. The letters
before are given from the last to the first. -/
def joinersFit (before : List Char) : List Char → Bool
  | [] => true
  | c :: rest =>
    (if c = nonJoiner || c = joiner then
      (before.head?.any (fun b => Unicode.combiningClass b = Unicode.viramaClass)) ||
        (c = nonJoiner && Unicode.firstJoins Unicode.Joining.isAfter before &&
          Unicode.firstJoins Unicode.Joining.isBefore rest)
    else true) && joinersFit (c :: before) rest

/-- Whether a text is well spelled: a mark stands after something, and so do the signs about
joining. -/
def isSpelled (text : List Char) : Bool :=
  !text.head?.any Unicode.isMark && joinersFit [] text

/-! ## Labels -/

/-- A label: the text that is meant and the text that is written. -/
structure Label where
  text : List Char
  ascii : List Char

/-- The longest text that is given another spelling. -/
def textLimit : Nat := 1000

/-- The longest text that is read behind a tag. -/
def codeLimit : Nat := 2000

/-- What is meant by a text behind a tag: one that cannot do without it, in the form in which it
would be typed. -/
def taggedText? (code : List Char) : Option (List Char) :=
  if code.length ≤ codeLimit && code.all Punycode.isAscii && code.getLast?.any (· ≠ '-') then
    (Punycode.decode? code).filter (fun text =>
      !text.all Punycode.isAscii && text.all isSimple && Unicode.composed text = text)
  else none

/-- A label from a text in which characters stand for themselves. -/
def Label.ofText? (cs : List Char) : Option Label :=
  let label? : Option Label :=
    match cs with
    | 'x' :: 'n' :: '-' :: '-' :: code => (taggedText? code).map (fun text => ⟨text, cs⟩)
    | cs =>
      if cs.all Punycode.isAscii then some ⟨cs, cs⟩
      else if cs.length ≤ textLimit then
        some ⟨cs, ['x', 'n', '-', '-'] ++ Punycode.encode cs⟩
      else none
  label?.filter (isSpelled ·.text)

/-- A tag is read only before ASCII. -/
theorem ascii_of_taggedText? {code text : List Char} (h : taggedText? code = some text) :
    ∀ c ∈ code, c.toNat < 128 := by
  simp only [taggedText?] at h
  split at h
  · next hcode =>
    simp only [Bool.and_eq_true, List.all_eq_true, Punycode.isAscii, decide_eq_true_eq] at hcode
    exact hcode.1.2
  · simp at h

/-- A label is written in ASCII. -/
theorem Label.ascii_of_ofText? {cs : List Char} {label : Label} (h : ofText? cs = some label) :
    ∀ c ∈ label.ascii, c.toNat < 128 := by
  simp only [ofText?, Option.filter_eq_some_iff] at h
  replace h := h.1
  split at h
  · next code =>
    obtain ⟨text, htext, rfl⟩ := Option.map_eq_some_iff.1 h
    intro c hc
    simp only [List.mem_cons] at hc
    rcases hc with rfl | rfl | rfl | rfl | hc
    · decide
    · decide
    · decide
    · decide
    · exact ascii_of_taggedText? htext c hc
  · next cs =>
    split at h
    · next hall =>
      obtain rfl := Option.some.inj h
      simpa [Punycode.isAscii] using hall
    · split at h
      · obtain rfl := Option.some.inj h
        intro c hc
        rcases List.mem_append.1 hc with hc | hc
        · have : ['x', 'n', '-', '-'].all (fun d => d.toNat < 128) = true := by decide
          simpa using List.all_eq_true.1 this c hc
        · exact Punycode.encode_ascii _ c hc
      · simp at h

end EventRelay.Url
