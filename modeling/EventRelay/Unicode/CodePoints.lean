import EventRelay.Text.Hex
import EventRelay.Text.Number

/-!
# Tables of code points

A property of characters is written down as text: code points in hexadecimal digits, a range as its
first and its last with a hyphen between them, blanks between one and the next, in ascending order.

* `CodePoints.ofText`, `CodePoints.contains`: a set from its text, and whether it holds a character.
* `Classes.ofTexts`, `Classes.find?`: classes from a text each, and the class of a character.
* `lastFrom`: the search in ascending items.
* `mem_of_lastFrom`, `exists_of_contains`: what is found is one of the items.
-/

namespace EventRelay.Unicode

/-! ## Reading tables -/

/-- The number that hexadecimal digits make. -/
def hexNumber (cs : List Char) : Nat :=
  cs.foldl (fun n c => 16 * n + (Text.Hex.digitValue? c).getD 0) 0

/-- The words between blanks and line ends. -/
def words (s : String) : List (List Char) :=
  (Text.split ' ' (s.toList.map (fun c => if c = '\n' then ' ' else c))).filter (!·.isEmpty)

/-- The first and the last code point of a range; a single one is both. -/
def range (cs : List Char) : Nat × Nat :=
  let first := cs.takeWhile (· ≠ '-')
  let last := (cs.dropWhile (· ≠ '-')).drop 1
  (hexNumber first, hexNumber (if last.isEmpty then first else last))

/-! ## Searching tables -/

/-- The last of the items between two places that starts at `n` or before it, when the starts
ascend; the items before `low` start so. -/
def lastFrom {α : Type u} (start : α → Nat) (items : Array α) (n low high : Nat)
    (hhigh : high ≤ items.size) : Option α :=
  if hlow : low < high then
    if start items[(low + high) / 2] ≤ n then
      lastFrom start items n ((low + high) / 2 + 1) high hhigh
    else lastFrom start items n low ((low + high) / 2) (by omega)
  else if low = 0 then none
  else items[low - 1]?
termination_by high - low

/-- The last item that starts at `n` or before it. -/
def lastAtMost {α : Type u} (start : α → Nat) (items : Array α) (n : Nat) : Option α :=
  lastFrom start items n 0 items.size (Nat.le_refl _)

theorem mem_of_lastFrom {α : Type u} {start : α → Nat} {items : Array α} {n low high : Nat}
    {hhigh : high ≤ items.size} {x : α} (h : lastFrom start items n low high hhigh = some x) :
    x ∈ items := by
  fun_induction lastFrom start items n low high hhigh with
  | case1 _ _ _ _ _ ih => exact ih h
  | case2 _ _ _ _ _ ih => exact ih h
  | case3 => simp at h
  | case4 low _ _ _ _ => exact Array.mem_of_getElem? h

/-- What is found is one of the items. -/
theorem mem_of_lastAtMost {α : Type u} {start : α → Nat} {items : Array α} {n : Nat} {x : α}
    (h : lastAtMost start items n = some x) : x ∈ items := mem_of_lastFrom h

/-! ## Sets -/

/-- A set of code points: ranges in ascending order. -/
structure CodePoints where
  ranges : Array (Nat × Nat)

namespace CodePoints

/-- The set that a text writes down. -/
def ofText (s : String) : CodePoints := ⟨((words s).map range).toArray⟩

/-- Whether a set holds a character. -/
def contains (set : CodePoints) (c : Char) : Bool :=
  (lastAtMost (·.1) set.ranges c.toNat).any (fun r => r.1 ≤ c.toNat && c.toNat ≤ r.2)

/-- A character of a set lies in one of its ranges. -/
theorem exists_of_contains {set : CodePoints} {c : Char} (h : set.contains c = true) :
    ∃ r ∈ set.ranges, r.1 ≤ c.toNat ∧ c.toNat ≤ r.2 := by
  simp only [contains, Option.any_eq_true_iff_get, Bool.and_eq_true, decide_eq_true_eq] at h
  obtain ⟨hs, h⟩ := h
  exact ⟨_, mem_of_lastAtMost (Option.some_get hs).symm, h⟩

end CodePoints

/-! ## Classes -/

/-- Ranges of code points in ascending order, each with the class of its characters. -/
structure Classes (α : Type u) where
  runs : Array (Nat × Nat × α)

namespace Classes

variable {α : Type u}

/-- The classes that texts write down. -/
def ofTexts (texts : List (α × String)) : Classes α :=
  let runs := texts.flatMap (fun t => (words t.2).map (fun w => ((range w).1, (range w).2, t.1)))
  ⟨(runs.mergeSort (fun a b => a.1 ≤ b.1)).toArray⟩

/-- The class of a character, if it has one. -/
def find? (classes : Classes α) (c : Char) : Option α :=
  match lastAtMost (·.1) classes.runs c.toNat with
  | some run => if c.toNat ≤ run.2.1 then some run.2.2 else none
  | none => none

/-- A class that is found is that of a run. -/
theorem exists_of_find? {classes : Classes α} {c : Char} {a : α} (h : classes.find? c = some a) :
    ∃ run ∈ classes.runs, c.toNat ≤ run.2.1 ∧ run.2.2 = a := by
  simp only [find?] at h
  split at h
  · next run hrun =>
    split at h
    · next hle => exact ⟨run, mem_of_lastAtMost hrun, hle, Option.some.inj h⟩
    · simp at h
  · simp at h

end Classes
end EventRelay.Unicode
