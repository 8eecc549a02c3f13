import EventRelay.Proofs.Json.Written

/-!
# Written values stand on one line

The text of a value holds no control below U+0020, whatever strings the value holds, so it can be
printed as one line among others.

* `Text.OneLine`: a text without these controls.
* `Layout.oneLine_write`: doubles, in every layout.
* `Json.oneLine_escapeChar`: a character of a string, be it a control or not.
* `Json.oneLine_write`: values.
-/

namespace EventRelay

namespace Text

/-- A text without controls below U+0020, so without line breaks. -/
def OneLine (cs : List Char) : Prop := ∀ c ∈ cs, 0x20 ≤ c.toNat

variable {cs ds : List Char}

@[simp] theorem oneLine_nil : OneLine [] := fun _ h => nomatch h

@[simp] theorem oneLine_cons {c : Char} : OneLine (c :: cs) ↔ 0x20 ≤ c.toNat ∧ OneLine cs :=
  List.forall_mem_cons

@[simp] theorem oneLine_append : OneLine (cs ++ ds) ↔ OneLine cs ∧ OneLine ds :=
  List.forall_mem_append

theorem OneLine.sublist (h : OneLine ds) (hsub : cs.Sublist ds) : OneLine cs :=
  fun c hc => h c (hsub.subset hc)

theorem oneLine_flatMap {α : Type} {f : α → List Char} {items : List α}
    (h : ∀ item ∈ items, OneLine (f item)) : OneLine (items.flatMap f) := by
  intro c hc
  obtain ⟨item, hitem, hc⟩ := List.mem_flatMap.1 hc
  exact h item hitem c hc

theorem oneLine_replicate {c : Char} (h : 0x20 ≤ c.toNat) (n : Nat) :
    OneLine (List.replicate n c) := by
  intro d hd
  rwa [List.eq_of_mem_replicate hd]

theorem oneLine_toDigits (n : Nat) : OneLine (Nat.toDigits 10 n) := by
  intro c hc
  have hdigit := Char.isDigit_iff_toNat.1
    (Nat.isDigit_of_mem_toDigits (b := 10) (by decide) (by decide) hc)
  exact Nat.le_trans (by decide) hdigit.1

theorem oneLine_padded (width n : Nat) : OneLine (Hex.padded width n) := by
  have hdigit : ∀ m < 16, 0x20 ≤ (Hex.digit m).toNat := by decide
  intro c hc
  obtain ⟨m, hm, rfl⟩ := Hex.eq_digit_of_mem_padded hc
  exact hdigit m hm

end Text

open Text

/-! ## Numbers -/

namespace Layout

theorem oneLine_plain (layout : Layout) {digits : List Char} (h : OneLine digits) (top : Int) :
    OneLine (layout.plain digits top) := by
  have hzeros : ∀ n, OneLine (List.replicate n '0') := oneLine_replicate (by decide)
  rw [plain]
  split
  · exact oneLine_append.2 ⟨oneLine_append.2 ⟨by simp, hzeros _⟩, h⟩
  · dsimp only
    split
    · refine oneLine_append.2 ⟨oneLine_append.2 ⟨h, hzeros _⟩, ?_⟩
      split <;> simp
    · exact oneLine_append.2 ⟨oneLine_append.2 ⟨h.sublist (List.take_sublist ..), by simp⟩,
        h.sublist (List.drop_sublist ..)⟩

theorem oneLine_scientific {digits : List Char} (h : OneLine digits) (top : Int) :
    OneLine (scientific digits top) := by
  have hsign : 0x20 ≤ (if top < 0 then '-' else '+').toNat := by split <;> decide
  unfold scientific
  dsimp only
  refine oneLine_append.2 ⟨oneLine_append.2 ⟨?_, by simp [hsign]⟩, oneLine_toDigits _⟩
  split
  · simpa using h
  · exact h

theorem oneLine_write (layout : Layout) (x : Finite64) : OneLine (layout.write x) := by
  have hdigits := oneLine_toDigits x.shortest.digits
  refine oneLine_append.2 ⟨by split <;> simp, ?_⟩
  rw [writeSize]
  split
  · exact layout.oneLine_plain hdigits _
  · exact oneLine_scientific hdigits _

end Layout

namespace Json

theorem oneLine_integerText (i : Int) : OneLine (integerText i) := by
  rw [integerText]
  split
  · exact oneLine_cons.2 ⟨by decide, oneLine_toDigits _⟩
  · exact oneLine_toDigits _

theorem Number.oneLine_text : ∀ n : Number, OneLine n.text
  | .int i _ => oneLine_integerText i
  | .float x => Layout.document.oneLine_write x

/-! ## Strings -/

/-- A letter that stands for a character is no control. -/
theorem le_of_simpleEscape? {e c : Char} (h : simpleEscape? e = some c) : 0x20 ≤ e.toNat := by
  by_contra hlow
  have hne : ∀ d : Char, 0x20 ≤ d.toNat → e ≠ d := fun d hd he => hlow (he ▸ hd)
  have hnone : simpleEscape? e = none := by
    simp [simpleEscape?, hne '"' (by decide), hne '\\' (by decide), hne '/' (by decide),
      hne 'b' (by decide), hne 'f' (by decide), hne 'n' (by decide), hne 'r' (by decide),
      hne 't' (by decide)]
  rw [hnone] at h
  cases h

/-- No control is written as it is. -/
theorem oneLine_escapeChar (c : Char) : OneLine (escapeChar c) := by
  obtain ⟨hlow, -, -, he⟩ | ⟨e, -, hsimple, he⟩ | ⟨-, he⟩ := escapeChar_cases c
  · rw [he]
    simpa using hlow
  · rw [he]
    simpa using le_of_simpleEscape? hsimple
  · rw [he]
    simpa using oneLine_padded 4 c.toNat

theorem oneLine_stringText (s : String) : OneLine (stringText s) := by
  rw [stringText, List.cons_append]
  refine oneLine_cons.2 ⟨by decide, oneLine_append.2 ⟨?_, by simp⟩⟩
  exact oneLine_flatMap fun c _ => oneLine_escapeChar c

/-! ## Values -/

mutual

/-- The text of a value stands on one line. -/
theorem oneLine_write : ∀ j : Json, OneLine j.write
  | .null | .bool true | .bool false | .arr [] | .obj [] => by simp [write]
  | .num n => by
    rw [write]
    exact n.oneLine_text
  | .str s => by
    rw [write]
    exact oneLine_stringText s
  | .arr (item :: items) => by
    simp [write, oneLine_write item, oneLine_writeItems items]
  | .obj ((name, value) :: members) => by
    simp [write, oneLine_stringText name, oneLine_write value, oneLine_writeMembers members]

theorem oneLine_writeItems : ∀ items : List Json, OneLine (writeItems items)
  | [] => by simp [writeItems]
  | item :: items => by
    simp [writeItems, oneLine_write item, oneLine_writeItems items]

theorem oneLine_writeMembers : ∀ members : List (String × Json), OneLine (writeMembers members)
  | [] => by simp [writeMembers]
  | (name, value) :: members => by
    simp [writeMembers, oneLine_stringText name, oneLine_write value,
      oneLine_writeMembers members]

end

end Json
end EventRelay
