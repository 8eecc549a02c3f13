import EventRelay.Json.FlatText
import EventRelay.Proofs.Json.Equality
import EventRelay.Proofs.Json.Written

/-!
# The flat text of arrays and objects

The flat text of an array or an object is its compact text. Deeply equal values share it unless a
zero is signed in the one and not in the other, and without doubles only deeply equal values do.

* `Json.Composite`: an array or an object.
* `write_cancel`: of values that are the same but for the signs of zeros, the text tells which it
  is.
* `flatText_eq_iff_of_sameAs`: when deeply equal values have one flat text.
* `write_injective`: without doubles a text is of one value.
* `flatText_canonical`: flat text as a canonical form.
-/

namespace EventRelay
namespace Json

/-- An array or an object. -/
def Composite : Json → Prop
  | .arr _ | .obj _ => True
  | _ => False

theorem flatText_of_composite {j : Json} (h : j.Composite) : j.flatText = j.render := by
  cases j with
  | arr items => rfl
  | obj members => rfl
  | _ => cases h

/-! ## Values that are the same but for the signs of zeros -/

/-- The text of a zero shows its sign. -/
theorem write_zero (negative : Bool) : Layout.document.write (.zero negative) =
    (if negative then ['-'] else []) ++ ['0', '.', '0'] := by
  cases negative <;> decide +kernel

/-- Of numbers that are the same but for the sign of a zero, the text tells which it is. -/
theorem Number.text_cancel {x y : Number} {rest rest' : List Char} (h : x.unsigned = y.unsigned)
    (htext : x.text ++ rest = y.text ++ rest') : x = y ∧ rest = rest' := by
  have hsame : x = y → x = y ∧ rest = rest' := by
    rintro rfl
    exact ⟨rfl, List.append_cancel_left htext⟩
  cases x with
  | int i fits =>
    cases y with
    | int k fits' => exact hsame h
    | float y => cases h
  | float x =>
    cases y with
    | int k fits => cases h
    | float y =>
      have hvalue := Finite64.sameValue_iff.2 (Number.float.inj h)
      obtain ⟨hx, hy⟩ | rfl := Finite64.sameValue_cases.1 hvalue
      · -- Two zeros with different signs have texts that start differently.
        obtain ⟨negative, rfl⟩ : ∃ negative, x = .zero negative :=
          ⟨_, Finite64.eq_zero_of_isZero hx⟩
        obtain ⟨negative', rfl⟩ : ∃ negative', y = .zero negative' :=
          ⟨_, Finite64.eq_zero_of_isZero hy⟩
        simp only [text, write_zero] at htext
        cases negative <;> cases negative'
        · exact hsame rfl
        · simp at htext
        · simp at htext
        · exact hsame rfl
      · exact hsame rfl

mutual

/-- Of values that are the same but for the signs of zeros, the text tells which it is. -/
theorem write_cancel : ∀ {a b : Json} {rest rest' : List Char}, a.unsigned = b.unsigned →
    a.write ++ rest = b.write ++ rest' → a = b ∧ rest = rest'
  | .null, b, _, _, h, htext => by
    cases b with
    | null => exact ⟨rfl, List.append_cancel_left htext⟩
    | _ => cases h
  | .bool a, b, _, _, h, htext => by
    cases b with
    | bool b =>
      obtain rfl := Json.bool.inj h
      exact ⟨rfl, List.append_cancel_left htext⟩
    | _ => cases h
  | .num x, b, _, _, h, htext => by
    cases b with
    | num y =>
      obtain ⟨rfl, hrest⟩ := Number.text_cancel (Json.num.inj h) htext
      exact ⟨rfl, hrest⟩
    | _ => cases h
  | .str s, b, _, _, h, htext => by
    cases b with
    | str t =>
      obtain rfl := Json.str.inj h
      exact ⟨rfl, List.append_cancel_left htext⟩
    | _ => cases h
  | .arr xs, b, rest, rest', h, htext => by
    cases b with
    | arr ys =>
      have hsame := Json.arr.inj h
      -- After its first item an array is written as it would be after an item before.
      have hitems : writeItems xs ++ rest = writeItems ys ++ rest' := by
        cases xs <;> cases ys <;> simp_all [write, writeItems, unsignedItems]
      obtain ⟨rfl, hrest⟩ := writeItems_cancel hsame hitems
      exact ⟨rfl, hrest⟩
    | _ => cases h
  | .obj xs, b, rest, rest', h, htext => by
    cases b with
    | obj ys =>
      have hsame := Json.obj.inj h
      have hmembers : writeMembers xs ++ rest = writeMembers ys ++ rest' := by
        cases xs <;> cases ys <;> simp_all [write, writeMembers, unsignedMembers]
      obtain ⟨rfl, hrest⟩ := writeMembers_cancel hsame hmembers
      exact ⟨rfl, hrest⟩
    | _ => cases h

theorem writeItems_cancel : ∀ {xs ys : List Json} {rest rest' : List Char},
    unsignedItems xs = unsignedItems ys → writeItems xs ++ rest = writeItems ys ++ rest' →
      xs = ys ∧ rest = rest'
  | [], [], _, _, _, htext => ⟨rfl, List.append_cancel_left htext⟩
  | x :: xs, y :: ys, _, _, h, htext => by
    obtain ⟨hx, hxs⟩ := List.cons.inj h
    simp only [writeItems, List.cons_append, List.append_assoc, List.cons.injEq, true_and] at htext
    obtain ⟨rfl, hmore⟩ := write_cancel hx htext
    obtain ⟨rfl, hrest⟩ := writeItems_cancel hxs hmore
    exact ⟨rfl, hrest⟩

theorem writeMembers_cancel : ∀ {xs ys : List (String × Json)} {rest rest' : List Char},
    unsignedMembers xs = unsignedMembers ys → writeMembers xs ++ rest = writeMembers ys ++ rest' →
      xs = ys ∧ rest = rest'
  | [], [], _, _, _, htext => ⟨rfl, List.append_cancel_left htext⟩
  | (name, x) :: xs, (name', y) :: ys, _, _, h, htext => by
    obtain ⟨he, hxs⟩ := List.cons.inj h
    obtain ⟨rfl, hx⟩ := Prod.mk.inj he
    simp only [writeMembers, List.cons_append, List.append_assoc, List.cons.injEq, true_and]
      at htext
    obtain ⟨rfl, hmore⟩ := write_cancel hx (List.cons.inj (List.append_cancel_left htext)).2
    obtain ⟨rfl, hrest⟩ := writeMembers_cancel hxs hmore
    exact ⟨rfl, hrest⟩

end

theorem render_inj {a b : Json} : a.render = b.render ↔ a.write = b.write :=
  String.ofList_inj

/-- **Equal composites.** Arrays and objects are deeply equal when they are the same but for the
signs of zeros, and those that are have one flat text exactly when they are the same in these signs
too. So deeply equal ones without a negative zero have one flat text. -/
theorem flatText_eq_iff_of_sameAs {a b : Json} (hca : a.Composite) (hcb : b.Composite)
    (ha : a.Ordered) (hb : b.Ordered) :
    (a.sameAs b = true ↔ a.unsigned = b.unsigned) ∧
    (a.sameAs b = true → (a.flatText = b.flatText ↔ a = b)) ∧
    (a.sameAs b = true → a.unsigned = a → b.unsigned = b → a.flatText = b.flatText) := by
  refine ⟨sameAs_iff ha hb, fun h => ⟨fun htext => ?_, fun h => by rw [h]⟩, fun h hpos hpos' => ?_⟩
  · rw [flatText_of_composite hca, flatText_of_composite hcb, render_inj] at htext
    exact (write_cancel ((sameAs_iff ha hb).1 h) (congrArg (· ++ []) htext)).1
  · rw [← hpos, ← hpos', (sameAs_iff ha hb).1 h]

/-- Arrays that hold a zero each are deeply equal, and one of them shows a sign. -/
theorem flatText_eq_iff_of_sameAs_zeros :
    (arr [num (.float (.zero false))]).Composite ∧ (arr [num (.float (.zero true))]).Composite ∧
    (arr [num (.float (.zero false))]).Ordered ∧ (arr [num (.float (.zero true))]).Ordered ∧
    (arr [num (.float (.zero false))]).sameAs (arr [num (.float (.zero true))]) = true ∧
    (arr [num (.float (.zero false))]).flatText ≠ (arr [num (.float (.zero true))]).flatText := by
  have hsame : (arr [num (.float (.zero false))]).sameAs (arr [num (.float (.zero true))]) = true :=
    by decide +kernel
  obtain ⟨-, htext, -⟩ := flatText_eq_iff_of_sameAs (a := arr [num (.float (.zero false))])
    (b := arr [num (.float (.zero true))]) trivial trivial ⟨trivial, trivial⟩ ⟨trivial, trivial⟩
  refine ⟨trivial, trivial, ⟨trivial, trivial⟩, ⟨trivial, trivial⟩, hsame, fun h => ?_⟩
  exact absurd ((htext hsame).1 h) (by decide +kernel)

/-! ## Values without doubles -/

mutual

/-- There is no zero to take a sign from. -/
theorem unsigned_of_exact : ∀ {j : Json}, j.Exact → j.unsigned = j
  | .null, _ | .bool _, _ | .num (.int _ _), _ | .str _, _ => rfl
  | .arr _, h => congrArg Json.arr (unsignedItems_of_exact h)
  | .obj _, h => congrArg Json.obj (unsignedMembers_of_exact h)

theorem unsignedItems_of_exact : ∀ {items : List Json}, ItemsExact items →
    unsignedItems items = items
  | [], _ => rfl
  | _ :: _, ⟨hitem, hitems⟩ => by
    rw [unsignedItems, unsigned_of_exact hitem, unsignedItems_of_exact hitems]

theorem unsignedMembers_of_exact : ∀ {members : List (String × Json)}, MembersExact members →
    unsignedMembers members = members
  | [], _ => rfl
  | (_, _) :: _, ⟨hvalue, hmembers⟩ => by
    rw [unsignedMembers, unsigned_of_exact hvalue, unsignedMembers_of_exact hmembers]

end

/-- A text is of one value without doubles, however deep. -/
theorem write_injective {a b : Json} (ha : a.Ordered) (hb : b.Ordered) (hxa : a.Exact)
    (hxb : b.Exact) (h : a.write = b.write) : a = b := by
  have hread : ∀ {j : Json}, j.Ordered → j.Exact → j.nesting ≤ max a.nesting b.nesting →
      j.write = a.write → value a.write.length (max a.nesting b.nesting) a.write = .ok (j, []) := by
    intro j hj hx hdeep htext
    have hread := value_write j (within_iff.2 ⟨hj, hdeep⟩) hx (Nat.le_refl _) (.inl rfl)
    rwa [List.append_nil, htext] at hread
  have hsame := (hread ha hxa (Nat.le_max_left _ _) rfl).symm.trans
    (hread hb hxb (Nat.le_max_right _ _) h.symm)
  exact (Prod.mk.inj (Except.ok.inj hsame)).1

/-- **Flat text as a canonical form.** Arrays and objects without doubles have one flat text exactly
when they are deeply equal. The flat text of one that is nested at most 127 deep is read, and what
is read is deeply equal to it. -/
theorem flatText_canonical {a b : Json} (hca : a.Composite) (hcb : b.Composite)
    (ha : a.Ordered) (hb : b.Ordered) (hxa : a.Exact) (hxb : b.Exact) :
    (a.flatText = b.flatText ↔ a.sameAs b = true) ∧
    (a.nesting ≤ 127 → ∃ j, parse a.flatText = .ok j ∧ j.sameAs a = true) := by
  refine ⟨⟨fun htext => ?_, fun hsame => ?_⟩, fun hdeep => ⟨a, ?_, (sameAs_iff ha ha).2 rfl⟩⟩
  · rw [flatText_of_composite hca, flatText_of_composite hcb, render_inj] at htext
    rw [write_injective ha hb hxa hxb htext]
    exact (sameAs_iff hb hb).2 rfl
  · have hsame := (sameAs_iff ha hb).1 hsame
    rw [unsigned_of_exact hxa, unsigned_of_exact hxb] at hsame
    rw [hsame]
  · rw [flatText_of_composite hca]
    exact parse_write (within_iff.2 ⟨ha, hdeep⟩) hxa

/-- An object with an escaped name, the least and the greatest integer, and a string. -/
def intricate (s : String) : Json :=
  .obj [("", .str s), ("\"\\\n", .arr [.num (.ofInt64 (-9223372036854775808)),
    .ofUInt64 18446744073709551615, .arr [], .obj []])]

theorem flatText_canonical_intricate :
    (intricate "\x01").Composite ∧ (intricate "\\u0001").Composite ∧
    (intricate "\x01").Ordered ∧ (intricate "\\u0001").Ordered ∧
    (intricate "\x01").Exact ∧ (intricate "\\u0001").Exact ∧
    (intricate "\x01").flatText ≠ (intricate "\\u0001").flatText ∧
    ∃ j, parse (intricate "\x01").flatText = .ok j ∧ j.sameAs (intricate "\x01") = true := by
  have hnames : "" < "\"\\\n" := by decide
  have hordered : ∀ s, (intricate s).Ordered := fun s =>
    ⟨List.pairwise_pair.2 hnames, trivial, ⟨trivial, trivial, trivial, ⟨.nil, trivial⟩, trivial⟩,
      trivial⟩
  have hexact : ∀ s, (intricate s).Exact := fun s =>
    ⟨trivial, ⟨trivial, trivial, trivial, trivial, trivial⟩, trivial⟩
  obtain ⟨htext, hread⟩ := flatText_canonical (a := intricate "\x01") (b := intricate "\\u0001")
    trivial trivial (hordered _) (hordered _) (hexact _) (hexact _)
  refine ⟨trivial, trivial, hordered _, hordered _, hexact _, hexact _, fun h => ?_,
    hread (by decide)⟩
  exact absurd (htext.1 h) (by decide +kernel)

end Json
end EventRelay
