import EventRelay.Json.Equality
import EventRelay.Proofs.Json.Shape

/-!
# Deep equality is an equivalence

Two values whose tables are in order are deeply equal exactly when they are the same but for the
signs of zeros. So deep equality has the laws of equality, although it looks up the members of the
one object in the other and never the other way round.

* `Json.unsigned`: a value without the signs of its zeros.
* `sameAs_iff`: deep equality is to be the same without those signs.
* `Json.built`: the value that comes of inserting members one after another. `Rearranged`: the same
  members, inserted in another order.
* `Rearranged.built_eq`: the order does not show.
* `EncodesInOrder`: what is written as a value whose tables are in order.
* `sameAs_equivalence`: the laws, of values and of what is written as a value.
-/

namespace EventRelay

/-! ## Doubles -/

/-- A double without the sign of a zero. -/
def Finite64.unsigned (x : Finite64) : Finite64 := if x.isZero then .zero false else x

/-- A zero is nothing but a sign. -/
theorem Finite64.eq_zero_of_isZero {x : Finite64} (h : x.isZero = true) : x = .zero x.negative := by
  obtain ⟨negative, significand, scale, hsmall, hnormal, hscale⟩ := x
  simp only [isZero, beq_iff_eq] at h
  subst h
  have hzero : scale = 0 := by
    obtain hzero | hlarge := hnormal
    · exact hzero
    · exact absurd hlarge (by decide)
  subst hzero
  rfl

/-- Doubles have the same value when both are zero or they are the same. -/
theorem Finite64.sameValue_cases {x y : Finite64} :
    x.sameValue y = true ↔ x.isZero = true ∧ y.isZero = true ∨ x = y := by
  rw [sameValue, Finite64.mk.injEq]
  simp [and_assoc]

/-- Doubles have the same value when they are the same without the sign of a zero. -/
theorem Finite64.sameValue_iff {x y : Finite64} :
    x.sameValue y = true ↔ x.unsigned = y.unsigned := by
  have hzero : (zero false).isZero = true := by decide
  rw [sameValue_cases, unsigned, unsigned]
  cases hx : x.isZero <;> cases hy : y.isZero
  · simp
  · have hne : x ≠ y := fun h => by simp [h, hy] at hx
    have hne' : x ≠ zero false := fun h => by simp [h, hzero] at hx
    simp [hne, hne']
  · have hne : x ≠ y := fun h => by simp [h, hy] at hx
    have hne' : zero false ≠ y := fun h => by simp [← h, hzero] at hy
    simp [hne, hne']
  · simp

namespace Json

/-! ## Values without the signs of zeros -/

/-- A number without the sign of a zero. -/
def Number.unsigned : Number → Number
  | .int i fits => .int i fits
  | .float x => .float x.unsigned

theorem Number.sameValue_iff {x y : Number} :
    x.sameValue y = true ↔ x.unsigned = y.unsigned := by
  cases x <;> cases y <;> simp [sameValue, unsigned, Finite64.sameValue_iff]

mutual

/-- A value without the signs of its zeros. -/
def unsigned : Json → Json
  | .num n => .num n.unsigned
  | .arr items => .arr (unsignedItems items)
  | .obj members => .obj (unsignedMembers members)
  | j => j

/-- The items without the signs of their zeros. -/
def unsignedItems : List Json → List Json
  | [] => []
  | item :: items => item.unsigned :: unsignedItems items

/-- The members without the signs of the zeros in their values. -/
def unsignedMembers : List (String × Json) → List (String × Json)
  | [] => []
  | (name, value) :: members => (name, value.unsigned) :: unsignedMembers members

end

theorem unsignedMembers_eq (members : Entries Json) :
    unsignedMembers members = members.mapValues unsigned := by
  induction members with
  | nil => rfl
  | cons e members ih =>
    obtain ⟨name, value⟩ := e
    rw [unsignedMembers, ih]
    rfl

theorem sorted_unsignedMembers {members : Entries Json} :
    Entries.Sorted (unsignedMembers members) ↔ Entries.Sorted members := by
  rw [unsignedMembers_eq, Entries.sorted_mapValues]

theorem find?_unsignedMembers (name : String) (members : Entries Json) :
    Entries.find? name (unsignedMembers members) =
      (Entries.find? name members).map unsigned := by
  rw [unsignedMembers_eq, Entries.find?_mapValues]

theorem length_unsignedMembers (members : Entries Json) :
    (unsignedMembers members).length = members.length := by
  rw [unsignedMembers_eq, Entries.mapValues, List.length_map]

/-! ## What deep equality is -/

mutual

/-- **Deep equality.** Values whose tables are in order are deeply equal exactly when they are the
same without the signs of their zeros. -/
theorem sameAs_iff : ∀ {a b : Json}, a.Ordered → b.Ordered →
    (a.sameAs b = true ↔ a.unsigned = b.unsigned)
  | .null, b, _, _ => by cases b <;> simp [sameAs, unsigned]
  | .bool _, b, _, _ => by cases b <;> simp [sameAs, unsigned]
  | .str _, b, _, _ => by cases b <;> simp [sameAs, unsigned]
  | .num _, b, _, _ => by cases b <;> simp [sameAs, unsigned, Number.sameValue_iff]
  | .arr xs, b, ha, hb => by
    cases b with
    | arr ys => rw [sameAs, sameItems_iff ha hb, unsigned, unsigned, Json.arr.injEq]
    | _ => simp [sameAs, unsigned]
  | .obj xs, b, ha, hb => by
    cases b with
    | obj ys =>
      rw [unsigned, unsigned, Json.obj.injEq, Entries.eq_iff_forall_mem
        (sorted_unsignedMembers.2 ha.1) (sorted_unsignedMembers.2 hb.1), length_unsignedMembers,
        length_unsignedMembers, ← sameMembers_iff ha.2 hb.2, sameAs, Bool.and_eq_true, beq_iff_eq]
    | _ => simp [sameAs, unsigned]

theorem sameItems_iff : ∀ {xs ys : List Json}, ItemsOrdered xs → ItemsOrdered ys →
    (sameItems xs ys = true ↔ unsignedItems xs = unsignedItems ys)
  | [], ys, _, _ => by cases ys <;> simp [sameItems, unsignedItems]
  | x :: xs, [], _, _ => by simp [sameItems, unsignedItems]
  | x :: xs, y :: ys, ⟨hx, hxs⟩, ⟨hy, hys⟩ => by
    rw [sameItems, Bool.and_eq_true, sameAs_iff hx hy, sameItems_iff hxs hys, unsignedItems,
      unsignedItems, List.cons.injEq]

/-- The second object has each member of the first when it reads so without the signs of zeros. -/
theorem sameMembers_iff : ∀ {xs ys : List (String × Json)}, MembersOrdered xs → MembersOrdered ys →
    (sameMembers xs ys = true ↔
      ∀ e ∈ unsignedMembers xs, Entries.find? e.1 (unsignedMembers ys) = some e.2)
  | [], ys, _, _ => by simp [sameMembers, unsignedMembers]
  | (name, x) :: xs, ys, ⟨hx, hxs⟩, hys => by
    rw [sameMembers, Bool.and_eq_true, sameMembers_iff hxs hys, unsignedMembers,
      List.forall_mem_cons, find?_unsignedMembers]
    refine and_congr_left fun _ => ?_
    cases hfind : Entries.find? name ys with
    | none => simp
    | some y =>
      have hy : y.Ordered := membersOrdered_iff.1 hys _ (Entries.mem_of_find?_eq_some hfind)
      simp only [sameAs_iff hx hy, Option.map_some, Option.some.injEq]
      exact eq_comm

end

/-! ## The order of insertion -/

mutual

/-- The value that comes of inserting the members of every object one after another, in the order in
which they are listed. -/
def built : Json → Json
  | .arr items => .arr (builtItems items)
  | .obj members => .ofMembers (builtMembers members)
  | j => j

/-- The items, each built. -/
def builtItems : List Json → List Json
  | [] => []
  | item :: items => item.built :: builtItems items

/-- The members to be inserted, the value of each built. -/
def builtMembers : List (String × Json) → List (String × Json)
  | [] => []
  | (name, value) :: members => (name, value.built) :: builtMembers members

end

/-- The same members in another order of insertion, at any depth: neighbours with different names
have changed places, again and again. -/
inductive Rearranged : Json → Json → Prop
  | refl (j : Json) : Rearranged j j
  | trans {a b c : Json} : Rearranged a b → Rearranged b c → Rearranged a c
  | item {x y : Json} (before after : List Json) : Rearranged x y →
      Rearranged (.arr (before ++ x :: after)) (.arr (before ++ y :: after))
  | member {x y : Json} (name : String) (before after : List (String × Json)) : Rearranged x y →
      Rearranged (.obj (before ++ (name, x) :: after)) (.obj (before ++ (name, y) :: after))
  | exchange {p q : String × Json} (before after : List (String × Json)) : p.1 ≠ q.1 →
      Rearranged (.obj (before ++ p :: q :: after)) (.obj (before ++ q :: p :: after))

theorem builtItems_append (items more : List Json) :
    builtItems (items ++ more) = builtItems items ++ builtItems more := by
  induction items with
  | nil => rfl
  | cons item items ih => rw [List.cons_append, builtItems, builtItems, ih, List.cons_append]

theorem builtMembers_append (members more : List (String × Json)) :
    builtMembers (members ++ more) = builtMembers members ++ builtMembers more := by
  induction members with
  | nil => rfl
  | cons e members ih =>
    obtain ⟨name, value⟩ := e
    rw [List.cons_append, builtMembers, builtMembers, ih, List.cons_append]

/-- The order of insertion does not show. -/
theorem Rearranged.built_eq {a b : Json} (h : Rearranged a b) : a.built = b.built := by
  induction h with
  | refl => rfl
  | trans _ _ ih ih' => exact ih.trans ih'
  | item before after _ ih =>
    rw [built, built, builtItems_append, builtItems_append, builtItems, builtItems, ih]
  | member name before after _ ih =>
    rw [built, built, builtMembers_append, builtMembers_append, builtMembers, builtMembers, ih]
  | @exchange p q before after hne =>
    obtain ⟨name, x⟩ := p
    obtain ⟨name', y⟩ := q
    simp only [built, ofMembers, builtMembers_append, builtMembers, Entries.ofList,
      List.foldl_append, List.foldl_cons]
    rw [Entries.insert_insert_of_ne hne]

mutual

/-- What is built by insertions has its tables in order. -/
theorem built_ordered : ∀ j : Json, j.built.Ordered
  | .null | .bool _ | .num _ | .str _ => trivial
  | .arr items => builtItems_ordered items
  | .obj members => ⟨Entries.sorted_ofList _, membersOrdered_iff.2 fun e he =>
      builtMembers_ordered members e (Entries.mem_ofList he)⟩

theorem builtItems_ordered : ∀ items : List Json, ItemsOrdered (builtItems items)
  | [] => trivial
  | item :: items => ⟨built_ordered item, builtItems_ordered items⟩

theorem builtMembers_ordered : ∀ (members : List (String × Json)), ∀ e ∈ builtMembers members,
    e.2.Ordered
  | [], _, he => by cases he
  | (name, value) :: members, e, he => by
    obtain rfl | he := List.mem_cons.1 he
    · exact built_ordered value
    · exact builtMembers_ordered members e he

end

end Json

/-! ## What is written as a value -/

/-- A thing that, if it can be written as a value, is written as one whose tables are in order. -/
def EncodesInOrder {α : Type u} [Encode α] (a : α) : Prop :=
  ∀ j, Encode.encode? a = some j → j.Ordered

theorem encodesInOrder_json {j : Json} (h : j.Ordered) : EncodesInOrder j := by
  rintro _ ⟨⟩
  exact h

/-- What is not written as an array or an object. -/
theorem encodesInOrder_of_nesting {α : Type u} [Encode α] {a : α}
    (h : ∀ j, Encode.encode? a = some j → j.nesting = 0) : EncodesInOrder a := by
  intro j hj
  have hflat := h j hj
  cases j with
  | arr items => cases hflat
  | obj members => cases hflat
  | _ => trivial

theorem encodesInOrder_option {α : Type u} [Encode α] {a? : Option α}
    (h : ∀ a, a? = some a → EncodesInOrder a) : EncodesInOrder a? := by
  cases a? with
  | none =>
    rintro _ ⟨⟩
    trivial
  | some a => exact h a rfl

theorem encodesInOrder_pair {α : Type u} {β : Type v} [Encode α] [Encode β] {p : α × β}
    (h : EncodesInOrder p.1) (h' : EncodesInOrder p.2) : EncodesInOrder p := by
  intro j hj
  obtain ⟨x, hx, hj⟩ := Option.bind_eq_some_iff.1 hj
  obtain ⟨y, hy, hj⟩ := Option.bind_eq_some_iff.1 hj
  obtain rfl := Option.some.inj hj
  exact ⟨h x hx, h' y hy, trivial⟩

theorem encodesInOrder_list {α : Type u} [Encode α] {items : List α}
    (h : ∀ a ∈ items, EncodesInOrder a) : EncodesInOrder items := by
  intro j hj
  obtain ⟨written, hwritten, rfl⟩ := Option.map_eq_some_iff.1 hj
  refine Json.itemsOrdered_iff.2 fun x hx => ?_
  obtain ⟨a, ha, hax⟩ := exists_of_mem_mapM hwritten hx
  exact h a ha x hax

theorem encodesInOrder_mapping {κ : Type u} {α : Type v} [NameText κ] [Encode α] {m : Mapping κ α}
    (h : ∀ p ∈ m.pairs, EncodesInOrder p.2) : EncodesInOrder m := by
  intro j hj
  obtain ⟨members, hmembers, hj⟩ := Option.bind_eq_some_iff.1 hj
  obtain rfl := Option.some.inj hj
  refine ⟨Entries.sorted_ofList _, Json.membersOrdered_iff.2 fun e he => ?_⟩
  obtain ⟨p, hp, hpe⟩ := exists_of_mem_mapM hmembers (Entries.mem_ofList he)
  obtain ⟨name, -, hpe⟩ := Option.bind_eq_some_iff.1 hpe
  obtain ⟨item, hitem, hpe⟩ := Option.bind_eq_some_iff.1 hpe
  obtain rfl := Option.some.inj hpe
  exact h p hp item hitem

/-- Things are equal as what they are written as, if both can be written. -/
theorem sameEncoded_iff {α : Type u} {β : Type v} [Encode α] [Encode β] {x : α} {y : β}
    (hx : EncodesInOrder x) (hy : EncodesInOrder y) :
    sameEncoded x y = true ↔ ∃ j k, Encode.encode? x = some j ∧ Encode.encode? y = some k ∧
      j.unsigned = k.unsigned := by
  unfold sameEncoded
  cases hj : Encode.encode? x with
  | none => simp
  | some j =>
    cases hk : Encode.encode? y with
    | none => simp
    | some k => simp [Json.sameAs_iff (hx j hj) (hy k hk)]

namespace Json

/-- **The laws of equality.** Of values whose tables are in order each is deeply equal to itself,
two are equal whichever way they are compared, and two that are equal to a third are equal. The
order in which members were inserted does not show. The laws also hold of things that are compared
as what they are written as, the first of them for a thing that can be written. -/
theorem sameAs_equivalence {a b c : Json} (ha : a.Ordered) (hb : b.Ordered) (hc : c.Ordered)
    {d d' e e' : Json} (hd : Rearranged d d') (he : Rearranged e e')
    {α : Type u} {β : Type v} {γ : Type w} [Encode α] [Encode β] [Encode γ] {x : α} {y : β} {z : γ}
    (hx : EncodesInOrder x) (hy : EncodesInOrder y) (hz : EncodesInOrder z) :
    (a.sameAs a = true ∧ a.sameAs b = b.sameAs a ∧
      (a.sameAs b = true → b.sameAs c = true → a.sameAs c = true)) ∧
    d.built.sameAs e.built = d'.built.sameAs e'.built ∧
    ((Encode.encode? x).isSome = true → sameEncoded x x = true) ∧
    sameEncoded x y = sameEncoded y x ∧
    (sameEncoded x y = true → sameEncoded y z = true → sameEncoded x z = true) := by
  refine ⟨⟨?_, ?_, ?_⟩, ?_, ?_, ?_, ?_⟩
  · exact (sameAs_iff ha ha).2 rfl
  · rw [Bool.eq_iff_iff, sameAs_iff ha hb, sameAs_iff hb ha]
    exact eq_comm
  · rw [sameAs_iff ha hb, sameAs_iff hb hc, sameAs_iff ha hc]
    exact Eq.trans
  · rw [hd.built_eq, he.built_eq]
  · intro h
    obtain ⟨j, hj⟩ := Option.isSome_iff_exists.1 h
    exact (sameEncoded_iff hx hx).2 ⟨j, j, hj, hj, rfl⟩
  · rw [Bool.eq_iff_iff, sameEncoded_iff hx hy, sameEncoded_iff hy hx]
    constructor
    · rintro ⟨j, k, hj, hk, heq⟩
      exact ⟨k, j, hk, hj, heq.symm⟩
    · rintro ⟨k, j, hk, hj, heq⟩
      exact ⟨j, k, hj, hk, heq.symm⟩
  · intro hxy hyz
    obtain ⟨j, k, hj, hk, heq⟩ := (sameEncoded_iff hx hy).1 hxy
    obtain ⟨k', l, hk', hl, heq'⟩ := (sameEncoded_iff hy hz).1 hyz
    obtain rfl := Option.some.inj (hk.symm.trans hk')
    exact (sameEncoded_iff hx hz).2 ⟨j, l, hj, hl, heq.trans heq'⟩

/-- An object with a zero of a sign deep within. -/
def zeroWithin (negative : Bool) : Json :=
  (Json.obj [("topic", .null), ("offsets", .arr [.ofNat 7, .num (.float (.zero negative))])]).built

/-- Two members that were inserted in descending order, as numbered texts. -/
def numbered : Mapping String (UInt64 × String) := ⟨[("last", (7, "a")), ("first", (1, "b"))]⟩

/-- The same two members as a value. -/
def numberedValue : Json :=
  (Json.obj [("first", .arr [.ofNat 1, .str "b"]), ("last", .arr [.ofNat 7, .str "a"])]).built

/-- The same two members, inserted in ascending order, as lists of what may be there. -/
def numberedLists : Mapping String (List (Option Json)) :=
  ⟨[("first", [some (.ofNat 1), some (.str "b")]), ("last", [some (.ofNat 7), some (.str "a")])]⟩

theorem sameAs_equivalence_numbered :
    (zeroWithin true).Ordered ∧ (zeroWithin false).Ordered ∧
    Rearranged (.obj [("topic", .null), ("seq", .ofNat 1)])
      (.obj [("seq", .ofNat 1), ("topic", .null)]) ∧
    EncodesInOrder numbered ∧ EncodesInOrder numberedValue ∧ EncodesInOrder numberedLists ∧
    zeroWithin true ≠ zeroWithin false ∧ (zeroWithin true).sameAs (zeroWithin false) = true ∧
    (zeroWithin false).sameAs (zeroWithin true) = true ∧
    (zeroWithin true).sameAs (zeroWithin true) = true ∧
    (Json.obj [("topic", .null), ("seq", .ofNat 1)]).built.sameAs (zeroWithin true).built =
      (Json.obj [("seq", .ofNat 1), ("topic", .null)]).built.sameAs (zeroWithin true).built ∧
    sameEncoded numbered numberedValue = true ∧ sameEncoded numberedValue numberedLists = true ∧
    sameEncoded numbered numberedLists = true := by
  have hordered : ∀ negative, (zeroWithin negative).Ordered := fun _ => built_ordered _
  have hexchange : Rearranged (.obj [("topic", .null), ("seq", .ofNat 1)])
      (.obj [("seq", .ofNat 1), ("topic", .null)]) := .exchange [] [] (by decide)
  have hnumbered : EncodesInOrder numbered := by
    refine encodesInOrder_mapping fun p _ => encodesInOrder_pair ?_ ?_
    · exact encodesInOrder_of_nesting fun j hj => by cases hj; rfl
    · exact encodesInOrder_of_nesting fun j hj => by cases hj; rfl
  have hvalue : EncodesInOrder numberedValue := encodesInOrder_json (built_ordered _)
  have hflat : ∀ p ∈ numberedLists.pairs, ∀ a? ∈ p.2, ∀ a ∈ a?, a.nesting = 0 := by decide
  have hlists : EncodesInOrder numberedLists := by
    refine encodesInOrder_mapping fun p hp => encodesInOrder_list fun a? ha =>
      encodesInOrder_option fun a ha' => encodesInOrder_of_nesting fun j hj => ?_
    obtain rfl := Option.some.inj hj
    exact hflat p hp a? ha a ha'
  have hfirst : sameEncoded numbered numberedValue = true := by decide +kernel
  have hsecond : sameEncoded numberedValue numberedLists = true := by decide +kernel
  have hzeros : (zeroWithin true).sameAs (zeroWithin false) = true := by decide +kernel
  obtain ⟨⟨hrefl, hsymm, -⟩, hbuilt, -, -, htrans⟩ :=
    sameAs_equivalence (hordered true) (hordered false) (hordered true) hexchange
      (.refl (zeroWithin true)) hnumbered hvalue hlists
  exact ⟨hordered true, hordered false, hexchange, hnumbered, hvalue, hlists, by decide +kernel,
    hzeros, hsymm.symm.trans hzeros, hrefl, hbuilt, hfirst, hsecond, htrans hfirst hsecond⟩

end Json

end EventRelay
