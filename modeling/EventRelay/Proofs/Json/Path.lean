import EventRelay.Json.Path
import EventRelay.Proofs.Json.Shape

/-!
# Every place in a document has a path

A place in a document is told by the steps that lead to it, each to the member of a name or to the
item at an index. The path of the place is made of these names and indices and leads to it, unless a
name holds a point or the only step is to a member without a name, whose path is the empty one.

* `Json.Leads`: the steps from a value to one within it. `Json.pathTo`: the path they make.
* `Json.follow_of_leads`: a walk along the segments of steps ends where the steps lead.
* `Json.exists_leads_of_follow`: a walk ends nowhere else.
* `Json.lookup_addresses`: the value at the path of a place, and at two paths in a row.
-/

namespace EventRelay

namespace Text

/-- Pieces without the separator in them are told apart again after they are joined with it. -/
theorem splitString_intercalate {separator : Char} {pieces : List String} (hne : pieces ≠ [])
    (h : ∀ piece ∈ pieces, separator ∉ piece.toList) :
    splitString separator ((String.singleton separator).intercalate pieces) = pieces := by
  have hpieces : ∀ piece ∈ pieces.map String.toList, separator ∉ piece := by
    simpa only [List.forall_mem_map] using h
  rw [splitString, split_eq_splitOn, String.toList_intercalate, String.toList_singleton,
    List.splitOn_intercalate separator hpieces (mt List.map_eq_nil_iff.1 hne), List.map_map]
  exact List.map_id'' (fun piece => String.ofList_toList) pieces

/-- The pieces of two texts with a separator between them are those of the one and of the other. -/
theorem splitString_append (separator : Char) (s t : String) :
    splitString separator (s ++ String.singleton separator ++ t) =
      splitString separator s ++ splitString separator t := by
  simp only [splitString, split_eq_splitOn, String.toList_append, String.toList_singleton,
    List.append_assoc, List.singleton_append, List.splitOn_append_cons_self, List.map_append]

theorem toList_toString (i : Nat) : (toString i).toList = Nat.toDigits 10 i := by
  rw [Nat.toString_eq_repr, Nat.repr_eq_ofList_toDigits, String.toList_ofList]

theorem isDigit_of_mem_toString {c : Char} {i : Nat} (h : c ∈ (toString i).toList) :
    c.isDigit :=
  Nat.isDigit_of_mem_toDigits (by decide) (by decide) (toList_toString i ▸ h)

/-- A word is read back from its decimal form. -/
theorem word?_toString {i : Nat} (h : i < UInt64.size) : word? (toString i).toList = some i := by
  have hdigits : digits? (toString i).toList = some i := by
    refine digits?_eq_some_iff.2 ⟨?_, fun c hc => isDigit_of_mem_toString hc, ?_⟩ <;>
      rw [toList_toString]
    · exact Nat.toDigits_ne_nil
    · exact Nat.ofDigitChars_ten_toDigits
  have hplus : '+' ∉ (toString i).toList := fun h =>
    absurd (isDigit_of_mem_toString h) (by decide)
  rw [word?, decimal?_eq_digits? hplus, hdigits, Option.filter_some, if_pos (decide_eq_true h)]

end Text

namespace Json

/-- One step into a value. -/
inductive Step where
  | member (name : String)
  | item (index : Nat)
  deriving DecidableEq, Repr

namespace Step

/-- The segment of a path that a step makes. -/
def segment : Step → String
  | .member name => name
  | .item index => toString index

/-- Whether the segment of a step is one segment, and names the step again. -/
def Plain : Step → Prop
  | .member name => '.' ∉ name.toList
  | .item index => index < UInt64.size

instance : DecidablePred Plain
  | .member name => inferInstanceAs (Decidable ('.' ∉ name.toList))
  | .item index => inferInstanceAs (Decidable (index < UInt64.size))

theorem Plain.point_notMem {step : Step} (h : step.Plain) : '.' ∉ step.segment.toList := by
  cases step with
  | member name => exact h
  | item index => exact fun hmem => absurd (Text.isDigit_of_mem_toString hmem) (by decide)

theorem segment_eq_empty_iff {step : Step} : step.segment = "" ↔ step = .member "" := by
  cases step with
  | member name => simp [segment]
  | item index =>
    refine ⟨fun h => ?_, fun h => nomatch h⟩
    have hnil : (toString index).toList = [] := String.toList_eq_nil_iff.2 h
    rw [Text.toList_toString] at hnil
    exact absurd hnil Nat.toDigits_ne_nil

end Step

/-- Where steps lead from a value. -/
inductive Leads : Json → List Step → Json → Prop
  | here (j : Json) : Leads j [] j
  | member {members : List (String × Json)} {name : String} {next node : Json} {steps : List Step}
      (mem : (name, next) ∈ members) (rest : Leads next steps node) :
      Leads (.obj members) (.member name :: steps) node
  | item {items : List Json} {index : Nat} {next node : Json} {steps : List Step}
      (mem : items[index]? = some next) (rest : Leads next steps node) :
      Leads (.arr items) (.item index :: steps) node

/-- The path that steps make. -/
def pathTo (steps : List Step) : String := ".".intercalate (steps.map Step.segment)

/-- The only step to a member without a name makes the empty path, which leads to the value itself,
whatever that is. -/
theorem lookup_pathTo_empty_name (j : Json) : j.lookup (pathTo [.member ""]) = some j := rfl

variable {j node : Json} {steps : List Step}

/-- A walk along the segments of steps ends where the steps lead. -/
theorem follow_of_leads (h : Leads j steps node) (hordered : j.Ordered)
    (hplain : ∀ step ∈ steps, step.Plain) : j.follow (steps.map Step.segment) = some node := by
  induction h with
  | here j => rfl
  | @member members name next node steps hmem _ ih =>
    obtain ⟨hsorted, hmembers⟩ := hordered
    have hchild : (Json.obj members).child? name = some next :=
      (Entries.find?_eq_some_iff hsorted).2 hmem
    rw [List.map_cons, follow, Step.segment, hchild]
    exact ih (membersOrdered_iff.1 hmembers _ hmem) (List.forall_mem_cons.1 hplain).2
  | @item items index next node steps hmem _ ih =>
    have hindex : index < UInt64.size := hplain _ List.mem_cons_self
    have hchild : (Json.arr items).child? (toString index) = some next := by
      rw [child?, Text.word?_toString hindex, Option.bind_some, hmem]
    rw [List.map_cons, follow, Step.segment, hchild]
    exact ih (itemsOrdered_iff.1 hordered _ (List.mem_of_getElem? hmem))
      (List.forall_mem_cons.1 hplain).2

/-- A walk ends at a place in the value, as many steps away as there are segments. -/
theorem exists_leads_of_follow {segments : List String} (h : j.follow segments = some node) :
    ∃ steps, Leads j steps node ∧ steps.length = segments.length := by
  induction segments generalizing j with
  | nil =>
    cases h
    exact ⟨[], .here _, rfl⟩
  | cons segment rest ih =>
    obtain ⟨next, hchild, hrest⟩ := Option.bind_eq_some_iff.1 h
    obtain ⟨steps, hsteps, hlength⟩ := ih hrest
    unfold child? at hchild
    split at hchild
    · exact ⟨_, .member (Entries.mem_of_find?_eq_some hchild) hsteps, congrArg (· + 1) hlength⟩
    · obtain ⟨index, -, hitem⟩ := Option.bind_eq_some_iff.1 hchild
      exact ⟨_, .item hitem hsteps, congrArg (· + 1) hlength⟩
    · cases hchild

theorem splitString_pathTo (hne : steps ≠ []) (hplain : ∀ step ∈ steps, step.Plain) :
    Text.splitString '.' (pathTo steps) = steps.map Step.segment := by
  refine Text.splitString_intercalate (mt List.map_eq_nil_iff.1 hne) ?_
  simpa only [List.forall_mem_map] using fun step hstep => (hplain step hstep).point_notMem

/-- The path of a place is empty if there are no steps to it, or only one, to the member without a
name. -/
theorem pathTo_eq_empty (hplain : ∀ step ∈ steps, step.Plain) (h : pathTo steps = "") :
    steps = [] ∨ steps = [.member ""] := by
  by_cases hne : steps = []
  · exact .inl hne
  · have hsegments : [""] = steps.map Step.segment := by
      rw [← splitString_pathTo hne hplain, h]
      rfl
    obtain ⟨step, rfl, hstep⟩ := List.map_eq_singleton_iff.1 hsegments.symm
    exact .inr (congrArg (fun step => [step]) (Step.segment_eq_empty_iff.1 hstep))

theorem lookup_pathTo (h : Leads j steps node) (hordered : j.Ordered)
    (hplain : ∀ step ∈ steps, step.Plain) (hroot : steps ≠ [.member ""]) :
    j.lookup (pathTo steps) = some node := by
  by_cases hpath : pathTo steps = ""
  · obtain rfl := (pathTo_eq_empty hplain hpath).resolve_right hroot
    cases h
    rfl
  · have hne : steps ≠ [] := by
      rintro rfl
      exact hpath rfl
    rw [lookup, if_neg (mt String.isEmpty_iff.1 hpath), splitString_pathTo hne hplain]
    exact follow_of_leads h hordered hplain

theorem lookup_append (j : Json) {p q : String} (hp : p ≠ "") (hq : q ≠ "") :
    j.lookup (p ++ "." ++ q) = (j.lookup p).bind fun next => next.lookup q := by
  have hpq : p ++ "." ++ q ≠ "" := by simp [hp]
  have hlookup : ∀ (j : Json) {path : String}, path ≠ "" →
      j.lookup path = j.follow (Text.splitString '.' path) := fun j path h =>
    if_neg (mt String.isEmpty_iff.1 h)
  rw [hlookup j hpq, hlookup j hp, show "." = String.singleton '.' from rfl,
    Text.splitString_append, follow_append]
  exact congrArg _ (funext fun next => (hlookup next hq).symm)

/-- **Paths.** The path of a place in a document, its tables in order, leads to the value there, if
no name on the way holds a point and every index fits a word, unless the one step there is to the
member without a name. Two paths with a point between them lead where the second leads from where
the first does, and nowhere if the first leads nowhere. -/
theorem lookup_addresses (j : Json) :
    (j.Ordered → ∀ (steps : List Step) (node : Json), Leads j steps node →
      (∀ step ∈ steps, step.Plain) → steps ≠ [.member ""] →
        j.lookup (pathTo steps) = some node) ∧
    ∀ p q : String, p ≠ "" → q ≠ "" →
      j.lookup (p ++ "." ++ q) = (j.lookup p).bind fun next => next.lookup q :=
  ⟨fun hordered _ _ h hplain hroot => lookup_pathTo h hordered hplain hroot,
    fun _ _ hp hq => lookup_append j hp hq⟩

/-- An object with a member without a name, and in it an array with an object that has members named
like indices. -/
def nameless : Json :=
  .obj [("", .arr [.null, .obj [("+0", .bool true), ("00", .str "a")]]), ("0", .bool false)]

/-- A step to the member without a name begins the path with a point. -/
theorem lookup_addresses_nameless :
    nameless.lookup (pathTo [.member "", .item 1, .member "00"]) = some (.str "a") ∧
      nameless.lookup ".1.00" = (nameless.lookup ".1").bind fun next => next.lookup "00" := by
  have hordered : nameless.Ordered := by
    simp only [nameless, Ordered, MembersOrdered, ItemsOrdered, Entries.Sorted]
    decide
  have hleads : Leads nameless [.member "", .item 1, .member "00"] (.str "a") :=
    .member List.mem_cons_self (.item rfl (.member (List.mem_cons_of_mem _ List.mem_cons_self)
      (.here _)))
  refine ⟨(lookup_addresses nameless).1 hordered _ _ hleads ?_ (by decide),
    (lookup_addresses nameless).2 ".1" "00" (by decide) (by decide)⟩
  decide +kernel

end Json
end EventRelay
