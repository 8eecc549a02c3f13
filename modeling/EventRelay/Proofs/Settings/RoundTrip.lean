import EventRelay.Proofs.Json.Written
import EventRelay.Proofs.Settings.Fields
import Mathlib.Data.List.Nodup

/-!
# Settings through their document

Settings that were read from a document text are written as a text from which they are read again.
What they are written as is no deeper than the text they were read from.

* `Field.read_within`, `Field.write_exact`: the shape of what a field is written as.
* `Settings.toJson_within`, `Settings.toJson_exact`: the shape of the document of settings.
* `Settings.parse_render`: the round trip.
-/

namespace EventRelay

namespace NodeReader

variable {α : Type} {item : NodeReader α} {path : List String} {o : Origin} {j : Json} {n : Nat}

/-- A table that was read is written in order. -/
theorem table_within {encode : α → Json} {values : Entries α} (hj : j.Within n)
    (h : table item path (.ofJson o j) = .ok values) (hencode : ∀ a n, (encode a).Within n) :
    (Json.obj (values.mapValues encode)).Within n := by
  cases j with
  | obj members =>
    cases n with
    | zero => exact hj.elim
    | succ n =>
      refine ⟨(Entries.sorted_mapValues encode).2 (table_sorted hj.1 h),
        Json.membersWithin_iff.2 fun e he => ?_⟩
      obtain ⟨a, -, rfl⟩ := List.mem_map.1 he
      exact hencode a.2 n
  | null | bool | num | str | arr => cases h

/-- An open table is written as what it was read from, or as an empty one. -/
theorem extensions_within {values : Entries Json} (hj : j.Within (n + 1))
    (h : extensions path (.ofJson o j) = .ok values) : (Json.obj values).Within (n + 1) := by
  cases j with
  | obj members =>
    rw [extensions_obj] at h
    cases h
    exact hj
  | null =>
    cases h
    exact ⟨Entries.sorted_nil, trivial⟩
  | num x =>
    cases x with
    | int i fits =>
      rw [Node.ofJson, Node.ofNumber] at h
      split at h <;> cases h
    | float x => cases h
  | bool | str | arr => cases h

end NodeReader

namespace Field

open NodeReader

variable {f : Field} {n : Nat}

theorem ofOption_within {α : Type} {encode : α → Json} (h : ∀ a, (encode a).Within n)
    (value : Option α) : (Json.ofOption (value.map encode)).Within n := by
  cases value with
  | none => exact trivial
  | some a => exact h a

theorem ofOption_exact {α : Type} {encode : α → Json} (h : ∀ a, (encode a).Exact)
    (value : Option α) : (Json.ofOption (value.map encode)).Exact := by
  cases value with
  | none => exact trivial
  | some a => exact h a

/-- A record of flat values is as flat as can be. -/
theorem ofMembers_within {members : List (String × Json)} (h : ∀ e ∈ members, e.2.Within n) :
    (Json.ofMembers members).Within (n + 1) :=
  ⟨Entries.sorted_ofList members, Json.membersWithin_iff.2 fun e he => h e (Entries.mem_ofList he)⟩

theorem ofMembers_exact {members : List (String × Json)} (h : ∀ e ∈ members, e.2.Exact) :
    (Json.ofMembers members).Exact :=
  Json.membersExact_iff.2 fun e he => h e (Entries.mem_ofList he)

theorem mapValues_exact {α : Type} (encode : α → Json) (h : ∀ a, (encode a).Exact)
    (values : Entries α) : (Json.obj (values.mapValues encode)).Exact :=
  Json.membersExact_iff.2 fun e he => by
    obtain ⟨a, -, rfl⟩ := List.mem_map.1 he
    exact h a.2

theorem credentials_shape (c : Credentials) (n : Nat) :
    c.toJson.Within (n + 1) ∧ c.toJson.Exact :=
  ⟨ofMembers_within (by simp [Json.Within]), ofMembers_exact (by simp [Json.Exact])⟩

theorem logTarget_shape (t : LogTarget) (n : Nat) : t.toJson.Within (n + 1) ∧ t.toJson.Exact :=
  ⟨ofMembers_within (by simp [Json.Within]), ofMembers_exact (by simp [Json.Exact])⟩

theorem strings_shape (items : List String) (n : Nat) :
    (strings items).Within (n + 1) ∧ (strings items).Exact :=
  ⟨Json.itemsWithin_iff.2 (by simp [Json.Within]), Json.itemsExact_iff.2 (by simp [Json.Exact])⟩

/-- What a field is written as is nested no deeper than the value that it was read from. -/
theorem read_within {path : List String} {o : Origin} {j : Json} {change : Settings → Settings}
    (hj : j.Within (n + 1)) (h : f.read path (.ofJson o j) = .ok change) (s : Settings) :
    (f.write (change s)).Within (n + 1) := by
  cases f <;> obtain ⟨v, hv, rfl⟩ := into_eq_ok_iff.1 h
  case workerPoolSize | logParams => exact table_within hj hv fun _ _ => trivial
  case customProperties | misc => exact extensions_within hj hv
  case eventTopics | actionTopics => exact (strings_shape v n).1
  case endpointAuth => exact ofOption_within (fun c => (credentials_shape c n).1) v
  case debugLog | traceLog => exact ofOption_within (fun t => (logTarget_shape t n).1) v
  all_goals exact trivial

theorem write_zero_within (f : Field) (n : Nat) : (f.write .zero).Within (n + 1) := by
  cases f
  case workerPoolSize | logParams | customProperties | misc => exact ⟨Entries.sorted_nil, trivial⟩
  all_goals exact trivial

/-- Doubles are written in the open tables only. -/
theorem write_exact {s : Settings} (hcustom : Json.MembersExact s.customProperties)
    (hmisc : Json.MembersExact s.misc) (f : Field) : (f.write s).Exact := by
  cases f
  case customProperties => exact hcustom
  case misc => exact hmisc
  case workerPoolSize => exact mapValues_exact .ofUInt64 (fun _ => trivial) _
  case logParams => exact mapValues_exact .str (fun _ => trivial) _
  case eventTopics | actionTopics => exact (strings_shape _ 0).2
  case endpointAuth => exact ofOption_exact (fun c => (credentials_shape c 0).2) _
  case debugLog | traceLog => exact ofOption_exact (fun t => (logTarget_shape t 0).2) _
  all_goals exact trivial

end Field

namespace Settings

variable {s : Settings}

/-- The members of the document of settings, one for each field. They are not to be computed. -/
@[irreducible]
def members (s : Settings) : Entries Json :=
  Entries.ofList (Field.all.map fun f => (f.key, f.write s))

theorem toJson_eq (s : Settings) : s.toJson = .obj s.members := by
  unfold toJson Json.ofMembers members
  rfl

theorem sorted_members (s : Settings) : Entries.Sorted s.members := by
  rw [members]
  exact Entries.sorted_ofList _

theorem find?_members (f : Field) (s : Settings) :
    Entries.find? f.key s.members = some (f.write s) := by
  rw [members]
  refine Entries.find?_ofList ?_
    (List.mem_map_of_mem (f := fun f : Field => (f.key, f.write s)) (Field.mem_all f))
  rw [List.map_map]
  exact (List.nodup_map_iff Field.key_injective).2 (by decide : Field.all.Nodup)

theorem mem_members {e : String × Json} (h : e ∈ s.members) : ∃ f : Field, e.2 = f.write s := by
  rw [members] at h
  obtain ⟨f, -, rfl⟩ := List.mem_map.1 (Entries.mem_ofList h)
  exact ⟨f, rfl⟩

theorem members_within {n : Nat} (h : ∀ f : Field, (f.write s).Within n) :
    Json.MembersWithin s.members n := by
  refine Json.membersWithin_iff.2 fun e he => ?_
  obtain ⟨f, hf⟩ := mem_members he
  exact hf ▸ h f

theorem members_exact (h : ∀ f : Field, (f.write s).Exact) : Json.MembersExact s.members := by
  refine Json.membersExact_iff.2 fun e he => ?_
  obtain ⟨f, hf⟩ := mem_members he
  exact hf ▸ h f

/-- Settings are made of the members that they are written as. -/
theorem ofMembers_members (o : Origin) (s : Settings) :
    ofMembers (Node.ofJson.ofMembers o s.members) = .ok s := by
  refine (ofMembers_eq_ok_iff (Node.sorted_ofMembers.2 s.sorted_members)).2 fun f => ?_
  rw [Node.find?_ofMembers, find?_members]
  exact Field.given_ofJson_write f o s zero

/-- Settings that members in order make are written no deeper than the members. -/
theorem write_within_of_ofMembers {members : Entries Json} {o : Origin} {n : Nat}
    (hsorted : Entries.Sorted members) (hwithin : Json.MembersWithin members (n + 1))
    (h : ofMembers (Node.ofJson.ofMembers o members) = .ok s) (f : Field) :
    (f.write s).Within (n + 1) := by
  have hgiven := (ofMembers_eq_ok_iff (Node.sorted_ofMembers.2 hsorted)).1 h f
  rw [Node.find?_ofMembers] at hgiven
  cases hfind : Entries.find? f.key members with
  | none =>
    rw [hfind] at hgiven
    rw [← Except.ok.inj hgiven]
    exact f.write_zero_within n
  | some j =>
    rw [hfind] at hgiven
    obtain ⟨change, hread, hwrite⟩ := Except.map_eq_ok_iff.1 hgiven
    rw [← hwrite]
    have hj := Json.membersWithin_iff.1 hwithin _ (Entries.mem_of_find?_eq_some hfind)
    exact Field.read_within hj hread zero

/-- A text is read into settings if its members make them. -/
theorem parse_eq_ok_iff {text : String} :
    parse text = .ok s ↔ ∃ members, Json.parseObject text = .ok members ∧
      ofMembers (Node.ofJson.ofMembers .document members) = .ok s := by
  rw [parse]
  cases Json.parseObject text with
  | error fault => simp
  | ok members => simp [Except.mapError_eq_ok_iff]

/-- **Round trip.** Settings that a document text is read into, with no double in the open tables,
are read again from the text of their document: every field comes back as it was. -/
theorem parse_render {text : String} (h : parse text = .ok s)
    (hcustom : Json.MembersExact s.customProperties) (hmisc : Json.MembersExact s.misc) :
    parse s.toJson.render = .ok s := by
  obtain ⟨members, hmembers, hs⟩ := parse_eq_ok_iff.1 h
  obtain ⟨hsorted, hwithin⟩ := Json.parseObject_within hmembers
  have hshape : (Json.obj s.members).Within Json.maxNesting :=
    ⟨s.sorted_members, members_within (write_within_of_ofMembers hsorted hwithin hs)⟩
  have hexact : Json.MembersExact s.members := members_exact (Field.write_exact hcustom hmisc)
  rw [toJson_eq]
  exact parse_eq_ok_iff.2
    ⟨s.members, Json.parseObject_render hshape hexact, ofMembers_members .document s⟩

/-- Credentials given as a list, the greatest count of attempts and a nested value come back from a
text that says them otherwise. -/
theorem parse_render_relisted :
    ∃ s, parse ("\x7b \"Misc\": \x7b\"k\": [null, -1]\x7d, \"MaxAttempts\": 4294967295, " ++
        "\"EndpointAuth\": [\"u\"]\x7d") = .ok s ∧
      s.endpointAuth = some ⟨"u", ""⟩ ∧ parse s.toJson.render = .ok s := by
  have h : parse ("\x7b \"Misc\": \x7b\"k\": [null, -1]\x7d, \"MaxAttempts\": 4294967295, " ++
      "\"EndpointAuth\": [\"u\"]\x7d") = .ok
      { zero with endpointAuth := some ⟨"u", ""⟩, maxAttempts := 4294967295
                  misc := [("k", .arr [.null, .num (.int (-1) (by decide))])] } :=
    Except.eq_ok_of_toOption (by decide +kernel)
  exact ⟨_, h, rfl, parse_render h trivial ⟨⟨trivial, trivial, trivial⟩, trivial⟩⟩

end Settings
end EventRelay
