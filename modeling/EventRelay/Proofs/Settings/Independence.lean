import EventRelay.Proofs.Settings.Loading
import Mathlib.Data.List.Forall2

/-!
# The fields of a document do not depend on one another

Each field says for itself which JSON values it admits. A document is refused exactly if a field is
given a value that it does not admit, and what a field is set to depends on the member of its own
name alone.

* `Field.Admits`: the values that a field admits, told by their shape and their range.
* `NodeReader.Accepts`: a reader reads exactly the values of a shape; one lemma for each way to put
  readers together. `Field.read_accepts`: the reader of a field.
* `NodeReader.Rooted`: a complaint about a value names a place within it. `Field.read_rooted`.
* `Settings.ofMembers_eq_error`: the member that is complained of.
* `Settings.fields_independent`: documents that differ in one member, and which ones are refused.
-/

namespace EventRelay

/-! ## Shapes of values -/

namespace Json

/-- A string. -/
def IsString (j : Json) : Prop := ∃ s, j = .str s

/-- A truth value. -/
def IsTruth (j : Json) : Prop := ∃ b, j = .bool b

/-- An integer from zero on and below a bound. -/
def IsBelow (bound : Nat) (j : Json) : Prop :=
  ∃ i fits, j = .num (.int i fits) ∧ 0 ≤ i ∧ i < bound

/-- A list of values of one shape. -/
def IsListOf (Item : Json → Prop) (j : Json) : Prop :=
  ∃ items, j = .arr items ∧ ∀ item ∈ items, Item item

/-- An object with values of one shape. -/
def IsTableOf (Item : Json → Prop) (j : Json) : Prop :=
  ∃ members, j = .obj members ∧ ∀ e ∈ members, Item e.2

/-- An object, or nothing. -/
def IsOpenTable (j : Json) : Prop := j = .null ∨ ∃ members, j = .obj members

/-- A value of a shape, or nothing. -/
def IsOptional (Item : Json → Prop) (j : Json) : Prop := j = .null ∨ Item j

/-- A record of parts that have a name and a shape each: an object in which the members of their
names are of their shapes, or a list of as many of them as there are, in their order. -/
def IsRecordOf (parts : List (String × (Json → Prop))) (j : Json) : Prop :=
  (∃ members, j = .obj members ∧ ∀ e ∈ members, ∀ part ∈ parts, part.1 = e.1 → part.2 e.2) ∨
    ∃ items, j = .arr items ∧ ∀ p ∈ parts.zip items, p.1.2 p.2

end Json

open Json in
/-- The values that a field admits. -/
def Field.Admits : Field → Json → Prop
  | .name | .appId | .version | .endpoint | .backoffMethod | .topicPath | .defaultPartner
  | .httpTenantHeader | .httpPartnerHeader | .httpTransactionHeader => IsString
  | .port => IsBelow UInt16.size
  | .maxAttempts => IsBelow UInt32.size
  | .initialDelay | .initialBackoff | .pad | .httpTimeout | .responseHeaderTimeout
  | .maxIdleConnsPerHost | .maxMessageSize | .duplicateTimeout | .duplicateCacheSize =>
    IsBelow UInt64.size
  | .eventTopics | .actionTopics => IsListOf IsString
  | .workerPoolSize => IsTableOf (IsBelow UInt64.size)
  | .logParams => IsTableOf IsString
  | .allowPartner => IsTruth
  | .endpointAuth => IsOptional (IsRecordOf [("Username", IsString), ("Password", IsString)])
  | .debugLog | .traceLog =>
    IsOptional (IsRecordOf [("Enable", IsTruth), ("FileName", IsString), ("Level", IsString)])
  | .customProperties | .misc => IsOpenTable

namespace NodeReader

variable {α β : Type} {item : NodeReader α} {Item : Json → Prop}

/-! ## Which values are read -/

/-- A reader reads exactly the values of a shape, wherever they stand. -/
def Accepts (item : NodeReader α) (Item : Json → Prop) : Prop :=
  ∀ path o j, (∃ a, item path (.ofJson o j) = .ok a) ↔ Item j

theorem Accepts.map {f : α → β} (h : item.Accepts Item) :
    NodeReader.Accepts (fun path node => (item path node).map f) Item := by
  intro path o j
  rw [← h path o j]
  constructor
  · rintro ⟨b, hb⟩
    obtain ⟨a, ha, -⟩ := Except.map_eq_ok_iff.1 hb
    exact ⟨a, ha⟩
  · rintro ⟨a, ha⟩
    exact ⟨f a, Except.map_eq_ok_iff.2 ⟨a, ha, rfl⟩⟩

/-- What a number is read as besides a double. -/
theorem ofNumber_cases (n : Json.Number) :
    (∃ i fits word, n = .int i fits ∧ 0 ≤ i ∧ Node.ofNumber n = .unsigned word ∧
        (word.toNat : Int) = i) ∨
      (∃ i fits word, n = .int i fits ∧ i < 0 ∧ Node.ofNumber n = .signed word ∧
        word.toInt = i) ∨ ∃ x, n = .float x ∧ Node.ofNumber n = .double (.finite x) := by
  cases n with
  | float x => exact .inr (.inr ⟨x, rfl, rfl⟩)
  | int i fits =>
    by_cases hi : 0 ≤ i
    · refine .inl ⟨i, fits, .ofNat i.toNat, rfl, hi, by rw [Node.ofNumber, if_pos hi], ?_⟩
      rw [UInt64.toNat_ofNat_of_lt' (by rw [UInt64.size]; omega)]
      omega
    · refine .inr (.inl ⟨i, fits, .ofInt i, rfl, by omega, by rw [Node.ofNumber, if_neg hi], ?_⟩)
      exact Int64.toInt_ofInt_of_le (by omega) (by omega)

theorem text_accepts : text.Accepts Json.IsString := by
  intro path o j
  constructor
  · rintro ⟨a, ha⟩
    rw [← Node.toJson_ofJson o j]
    unfold text at ha
    split at ha
    · next heq => exact ⟨_, by rw [heq]; rfl⟩
    · cases ha
  · rintro ⟨s, rfl⟩
    exact ⟨s, rfl⟩

theorem flag_accepts : flag.Accepts Json.IsTruth := by
  intro path o j
  constructor
  · rintro ⟨a, ha⟩
    rw [← Node.toJson_ofJson o j]
    unfold flag at ha
    split at ha
    · next heq => exact ⟨_, by rw [heq]; rfl⟩
    · cases ha
  · rintro ⟨b, rfl⟩
    exact ⟨b, rfl⟩

theorem below_accepts (bound : Nat) (expected : String) :
    (below bound expected).Accepts (Json.IsBelow bound) := by
  intro path o j
  cases j with
  | num n =>
    rw [Node.ofJson]
    obtain ⟨i, fits, word, rfl, hi, he, hword⟩ | ⟨i, fits, word, rfl, hi, he, hword⟩ |
      ⟨x, rfl, he⟩ := ofNumber_cases n
    · rw [he, below]
      constructor
      · rintro ⟨a, ha⟩
        split at ha
        · next hlt => exact ⟨i, fits, rfl, hi, by omega⟩
        · cases ha
      · rintro ⟨i', _, heq, -, hlt⟩
        cases heq
        rw [if_pos (by omega)]
        exact ⟨_, rfl⟩
    · rw [he, below]
      constructor
      · rintro ⟨a, ha⟩
        split at ha
        · next hin => omega
        · cases ha
      · rintro ⟨i', _, heq, hnonneg, -⟩
        cases heq
        omega
    · rw [he]
      refine ⟨fun ⟨_, ha⟩ => (nomatch ha), ?_⟩
      rintro ⟨_, _, heq, -⟩
      cases heq
  | _ =>
    refine ⟨fun ⟨_, ha⟩ => (nomatch ha), ?_⟩
    rintro ⟨_, _, heq, -⟩
    cases heq

theorem itemsFrom_accepts (h : item.Accepts Item) (path : List String) (o : Origin)
    (items : List Json) (i : Nat) :
    (∃ values, itemsFrom item path i (Node.ofJson.ofItems o items) = .ok values) ↔
      ∀ j ∈ items, Item j := by
  induction items generalizing i with
  | nil => exact ⟨fun _ _ hj => absurd hj List.not_mem_nil, fun _ => ⟨[], rfl⟩⟩
  | cons j items ih =>
    rw [List.forall_mem_cons, ← h (path ++ [toString i]) o j, ← ih (i + 1), Node.ofJson.ofItems,
      itemsFrom]
    constructor
    · rintro ⟨values, hvalues⟩
      obtain ⟨a, ha, hmore⟩ := Except.bind_eq_ok_iff.1 hvalues
      obtain ⟨more, hrest, -⟩ := Except.bind_eq_ok_iff.1 hmore
      exact ⟨⟨a, ha⟩, more, hrest⟩
    · rintro ⟨⟨a, ha⟩, more, hrest⟩
      exact ⟨a :: more,
        Except.bind_eq_ok_iff.2 ⟨a, ha, Except.bind_eq_ok_iff.2 ⟨more, hrest, rfl⟩⟩⟩

theorem Accepts.list (h : item.Accepts Item) : (list item).Accepts (Json.IsListOf Item) := by
  intro path o j
  cases j with
  | arr items =>
    refine (itemsFrom_accepts h path o items 0).trans ⟨fun hitems => ⟨items, rfl, hitems⟩, ?_⟩
    rintro ⟨_, heq, hitems⟩
    cases heq
    exact hitems
  | _ =>
    refine ⟨fun ⟨_, ha⟩ => (nomatch ha), ?_⟩
    rintro ⟨_, heq, -⟩
    cases heq

theorem entries_accepts (h : item.Accepts Item) (path : List String) (o : Origin)
    (members : List (String × Json)) :
    (∃ values, entries item path (Node.ofJson.ofMembers o members) = .ok values) ↔
      ∀ e ∈ members, Item e.2 := by
  induction members with
  | nil => exact ⟨fun _ _ he => absurd he List.not_mem_nil, fun _ => ⟨[], rfl⟩⟩
  | cons e members ih =>
    obtain ⟨name, j⟩ := e
    rw [List.forall_mem_cons, ← h (path ++ [name]) o j, ← ih, Node.ofJson.ofMembers, entries]
    constructor
    · rintro ⟨values, hvalues⟩
      obtain ⟨a, ha, hmore⟩ := Except.bind_eq_ok_iff.1 hvalues
      obtain ⟨more, hrest, -⟩ := Except.bind_eq_ok_iff.1 hmore
      exact ⟨⟨a, ha⟩, more, hrest⟩
    · rintro ⟨⟨a, ha⟩, more, hrest⟩
      exact ⟨(name, a) :: more,
        Except.bind_eq_ok_iff.2 ⟨a, ha, Except.bind_eq_ok_iff.2 ⟨more, hrest, rfl⟩⟩⟩

theorem Accepts.table (h : item.Accepts Item) : (table item).Accepts (Json.IsTableOf Item) := by
  intro path o j
  cases j with
  | obj members =>
    refine (entries_accepts h path o members).trans ⟨fun hall => ⟨members, rfl, hall⟩, ?_⟩
    rintro ⟨_, heq, hall⟩
    cases heq
    exact hall
  | _ =>
    refine ⟨fun ⟨_, ha⟩ => (nomatch ha), ?_⟩
    rintro ⟨_, heq, -⟩
    cases heq

theorem extensions_accepts : extensions.Accepts Json.IsOpenTable := by
  intro path o j
  constructor
  · rintro ⟨a, ha⟩
    rw [← Node.toJson_ofJson o j]
    unfold extensions at ha
    split at ha
    · next heq => exact .inr ⟨_, by rw [heq]; rfl⟩
    · next heq => exact .inl (by rw [heq]; rfl)
    · cases ha
  · rintro (rfl | ⟨members, rfl⟩) <;> exact ⟨_, rfl⟩

theorem Accepts.optional (h : item.Accepts Item) :
    (optional item).Accepts (Json.IsOptional Item) := by
  intro path o j
  by_cases hnull : j = .null
  · subst hnull
    exact ⟨fun _ => .inl rfl, fun _ => ⟨none, rfl⟩⟩
  · have hread : NodeReader.optional item path (.ofJson o j) =
        (item path (.ofJson o j)).map some := by
      unfold NodeReader.optional
      split
      · next heq => exact absurd (by rw [← Node.toJson_ofJson o j, heq]; rfl) hnull
      · rfl
    rw [hread]
    refine (h.map path o j).trans ⟨.inr, ?_⟩
    rintro (heq | hitem)
    · exact absurd heq hnull
    · exact hitem

/-- A part of a record as told by its name and shape. -/
def Part.Fits (part : Part α) (shape : String × (Json → Prop)) : Prop :=
  part.name = shape.1 ∧ part.read.Accepts shape.2

variable {parts : List (Part α)} {shapes : List (String × (Json → Prop))}

/-- The part of a name, by which the record reads a member, has the shape of that name. -/
theorem find?_part (h : List.Forall₂ Part.Fits parts shapes) (hnodup : (shapes.map (·.1)).Nodup)
    (name : String) :
    (parts.find? (·.name == name) = none ∧ ∀ shape ∈ shapes, shape.1 ≠ name) ∨
      ∃ part shape, parts.find? (·.name == name) = some part ∧ part.read.Accepts shape ∧
        ∀ Item, (name, Item) ∈ shapes ↔ Item = shape := by
  induction h with
  | nil => exact .inl ⟨rfl, fun _ h => nomatch h⟩
  | @cons part shape parts shapes hfits _ ih =>
    rw [List.map_cons, List.nodup_cons] at hnodup
    rw [List.find?_cons]
    by_cases hname : part.name = name
    · right
      refine ⟨part, shape.2, by rw [beq_iff_eq.2 hname], hfits.2, fun Item => ?_⟩
      rw [List.mem_cons, Prod.ext_iff]
      constructor
      · rintro (⟨-, heq⟩ | hmem)
        · exact heq
        · refine absurd (List.mem_map.2 ⟨_, hmem, ?_⟩) hnodup.1
          exact hname.symm.trans hfits.1
      · rintro rfl
        exact .inl ⟨hname.symm.trans hfits.1, rfl⟩
    · rw [beq_eq_false_iff_ne.2 hname]
      have hshape : shape.1 ≠ name := fun heq => hname (hfits.1.trans heq)
      obtain ⟨hfind, hnone⟩ | ⟨found, Item, hfind, hread, hItem⟩ := ih hnodup.2
      · exact .inl ⟨hfind, List.forall_mem_cons.2 ⟨hshape, hnone⟩⟩
      · refine .inr ⟨found, Item, hfind, hread, fun Other => ?_⟩
        rw [List.mem_cons, ← hItem, Prod.ext_iff]
        exact ⟨fun h => h.resolve_left fun heq => hshape heq.1.symm, .inr⟩

theorem namedParts_accepts (h : List.Forall₂ Part.Fits parts shapes)
    (hnodup : (shapes.map (·.1)).Nodup) (path : List String) (o : Origin) :
    ∀ (members : List (String × Json)) (a : α),
      (∃ b, namedParts parts path a (Node.ofJson.ofMembers o members) = .ok b) ↔
        ∀ e ∈ members, ∀ shape ∈ shapes, shape.1 = e.1 → shape.2 e.2
  | [], a => ⟨fun _ _ he => (nomatch he), fun _ => ⟨a, rfl⟩⟩
  | (name, j) :: members, a => by
    have ih := namedParts_accepts h hnodup path o members
    rw [List.forall_mem_cons, Node.ofJson.ofMembers, namedParts]
    obtain ⟨hfind, hnone⟩ | ⟨part, Item, hfind, hread, hItem⟩ := find?_part h hnodup name
    · rw [hfind]
      refine (ih a).trans ⟨fun hall => ⟨fun shape hmem heq => ?_, hall⟩, fun hall => hall.2⟩
      exact absurd heq (hnone shape hmem)
    · have hpart : (∀ shape ∈ shapes, shape.1 = name → shape.2 j) ↔ Item j := by
        constructor
        · intro hall
          exact hall (name, Item) ((hItem Item).2 rfl) rfl
        · rintro hj ⟨_, Other⟩ hmem rfl
          rw [(hItem Other).1 hmem]
          exact hj
      rw [hfind, hpart, ← hread (path ++ [name]) o j]
      constructor
      · rintro ⟨b, hb⟩
        obtain ⟨change, hchange, hrest⟩ := Except.bind_eq_ok_iff.1 hb
        exact ⟨⟨change, hchange⟩, (ih (change a)).1 ⟨b, hrest⟩⟩
      · rintro ⟨⟨change, hchange⟩, hall⟩
        obtain ⟨b, hb⟩ := (ih (change a)).2 hall
        exact ⟨b, Except.bind_eq_ok_iff.2 ⟨change, hchange, hb⟩⟩

theorem listedParts_accepts (path : List String) (o : Origin)
    (h : List.Forall₂ Part.Fits parts shapes) :
    ∀ (items : List Json) (i : Nat) (a : α),
      (∃ b, listedParts path i parts a (Node.ofJson.ofItems o items) = .ok b) ↔
        ∀ p ∈ shapes.zip items, p.1.2 p.2 := by
  induction h with
  | nil =>
    intro items i a
    exact ⟨fun _ p hp => (nomatch hp), fun _ => ⟨a, by cases items <;> rfl⟩⟩
  | @cons part shape parts shapes hfits _ ih =>
    intro items i a
    cases items with
    | nil => exact ⟨fun _ p hp => (nomatch hp), fun _ => ⟨a, rfl⟩⟩
    | cons j items =>
      rw [List.zip_cons_cons, List.forall_mem_cons, Node.ofJson.ofItems, listedParts,
        ← hfits.2 (path ++ [toString i]) o j]
      constructor
      · rintro ⟨b, hb⟩
        obtain ⟨change, hchange, hrest⟩ := Except.bind_eq_ok_iff.1 hb
        exact ⟨⟨change, hchange⟩, (ih items (i + 1) (change a)).1 ⟨b, hrest⟩⟩
      · rintro ⟨⟨change, hchange⟩, hall⟩
        obtain ⟨b, hb⟩ := (ih items (i + 1) (change a)).2 hall
        exact ⟨b, Except.bind_eq_ok_iff.2 ⟨change, hchange, hb⟩⟩

theorem record_accepts (h : List.Forall₂ Part.Fits parts shapes)
    (hnodup : (shapes.map (·.1)).Nodup) (kind : String) (zero : α) :
    (record kind parts zero).Accepts (Json.IsRecordOf shapes) := by
  intro path o j
  cases j with
  | obj members =>
    refine (namedParts_accepts h hnodup path o members zero).trans
      ⟨fun hall => .inl ⟨members, rfl, hall⟩, ?_⟩
    rintro (⟨_, heq, hall⟩ | ⟨_, heq, -⟩) <;> cases heq
    exact hall
  | arr items =>
    refine (listedParts_accepts path o h items 0 zero).trans
      ⟨fun hall => .inr ⟨items, rfl, hall⟩, ?_⟩
    rintro (⟨_, heq, -⟩ | ⟨_, heq, hall⟩) <;> cases heq
    exact hall
  | _ =>
    refine ⟨fun ⟨_, ha⟩ => (nomatch ha), ?_⟩
    rintro (⟨_, heq, -⟩ | ⟨_, heq, -⟩) <;> cases heq

theorem credentials_accepts :
    credentials.Accepts
      (Json.IsRecordOf [("Username", Json.IsString), ("Password", Json.IsString)]) := by
  refine record_accepts ?_ (by decide) _ _
  exact .cons ⟨rfl, text_accepts.map⟩ (.cons ⟨rfl, text_accepts.map⟩ .nil)

theorem logTarget_accepts :
    logTarget.Accepts (Json.IsRecordOf
      [("Enable", Json.IsTruth), ("FileName", Json.IsString), ("Level", Json.IsString)]) := by
  refine record_accepts ?_ (by decide) _ _
  exact .cons ⟨rfl, flag_accepts.map⟩
    (.cons ⟨rfl, text_accepts.map⟩ (.cons ⟨rfl, text_accepts.map⟩ .nil))

/-! ## Where a complaint points to -/

/-- A complaint about a value names a place within it. -/
def Rooted (item : NodeReader α) : Prop :=
  ∀ path node mismatch, item path node = .error mismatch → path <+: mismatch.path

theorem Rooted.map {f : α → β} (h : item.Rooted) :
    NodeReader.Rooted (fun path node => (item path node).map f) :=
  fun path node mismatch heq => h path node mismatch (Except.map_eq_error_iff.1 heq)

theorem text_rooted : text.Rooted := by
  intro path node mismatch heq
  unfold text at heq
  split at heq <;> cases heq
  exact List.prefix_rfl

theorem flag_rooted : flag.Rooted := by
  intro path node mismatch heq
  unfold flag at heq
  split at heq <;> cases heq
  exact List.prefix_rfl

theorem below_rooted (bound : Nat) (expected : String) : (below bound expected).Rooted := by
  intro path node mismatch heq
  unfold below at heq
  split at heq
  · split at heq <;> cases heq
    exact List.prefix_rfl
  · split at heq <;> cases heq
    exact List.prefix_rfl
  · cases heq
    exact List.prefix_rfl

theorem extensions_rooted : extensions.Rooted := by
  intro path node mismatch heq
  unfold extensions at heq
  split at heq <;> cases heq
  exact List.prefix_rfl

theorem itemsFrom_rooted (h : item.Rooted) {path : List String} {mismatch : Mismatch} :
    ∀ {nodes : List Node} {i : Nat}, itemsFrom item path i nodes = .error mismatch →
      path <+: mismatch.path
  | node :: nodes, i, heq => by
    obtain hitem | ⟨a, -, hmore⟩ := Except.bind_eq_error_iff.1 heq
    · exact (List.prefix_append _ _).trans (h _ node mismatch hitem)
    · obtain hrest | ⟨more, -, hpure⟩ := Except.bind_eq_error_iff.1 hmore
      · exact itemsFrom_rooted h hrest
      · cases hpure

theorem entries_rooted (h : item.Rooted) {path : List String} {mismatch : Mismatch} :
    ∀ {members : List (String × Node)}, entries item path members = .error mismatch →
      path <+: mismatch.path
  | (_, node) :: members, heq => by
    obtain hitem | ⟨a, -, hmore⟩ := Except.bind_eq_error_iff.1 heq
    · exact (List.prefix_append _ _).trans (h _ node mismatch hitem)
    · obtain hrest | ⟨more, -, hpure⟩ := Except.bind_eq_error_iff.1 hmore
      · exact entries_rooted h hrest
      · cases hpure

theorem Rooted.list (h : item.Rooted) : (list item).Rooted := by
  intro path node mismatch heq
  unfold NodeReader.list at heq
  split at heq
  · exact itemsFrom_rooted h heq
  · cases heq
    exact List.prefix_rfl

theorem Rooted.table (h : item.Rooted) : (table item).Rooted := by
  intro path node mismatch heq
  unfold NodeReader.table at heq
  split at heq
  · exact entries_rooted h heq
  · cases heq
    exact List.prefix_rfl

theorem Rooted.optional (h : item.Rooted) : (optional item).Rooted := by
  intro path node mismatch heq
  unfold NodeReader.optional at heq
  split at heq
  · cases heq
  · exact h path node mismatch (Except.map_eq_error_iff.1 heq)

theorem namedParts_rooted (h : ∀ part ∈ parts, part.read.Rooted) {path : List String}
    {mismatch : Mismatch} :
    ∀ {members : List (String × Node)} {a : α}, namedParts parts path a members = .error mismatch →
      path <+: mismatch.path
  | (name, node) :: members, a, heq => by
    rw [namedParts] at heq
    split at heq
    · next part hfind =>
      obtain hpart | ⟨change, -, hrest⟩ := Except.bind_eq_error_iff.1 heq
      · have hrooted := h part (List.mem_of_find?_eq_some hfind)
        exact (List.prefix_append _ _).trans (hrooted _ node mismatch hpart)
      · exact namedParts_rooted h hrest
    · exact namedParts_rooted h heq

theorem listedParts_rooted {path : List String} {mismatch : Mismatch} :
    ∀ {parts : List (Part α)} {nodes : List Node} {i : Nat} {a : α},
      (∀ part ∈ parts, part.read.Rooted) → listedParts path i parts a nodes = .error mismatch →
        path <+: mismatch.path
  | part :: parts, node :: nodes, i, a, h, heq => by
    rw [listedParts] at heq
    obtain hpart | ⟨change, -, hrest⟩ := Except.bind_eq_error_iff.1 heq
    · have hrooted := h part List.mem_cons_self
      exact (List.prefix_append _ _).trans (hrooted _ node mismatch hpart)
    · exact listedParts_rooted (fun part hpart => h part (List.mem_cons_of_mem _ hpart)) hrest

theorem record_rooted (h : ∀ part ∈ parts, part.read.Rooted) (kind : String) (zero : α) :
    (record kind parts zero).Rooted := by
  intro path node mismatch heq
  unfold record at heq
  split at heq
  · exact namedParts_rooted h heq
  · exact listedParts_rooted h heq
  · cases heq
    exact List.prefix_rfl

theorem credentials_rooted : credentials.Rooted := by
  refine record_rooted ?_ _ _
  simp only [List.forall_mem_cons]
  exact ⟨text_rooted.map, text_rooted.map, fun _ h => nomatch h⟩

theorem logTarget_rooted : logTarget.Rooted := by
  refine record_rooted ?_ _ _
  simp only [List.forall_mem_cons]
  exact ⟨flag_rooted.map, text_rooted.map, text_rooted.map, fun _ h => nomatch h⟩

end NodeReader

namespace Field

open NodeReader

/-- A field is read exactly from the values that it admits. -/
theorem read_accepts (f : Field) : f.read.Accepts f.Admits := by
  cases f with
  | endpointAuth => exact credentials_accepts.optional.map
  | port => exact (below_accepts UInt16.size "u16").map.map
  | maxAttempts => exact (below_accepts UInt32.size "u32").map.map
  | initialDelay | initialBackoff | pad | httpTimeout | responseHeaderTimeout
  | maxMessageSize | duplicateTimeout => exact (below_accepts UInt64.size "u64").map.map
  | maxIdleConnsPerHost | duplicateCacheSize =>
    exact (below_accepts UInt64.size "usize").map.map
  | eventTopics | actionTopics => exact text_accepts.list.map
  | workerPoolSize => exact (below_accepts UInt64.size "usize").map.table.map
  | logParams => exact text_accepts.table.map
  | allowPartner => exact flag_accepts.map
  | debugLog | traceLog => exact logTarget_accepts.optional.map
  | customProperties | misc => exact extensions_accepts.map
  | name | appId | version | endpoint | backoffMethod | topicPath | defaultPartner
  | httpTenantHeader | httpPartnerHeader | httpTransactionHeader => exact text_accepts.map

/-- A field complains about a place within its value. -/
theorem read_rooted (f : Field) : f.read.Rooted := by
  cases f with
  | endpointAuth => exact credentials_rooted.optional.map
  | port | maxAttempts | initialDelay | initialBackoff | pad | httpTimeout | responseHeaderTimeout
  | maxMessageSize | duplicateTimeout | maxIdleConnsPerHost | duplicateCacheSize =>
    exact (below_rooted _ _).map.map
  | eventTopics | actionTopics => exact text_rooted.list.map
  | workerPoolSize => exact (below_rooted _ _).map.table.map
  | logParams => exact text_rooted.table.map
  | allowPartner => exact flag_rooted.map
  | debugLog | traceLog => exact logTarget_rooted.optional.map
  | customProperties | misc => exact extensions_rooted.map
  | name | appId | version | endpoint | backoffMethod | topicPath | defaultPartner
  | httpTenantHeader | httpPartnerHeader | httpTransactionHeader => exact text_rooted.map

/-- A field that members give a value that it does not admit. -/
def MisfitIn (members : Entries Json) (f : Field) : Prop :=
  ∃ j, Entries.find? f.key members = some j ∧ ¬f.Admits j

theorem misfitIn_iff {members : Entries Json} {f : Field} {o : Origin} :
    f.MisfitIn members ↔ ∃ (node : Node) (mismatch : Mismatch),
      Entries.find? f.key (Node.ofJson.ofMembers o members) = some node ∧
        f.read [f.key] node = .error mismatch := by
  simp only [MisfitIn, Node.find?_ofMembers, Option.map_eq_some_iff]
  constructor
  · rintro ⟨j, hfind, hnot⟩
    cases hread : f.read [f.key] (.ofJson o j) with
    | ok change => exact absurd ((f.read_accepts _ _ j).1 ⟨change, hread⟩) hnot
    | error mismatch => exact ⟨_, mismatch, ⟨j, hfind, rfl⟩, hread⟩
  · rintro ⟨_, mismatch, ⟨j, hfind, rfl⟩, hread⟩
    refine ⟨j, hfind, fun hadmits => ?_⟩
    obtain ⟨change, hchange⟩ := (f.read_accepts [f.key] o j).2 hadmits
    rw [hchange] at hread
    cases hread

end Field

namespace Settings

/-! ## The member that is complained of -/

/-- Members in order are refused for the first of them that its field refuses. -/
theorem foldlM_readMember_eq_error {members : Entries Node} {before : Settings}
    {mismatch : Mismatch} (h : Entries.Sorted members)
    (heq : members.foldlM readMember before = .error mismatch) :
    ∃ (f : Field) (node : Node), Entries.find? f.key members = some node ∧
      f.read [f.key] node = .error mismatch ∧
      ∀ (g : Field) (other : Node) (m : Mismatch), Entries.find? g.key members = some other →
        g.read [g.key] other = .error m → f.key ≤ g.key := by
  induction members generalizing before with
  | nil => cases heq
  | cons e members ih =>
    obtain ⟨name, node⟩ := e
    obtain ⟨hlt, hsorted⟩ := Entries.sorted_cons.1 h
    -- a field that has its value further down has a name that comes later
    have hlater : ∀ (g : Field) (other : Node), Entries.find? g.key members = some other →
        name < g.key := fun g other hfind => hlt _ (Entries.mem_of_find?_eq_some hfind)
    rw [List.foldlM_cons] at heq
    obtain hhere | ⟨after, hhere, hrest⟩ := Except.bind_eq_error_iff.1 heq
    · unfold readMember at hhere
      split at hhere
      · next f hkey =>
        obtain rfl := Field.ofKey?_eq_some_iff.1 hkey
        refine ⟨f, node, if_pos rfl, Except.map_eq_error_iff.1 hhere, fun g other m hfind _ => ?_⟩
        rw [Entries.find?_cons] at hfind
        split at hfind
        · next hname => exact hname ▸ String.le_refl _
        · exact String.not_lt.1 (String.lt_asymm (hlater g other hfind))
      · cases hhere
    · obtain ⟨f, bad, hfind, hbad, hfirst⟩ := ih hsorted hrest
      have hne : name ≠ f.key := String.ne_of_lt (hlater f bad hfind)
      refine ⟨f, bad, (if_neg hne).trans hfind, hbad, fun g other m hother hm => ?_⟩
      rw [Entries.find?_cons] at hother
      split at hother
      · -- the first member was read, so it is not the one of `g`
        next hname =>
        subst hname
        cases hother
        simp only [readMember, Field.ofKey?_key] at hhere
        obtain ⟨change, hchange, -⟩ := Except.map_eq_ok_iff.1 hhere
        rw [hchange] at hm
        cases hm
      · exact hfirst g other m hother hm

variable {members : Entries Json} {text text' : String} {s s' : Settings} {K : String}

theorem parse_of_members (h : Json.parseObject text = .ok members) :
    parse text =
      (ofMembers (Node.ofJson.ofMembers .document members)).mapError .badValue := by
  rw [parse, h]

theorem parse_of_members_eq_ok_iff (h : Json.parseObject text = .ok members) :
    parse text = .ok s ↔ ofMembers (Node.ofJson.ofMembers .document members) = .ok s := by
  rw [parse_of_members h, Except.mapError_eq_ok_iff]

theorem ofMembers_eq_error {mismatch : Mismatch} (h : Entries.Sorted members)
    (heq : ofMembers (Node.ofJson.ofMembers .document members) = .error mismatch) :
    ∃ (f : Field) (rest : List String), mismatch.path = f.key :: rest ∧ f.MisfitIn members ∧
      ∀ g : Field, g.MisfitIn members → f.key ≤ g.key := by
  obtain ⟨f, node, hfind, hread, hfirst⟩ :=
    foldlM_readMember_eq_error (Node.sorted_ofMembers.2 h) heq
  obtain ⟨rest, hrest⟩ := f.read_rooted [f.key] node mismatch hread
  refine ⟨f, rest, hrest.symm, Field.misfitIn_iff.2 ⟨node, mismatch, hfind, hread⟩, fun g hg => ?_⟩
  obtain ⟨other, m, hother, hm⟩ := Field.misfitIn_iff.1 hg
  exact hfirst g other m hother hm

/-- Members in order make settings exactly if each field admits what they give it. -/
theorem exists_ofMembers_iff (h : Entries.Sorted members) :
    (∃ s, ofMembers (Node.ofJson.ofMembers .document members) = .ok s) ↔
      ∀ f : Field, ¬f.MisfitIn members := by
  constructor
  · rintro ⟨s, hs⟩ f hmisfit
    obtain ⟨node, mismatch, hfind, hread⟩ := Field.misfitIn_iff.1 hmisfit
    have hgiven := (ofMembers_eq_ok_iff (Node.sorted_ofMembers.2 h)).1 hs f
    rw [hfind, Field.given, hread] at hgiven
    cases hgiven
  · intro hall
    cases hmade : ofMembers (Node.ofJson.ofMembers .document members) with
    | ok s => exact ⟨s, rfl⟩
    | error mismatch =>
      obtain ⟨f, -, -, hmisfit, -⟩ := ofMembers_eq_error h hmade
      exact absurd hmisfit (hall f)

/-- Members in order that give a field the same make settings with that field the same. -/
theorem write_eq_of_find? {members' : Entries Json} {f : Field} (h : Entries.Sorted members)
    (h' : Entries.Sorted members')
    (hs : ofMembers (Node.ofJson.ofMembers .document members) = .ok s)
    (hs' : ofMembers (Node.ofJson.ofMembers .document members') = .ok s')
    (heq : Entries.find? f.key members' = Entries.find? f.key members) :
    f.write s' = f.write s := by
  have hgiven := (ofMembers_eq_ok_iff (Node.sorted_ofMembers.2 h)).1 hs f
  have hgiven' := (ofMembers_eq_ok_iff (Node.sorted_ofMembers.2 h')).1 hs' f
  rw [Node.find?_ofMembers] at hgiven hgiven'
  rw [heq, hgiven] at hgiven'
  exact (Except.ok.inj hgiven').symm

/-! ## Documents that differ in one member -/

/-- What holds of a document text with given members, whatever the order of the text. -/
structure ReadsByField (text : String) (members : Entries Json) : Prop where
  /-- A document with one member set to a value makes the settings as they were with the field of
  that name set, if there is one, and no other. -/
  set : ∀ {s s' : Settings} {K text' : String} {v : Json}, parse text = .ok s →
    Json.parseObject text' = .ok (Entries.insert K v members) → parse text' = .ok s' →
      (∀ f : Field, f.key = K →
        ∃ change, f.read [K] (.ofJson .document v) = .ok change ∧ s' = change s) ∧
      (∀ f : Field, f.key ≠ K → f.write s' = f.write s) ∧ (Field.ofKey? K = none → s' = s)
  /-- A document without one of its members makes settings with that field as if nobody set it, and
  the others as they were. -/
  unset : ∀ {s : Settings} {K text' : String}, parse text = .ok s →
    Json.parseObject text' = .ok (Entries.erase K members) → ∃ s', parse text' = .ok s' ∧
      (∀ f : Field, f.key = K → f.write s' = f.write zero) ∧
      ∀ f : Field, f.key ≠ K → f.write s' = f.write s
  /-- The document is refused exactly if it gives some field a value that the field does not
  admit. -/
  refused : (∃ e, parse text = .error e) ↔ ∃ f : Field, f.MisfitIn members
  /-- The complaint is about the first such field in the order of the names. -/
  reported : ∀ e, parse text = .error e → ∃ (mismatch : Mismatch) (f : Field) (rest : List String),
    e = .badValue mismatch ∧ mismatch.path = f.key :: rest ∧ f.MisfitIn members ∧
      ∀ g : Field, g.MisfitIn members → f.key ≤ g.key

theorem change_of_insert {f : Field} {v : Json} (h : Entries.Sorted members)
    (hs : ofMembers (Node.ofJson.ofMembers .document members) = .ok s)
    (hs' : ofMembers (Node.ofJson.ofMembers .document (Entries.insert f.key v members)) = .ok s') :
    ∃ change, f.read [f.key] (.ofJson .document v) = .ok change ∧ s' = change s := by
  have hsorted : Entries.Sorted (Node.ofJson.ofMembers .document members) :=
    Node.sorted_ofMembers.2 h
  have hinsert : ofMembers (Entries.insert f.key (.ofJson .document v)
      (Node.ofJson.ofMembers .document members)) = .ok s' := by
    rw [← hs']
    refine ofMembers_congr (Entries.sorted_insert hsorted)
      (Node.sorted_ofMembers.2 (Entries.sorted_insert h)) fun g => ?_
    simp only [Node.find?_ofMembers, Entries.find?_insert]
    split <;> rfl
  exact (ofMembers_insert_iff hsorted hs).1 hinsert

theorem exists_of_erase (h : Entries.Sorted members) (K : String)
    (hs : ofMembers (Node.ofJson.ofMembers .document members) = .ok s) :
    ∃ s', ofMembers (Node.ofJson.ofMembers .document (Entries.erase K members)) = .ok s' ∧
      (∀ f : Field, f.key = K → f.write s' = f.write zero) ∧
      ∀ f : Field, f.key ≠ K → f.write s' = f.write s := by
  have hsorted' := h.erase K
  have hfit : ∀ f : Field, ¬f.MisfitIn (Entries.erase K members) := by
    rintro f ⟨j, hfind, hnot⟩
    have hne : f.key ≠ K := by
      rintro rfl
      rw [Entries.find?_erase_self] at hfind
      cases hfind
    rw [Entries.find?_erase_of_ne hne] at hfind
    exact (exists_ofMembers_iff h).1 ⟨s, hs⟩ f ⟨j, hfind, hnot⟩
  obtain ⟨s', hs'⟩ := (exists_ofMembers_iff hsorted').2 hfit
  refine ⟨s', hs', ?_, fun f hf =>
    write_eq_of_find? h hsorted' hs hs' (Entries.find?_erase_of_ne hf)⟩
  rintro f rfl
  have hgiven := (ofMembers_eq_ok_iff (Node.sorted_ofMembers.2 hsorted')).1 hs' f
  rw [Node.find?_ofMembers, Entries.find?_erase_self] at hgiven
  exact (Except.ok.inj hgiven).symm

/-- **Fields apart.** The settings of a document hold in each field what the member of its name
gives, or what the field is when nobody sets it; a document is refused for a value that a field does
not admit and for nothing else, and the first such field is complained of. -/
theorem fields_independent (h : Json.parseObject text = .ok members) :
    ReadsByField text members := by
  have hsorted := (Json.parseObject_within h).1
  refine ⟨fun {s s' K text' v} hs h' hs' => ?_, fun {s K text'} hs h' => ?_, ?_, fun e he => ?_⟩
  · have hmade := (parse_of_members_eq_ok_iff h).1 hs
    have hmade' := (parse_of_members_eq_ok_iff h').1 hs'
    have hother : ∀ f : Field, f.key ≠ K → f.write s' = f.write s := fun f hf =>
      write_eq_of_find? hsorted (Entries.sorted_insert hsorted) hmade hmade'
        (Entries.find?_insert_of_ne hf v members)
    refine ⟨?_, hother, fun hnone => Field.ext fun f => hother f ?_⟩
    · rintro f rfl
      exact change_of_insert hsorted hmade hmade'
    · rintro rfl
      rw [Field.ofKey?_key] at hnone
      cases hnone
  · obtain ⟨s', hs', hown, hother⟩ :=
      exists_of_erase hsorted K ((parse_of_members_eq_ok_iff h).1 hs)
    exact ⟨s', (parse_of_members_eq_ok_iff h').2 hs', hown, hother⟩
  · rw [parse_of_members h]
    constructor
    · rintro ⟨e, he⟩
      obtain ⟨mismatch, hmismatch, -⟩ := Except.mapError_eq_error_iff.1 he
      obtain ⟨f, -, -, hmisfit, -⟩ := ofMembers_eq_error hsorted hmismatch
      exact ⟨f, hmisfit⟩
    · rintro ⟨f, hmisfit⟩
      cases hmade : ofMembers (Node.ofJson.ofMembers .document members) with
      | ok s => exact absurd hmisfit ((exists_ofMembers_iff hsorted).1 ⟨s, hmade⟩ f)
      | error mismatch => exact ⟨.badValue mismatch, rfl⟩
  · rw [parse_of_members h] at he
    obtain ⟨mismatch, hmismatch, rfl⟩ := Except.mapError_eq_error_iff.1 he
    obtain ⟨f, rest, hpath, hmisfit, hfirst⟩ := ofMembers_eq_error hsorted hmismatch
    exact ⟨mismatch, f, rest, rfl, hpath, hmisfit, hfirst⟩

/-- The text of a document with two values that their fields do not admit, and one of no field. -/
def twiceSpoiltText : String :=
  "\x7b\"Port\":70000,\"AllowPartner\":\"yes\",\"Zeta\":[1]\x7d"

/-- The document is refused for the one that comes first by its name, though it stands second. -/
theorem fields_independent_spoilt :
    ∃ mismatch rest, parse twiceSpoiltText = .error (.badValue mismatch) ∧
      mismatch.path = "AllowPartner" :: rest := by
  have hfound : Json.parseObject twiceSpoiltText =
      .ok [("AllowPartner", .str "yes"), ("Port", .num (.int 70000 (by decide))),
        ("Zeta", .arr [.num (.int 1 (by decide))])] :=
    Except.eq_ok_of_toOption (by decide +kernel)
  have hreads := fields_independent hfound
  have hallow : Field.allowPartner.MisfitIn
      [("AllowPartner", .str "yes"), ("Port", .num (.int 70000 (by decide))),
        ("Zeta", .arr [.num (.int 1 (by decide))])] :=
    ⟨.str "yes", rfl, fun ⟨_, heq⟩ => nomatch heq⟩
  obtain ⟨e, he⟩ := hreads.refused.2 ⟨_, hallow⟩
  obtain ⟨mismatch, f, rest, rfl, hpath, ⟨j, hfind, -⟩, hfirst⟩ := hreads.reported e he
  refine ⟨mismatch, rest, he, ?_⟩
  have hle : f.key ≤ "AllowPartner" := hfirst _ hallow
  have hmem := Entries.mem_of_find?_eq_some hfind
  simp only [List.mem_cons, Prod.mk.injEq, List.not_mem_nil, or_false] at hmem
  obtain ⟨hkey, -⟩ | ⟨hkey, -⟩ | ⟨hkey, -⟩ := hmem
  · rw [hpath, hkey]
  · exact absurd hle (by rw [hkey]; decide)
  · exact absurd hle (by rw [hkey]; decide)

end Settings
end EventRelay
