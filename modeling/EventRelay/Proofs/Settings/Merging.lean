import EventRelay.Proofs.Settings.Nodes
import EventRelay.Settings.Overlay

/-!
# Values merged at paths

A value that is merged at a path into a table goes where the path leads: tables on the way are made
where there are none, a table at the end keeps what the value does not name, and anything else at
the end makes room. The variables of an environment are laid over one another before they are laid
over a document; as long as no path of theirs leads through another, that is the document with each
value merged at its own path, one after the other and in any order.

* `Node.merge`: a value merged at a path into what is there.
* `Environment.Apart`: no path of a variable leads through that of another.
* `Node.overlay_merge`: merging below or above a document, where there is room.
* `Node.merge_comm`: values merged at paths apart change places.
* `Environment.overlay_table`: variables over a document are the values merged into it.
-/

namespace EventRelay

namespace Node

/-- The entries of what is there, if anything. -/
def entriesOf (node? : Option Node) : Entries Node := (node?.map entries).getD []

/-- A value merged at a path into what is there, if anything. -/
def merge : List String → Node → Option Node → Node
  | [], value, none => value
  | [], value, some old => value.overlay old
  | name :: path, value, old =>
    .table .environment ((entriesOf old).insert name
      (merge path value (Entries.find? name (entriesOf old))))

/-- A value merged at a path into a table. -/
def mergeInto : List String → Node → Entries Node → Entries Node
  | [], _, members => members
  | name :: path, value, members =>
    members.insert name (merge path value (Entries.find? name members))

/-- Neither path leads through the other. -/
def PathsApart (p q : List String) : Prop := ¬ p <+: q ∧ ¬ q <+: p

instance (p q : List String) : Decidable (PathsApart p q) := inferInstanceAs (Decidable (_ ∧ _))

end Node

namespace Environment

/-- The paths into the settings that variables spell, without those that spell none. -/
def paths (env : Environment) : List (List String) := env.filterMap fun p => path? p.1

/-- The paths of any two variables are different and neither leads through the other. -/
def Apart (env : Environment) : Prop := env.paths.Pairwise Node.PathsApart

instance (env : Environment) : Decidable env.Apart :=
  inferInstanceAs (Decidable (List.Pairwise _ _))

/-- The value of one variable merged at its path. -/
def mergeOne (members : Entries Node) (entry : String × String) : Entries Node :=
  match path? entry.1 with
  | some path => Node.mergeInto path (Variable.parse entry.2) members
  | none => members

/-- The values of the variables merged at their paths into a table, one after the other. -/
def onto (env : Environment) (members : Entries Node) : Entries Node := env.foldl mergeOne members

end Environment

namespace Node

variable {o : Origin} {name : String} {p q path : List String} {value other : Node}
  {upper under members : Entries Node}

/-! ## Order -/

mutual

/-- The tables of a value, outside lists, are in order. -/
def Ordered : Node → Prop
  | .table _ members => Entries.Sorted members ∧ EntriesOrdered members
  | .scalar _ _ | .list _ _ => True

/-- The tables of every value are in order. -/
def EntriesOrdered : List (String × Node) → Prop
  | [] => True
  | (_, node) :: members => node.Ordered ∧ EntriesOrdered members

end

theorem entriesOrdered_iff : EntriesOrdered members ↔ ∀ e ∈ members, e.2.Ordered := by
  induction members with
  | nil => simp [EntriesOrdered]
  | cons e members ih =>
    obtain ⟨name, node⟩ := e
    simp [EntriesOrdered, ih]

theorem EntriesOrdered.insert (h : EntriesOrdered members) (hvalue : value.Ordered) :
    EntriesOrdered (members.insert name value) := by
  rw [entriesOrdered_iff] at h ⊢
  intro e he
  obtain rfl | he := Entries.mem_insert he
  · exact hvalue
  · exact h e he

theorem ordered_insert (h : (Node.table o members).Ordered) (name : String)
    (hvalue : value.Ordered) : (Node.table o (members.insert name value)).Ordered :=
  ⟨Entries.sorted_insert h.1, h.2.insert hvalue⟩

theorem ordered_erase (h : (Node.table o members).Ordered) (name : String) :
    (Node.table o (members.erase name)).Ordered :=
  ⟨h.1.erase name, entriesOrdered_iff.2 fun e he =>
    entriesOrdered_iff.1 h.2 e (List.mem_filter.1 he).1⟩

theorem EntriesOrdered.find? (h : EntriesOrdered members)
    (hfind : Entries.find? name members = some value) : value.Ordered :=
  entriesOrdered_iff.1 h _ (Entries.mem_of_find?_eq_some hfind)

/-- An entry over a table is merged into it at its name. -/
theorem overlayEntries_cons (name : String) (node : Node) (upper : List (String × Node))
    (under : Entries Node) :
    overlayEntries ((name, node) :: upper) under =
      overlayEntries upper (under.insert name (merge [] node (Entries.find? name under))) := by
  rw [overlayEntries]
  cases Entries.find? name under <;> rfl

mutual

/-- A JSON value whose tables are in order is a node whose tables are. -/
theorem ofJson_ordered (o : Origin) : ∀ {j : Json} {n : Nat}, j.Within n → (ofJson o j).Ordered
  | .obj members, _ + 1, ⟨hsorted, hmembers⟩ =>
    ⟨sorted_ofMembers.2 hsorted, ofMembers_ordered o members hmembers⟩
  | .null, _, _ | .bool _, _, _ | .num _, _, _ | .str _, _, _ | .arr _, _, _ => trivial

theorem ofMembers_ordered (o : Origin) : ∀ (members : List (String × Json)) {n : Nat},
    Json.MembersWithin members n → EntriesOrdered (ofJson.ofMembers o members)
  | [], _, _ => trivial
  | (_, _) :: members, _, ⟨hvalue, hmembers⟩ =>
    ⟨ofJson_ordered o hvalue, ofMembers_ordered o members hmembers⟩

end

mutual

/-- One value in order over another is in order. -/
theorem Ordered.overlay : ∀ {upper under : Node}, upper.Ordered → under.Ordered →
    (upper.overlay under).Ordered
  | .table _ upper, .table _ _, ⟨_, hupper⟩, ⟨hsorted, hunder⟩ =>
    overlayEntries_ordered upper hupper hsorted hunder
  | .table _ _, .scalar _ _, h, _ | .table _ _, .list _ _, h, _ | .scalar _ _, _, h, _
  | .list _ _, _, h, _ => h

theorem overlayEntries_ordered : ∀ (upper : List (String × Node)) {under : Entries Node},
    EntriesOrdered upper → Entries.Sorted under → EntriesOrdered under →
      Entries.Sorted (overlayEntries upper under) ∧ EntriesOrdered (overlayEntries upper under)
  | [], _, _, hsorted, hunder => ⟨hsorted, hunder⟩
  | (name, node) :: upper, under, ⟨hnode, hupper⟩, hsorted, hunder => by
    rw [overlayEntries_cons]
    refine overlayEntries_ordered upper hupper (Entries.sorted_insert hsorted) (hunder.insert ?_)
    cases hold : Entries.find? name under with
    | some old => exact hnode.overlay (hunder.find? hold)
    | none => exact hnode

end

theorem sorted_overlayEntries (upper : List (String × Node)) {under : Entries Node}
    (h : Entries.Sorted under) : Entries.Sorted (overlayEntries upper under) := by
  induction upper generalizing under with
  | nil => exact h
  | cons e upper ih =>
    obtain ⟨name, node⟩ := e
    rw [overlayEntries]
    exact ih (Entries.sorted_insert h)

/-- What is read from a table over another: what both name is laid one over the other. -/
theorem find?_overlayEntries (h : Entries.Sorted upper) (name : String) (under : Entries Node) :
    Entries.find? name (overlayEntries upper under) =
      match Entries.find? name upper with
      | some node => some (merge [] node (Entries.find? name under))
      | none => Entries.find? name under := by
  induction upper generalizing under with
  | nil => rfl
  | cons e upper ih =>
    obtain ⟨k, node⟩ := e
    obtain ⟨hlt, hsorted⟩ := Entries.sorted_cons.1 h
    rw [overlayEntries_cons, ih hsorted, Entries.find?_insert, Entries.find?_cons]
    by_cases hk : k = name
    · subst hk
      have hgone : Entries.find? k upper = none :=
        Entries.find?_eq_none_iff.2 fun e he => (String.ne_of_lt (hlt e he)).symm
      simp [hgone]
    · rw [if_neg hk, if_neg (Ne.symm hk)]

/-! ## Merging -/

theorem merge_cons (name : String) (path : List String) (value : Node) (old : Option Node) :
    merge (name :: path) value old =
      .table .environment ((entriesOf old).insert name
        (merge path value (Entries.find? name (entriesOf old)))) := by
  rw [merge]

theorem merge_eq_table (hpath : path ≠ []) (value : Node) (old : Option Node) :
    merge path value old = .table .environment (mergeInto path value (entriesOf old)) := by
  cases path with
  | nil => exact absurd rfl hpath
  | cons name path => exact merge_cons name path value old

theorem nest_eq_merge_none (path : List String) (value : Node) :
    nest path value = merge path value none := by
  induction path with
  | nil => rfl
  | cons name path ih =>
    rw [nest, merge_cons, ih]
    rfl

/-- Merging at a path is laying the nested value over what is there. -/
theorem merge_nest (path : List String) (value : Node) (old : Option Node) :
    merge [] (nest path value) old = merge path value old := by
  induction path generalizing old with
  | nil => rfl
  | cons name path ih =>
    match old with
    | none => exact nest_eq_merge_none (name :: path) value
    | some (.table o members) =>
      show (nest (name :: path) value).overlay (.table o members) = _
      rw [nest, Node.overlay, overlayEntries_cons, ih, overlayEntries, merge_cons]
      rfl
    | some (.scalar o old) => exact nest_eq_merge_none (name :: path) value
    | some (.list o items) => exact nest_eq_merge_none (name :: path) value

theorem merge_ordered {old : Option Node} (hvalue : value.Ordered)
    (hold : ∀ node, old = some node → node.Ordered) : (merge path value old).Ordered := by
  induction path generalizing old with
  | nil =>
    cases old with
    | none => exact hvalue
    | some node => exact hvalue.overlay (hold node rfl)
  | cons name path ih =>
    have hentries : Entries.Sorted (entriesOf old) ∧ EntriesOrdered (entriesOf old) := by
      match old, hold with
      | some (.table o members), hold => exact hold _ rfl
      | none, _ | some (.scalar o old), _ | some (.list o items), _ =>
        exact ⟨Entries.sorted_nil, trivial⟩
    rw [merge_cons]
    exact ⟨Entries.sorted_insert hentries.1,
      hentries.2.insert (ih fun node hnode => hentries.2.find? hnode)⟩

/-- Values merged at paths apart change places. -/
theorem merge_comm (h : PathsApart p q) (value other : Node) (old : Option Node) :
    merge p value (some (merge q other old)) = merge q other (some (merge p value old)) := by
  induction p generalizing q old with
  | nil => exact absurd (List.nil_prefix) h.1
  | cons name p ih =>
    cases q with
    | nil => exact absurd (List.nil_prefix) h.2
    | cons name' q =>
      simp only [merge_cons, entriesOf, Option.map_some, Option.getD_some, entries]
      by_cases hname : name = name'
      · subst hname
        have hapart : PathsApart p q :=
          ⟨fun hp => h.1 (List.cons_prefix_cons.2 ⟨rfl, hp⟩),
            fun hq => h.2 (List.cons_prefix_cons.2 ⟨rfl, hq⟩)⟩
        simp only [Entries.find?_insert_self, Entries.insert_insert_self, ih hapart]
      · rw [Entries.find?_insert_of_ne hname, Entries.find?_insert_of_ne (Ne.symm hname),
          Entries.insert_insert_of_ne (Ne.symm hname)]

/-! ## Merging above and below -/

/-- There is room at a path for a value: only tables on the way, and nothing at the end. -/
def Free : List String → Entries Node → Prop
  | [], _ => False
  | name :: path, members =>
    match Entries.find? name members with
    | none => True
    | some (.table _ inner) => Free path inner
    | some (.scalar _ _) | some (.list _ _) => False

/-- Where there is room in a table, a value can be merged into it or into what it is laid over. -/
theorem overlay_merge (hfree : Free path upper) (hupper : (Node.table o upper).Ordered)
    {o' : Origin} (hunder : (Node.table o' under).Ordered) (value : Node) :
    (merge path value (some (.table o upper))).overlay (.table o' under) =
      merge path value (some ((Node.table o upper).overlay (.table o' under))) := by
  induction path generalizing o o' upper under with
  | nil => exact hfree.elim
  | cons name path ih =>
    simp only [merge_cons, entriesOf, Option.map_some, Option.getD_some, entries, Node.overlay]
    congr 1
    refine Entries.ext (sorted_overlayEntries _ hunder.1)
      (Entries.sorted_insert (sorted_overlayEntries _ hunder.1)) fun k => ?_
    rw [find?_overlayEntries (Entries.sorted_insert hupper.1), Entries.find?_insert,
      Entries.find?_insert]
    by_cases hk : k = name
    · subst hk
      simp only [if_true, Option.some.injEq]
      rw [find?_overlayEntries hupper.1]
      rw [Free] at hfree
      match hfind : Entries.find? k upper, hfree with
      | none, _ => rw [← nest_eq_merge_none, merge_nest]
      | some (.table o₁ inner), hfree =>
        match hunderneath : Entries.find? k under with
        | some (.table o₂ inner') =>
          exact ih hfree (hupper.2.find? hfind) (hunder.2.find? hunderneath)
        | none => rfl
        | some (.scalar o₂ x) | some (.list o₂ x) =>
          match path, hfree with
          | next :: path, _ =>
            show (merge (next :: path) value _).overlay _ = _
            rw [merge_cons]
            rfl
    · rw [if_neg hk, if_neg hk, find?_overlayEntries hupper.1]

theorem overlayEntries_mergeInto (hfree : Free path upper) (hupper : (Node.table o upper).Ordered)
    {o' : Origin} (hunder : (Node.table o' under).Ordered) (value : Node) :
    overlayEntries (mergeInto path value upper) under =
      mergeInto path value (overlayEntries upper under) := by
  cases path with
  | nil => exact hfree.elim
  | cons name path => exact congrArg entries (overlay_merge hfree hupper hunder value)

theorem PathsApart.symm (h : PathsApart p q) : PathsApart q p := ⟨h.2, h.1⟩

theorem mergeInto_comm (h : PathsApart p q) (value other : Node) (members : Entries Node) :
    mergeInto p value (mergeInto q other members) =
      mergeInto q other (mergeInto p value members) := by
  cases p with
  | nil => rfl
  | cons name p =>
    cases q with
    | nil => rfl
    | cons name' q =>
      exact congrArg entries (merge_comm h value other (some (.table .document members)))

/-- Merging at a path apart from another leaves the room there. -/
theorem Free.mergeInto (h : PathsApart p q) (hfree : Free p members) (value : Node) :
    Free p (mergeInto q value members) := by
  induction p generalizing q members with
  | nil => exact hfree
  | cons name p ih =>
    cases q with
    | nil => exact absurd List.nil_prefix h.2
    | cons name' q =>
      rw [Node.mergeInto, Free, Entries.find?_insert]
      by_cases hname : name = name'
      · subst hname
        have hapart : PathsApart p q :=
          ⟨fun hp => h.1 (List.cons_prefix_cons.2 ⟨rfl, hp⟩),
            fun hq => h.2 (List.cons_prefix_cons.2 ⟨rfl, hq⟩)⟩
        have hq : q ≠ [] := fun hq => hapart.2 (hq ▸ List.nil_prefix)
        rw [if_pos rfl, merge_eq_table hq]
        refine ih hapart ?_
        rw [Free] at hfree
        match Entries.find? name members, hfree with
        | some (.table o inner), hfree => exact hfree
        | none, _ =>
          cases p with
          | nil => exact absurd List.nil_prefix hapart.1
          | cons next p => exact trivial
      · rw [if_neg hname]
        exact hfree

end Node

/-! ## The variables -/

namespace Variable

/-- With so much fuel the tables of values are in order, and the entries of a table are so if those
before them are. -/
structure ReadsOrdered (fuel : Nat) : Prop where
  value : ∀ {cs node rest}, value? fuel cs = some (node, rest) → node.Ordered
  entries : ∀ {done cs members rest}, entries? fuel done cs = some (members, rest) →
    (Node.table .environment done).Ordered → (Node.table .environment members).Ordered

theorem readsOrdered (fuel : Nat) : ReadsOrdered fuel := by
  induction fuel with
  | zero => exact ⟨fun h => by simp [value?] at h, fun h => by simp [entries?] at h⟩
  | succ fuel ih =>
    refine ⟨fun {cs node rest} h => ?_, fun {done cs members rest} h hdone => ?_⟩
    · rw [value?] at h
      split at h
      case h_3 =>
        obtain ⟨⟨members, more⟩, hentries, he⟩ := Option.map_eq_some_iff.1 h
        cases he
        exact ih.entries hentries ⟨Entries.sorted_nil, trivial⟩
      case h_4 | h_5 =>
        obtain ⟨read, -, he⟩ := Option.map_eq_some_iff.1 h
        cases he
        exact trivial
      case h_6 =>
        split at h
        · cases h
          exact trivial
        · cases h
      all_goals
        cases h
        exact trivial
    · rw [entries?.eq_def] at h
      dsimp only at h
      split at h
      · cases h
      · cases h
        exact hdone
      · next hfuel _ =>
        cases hfuel
        obtain ⟨⟨name, cs⟩, -, h⟩ := Option.bind_eq_some_iff.1 h
        obtain ⟨⟨item, cs⟩, hitem, h⟩ := Option.bind_eq_some_iff.1 h
        have hmore := Node.ordered_insert hdone name (ih.value hitem)
        dsimp only at h
        split at h
        · exact ih.entries h hmore
        · cases h
          exact hmore
        · cases h

/-- The tables of a variable's value are in order. -/
theorem parse_ordered (text : String) : (parse text).Ordered := by
  unfold parse
  dsimp only
  split
  · next h => exact (readsOrdered _).value h
  · exact trivial

end Variable

namespace Environment

theorem path?_ne_nil {name : String} {path : List String} (h : path? name = some path) :
    path ≠ [] := by
  rintro rfl
  unfold path? at h
  dsimp only at h
  split at h
  · split at h
    · cases h
    · exact Text.split_ne_nil _ _ (List.map_eq_nil_iff.1 (Option.some.inj h))
  · cases h

/-- A path into a table has a first name. -/
theorem exists_of_path? {name : String} {path : List String} (h : path? name = some path) :
    ∃ first rest, path = first :: rest := List.exists_cons_of_ne_nil (path?_ne_nil h)

variable {env other : Environment} {members under upper : Entries Node} {name : String}

theorem onto_cons (entry : String × String) (env : Environment) (members : Entries Node) :
    onto (entry :: env) members = env.onto (mergeOne members entry) := List.foldl_cons ..

theorem mergeOne_of_path? {entry : String × String} {path : List String}
    (h : path? entry.1 = some path) (members : Entries Node) :
    mergeOne members entry = Node.mergeInto path (Variable.parse entry.2) members := by
  simp only [mergeOne, h]

theorem mergeOne_of_none {entry : String × String} (h : path? entry.1 = none)
    (members : Entries Node) : mergeOne members entry = members := by
  simp only [mergeOne, h]

theorem mem_paths {path : List String} :
    path ∈ paths env ↔ ∃ entry ∈ env, path? entry.1 = some path := List.mem_filterMap

theorem paths_cons_of_path? {entry : String × String} {path : List String}
    (h : path? entry.1 = some path) (env : Environment) :
    paths (entry :: env) = path :: paths env := List.filterMap_cons_some h

theorem paths_cons_of_none {entry : String × String} (h : path? entry.1 = none)
    (env : Environment) : paths (entry :: env) = paths env := List.filterMap_cons_none h

theorem mergeOne_ordered {o : Origin} (h : (Node.table o members).Ordered)
    (entry : String × String) : (Node.table o (mergeOne members entry)).Ordered := by
  cases hpath : path? entry.1 with
  | none => rwa [mergeOne_of_none hpath]
  | some path =>
    obtain ⟨first, rest, rfl⟩ := exists_of_path? hpath
    rw [mergeOne_of_path? hpath]
    exact Node.ordered_insert h first
      (Node.merge_ordered (Variable.parse_ordered _) fun node hnode => h.2.find? hnode)

theorem onto_ordered {o : Origin} (h : (Node.table o members).Ordered) (env : Environment) :
    (Node.table o (env.onto members)).Ordered := by
  induction env generalizing members with
  | nil => exact h
  | cons entry env ih =>
    rw [onto_cons]
    exact ih (mergeOne_ordered h entry)

/-- The table that variables make is their values merged into an empty one. -/
theorem table_eq (env : Environment) : env.table = .table .environment (env.onto []) := by
  unfold table
  generalize ([] : List (String × Node)) = members
  induction env generalizing members with
  | nil => rfl
  | cons entry env ih =>
    rw [List.foldl_cons, onto_cons]
    cases hpath : path? entry.1 with
    | none =>
      rw [mergeOne_of_none hpath]
      exact ih members
    | some path =>
      have hnest : (Node.nest path (Variable.parse entry.2)).overlay
          (.table .environment members) = .table .environment (mergeOne members entry) := by
        rw [mergeOne_of_path? hpath]
        exact (Node.merge_nest path _ (some (.table .environment members))).trans
          (Node.merge_eq_table (path?_ne_nil hpath) _ _)
      dsimp only
      rw [hnest]
      exact ih _

/-- Variables laid over one another and then over a table are their values merged into the table,
if none leads through another. -/
theorem overlayEntries_onto (hapart : env.Apart) (hfree : ∀ path ∈ paths env, Node.Free path upper)
    {o : Origin} (hupper : (Node.table o upper).Ordered) (hunder : (Node.table o under).Ordered) :
    Node.overlayEntries (env.onto upper) under = env.onto (Node.overlayEntries upper under) := by
  induction env generalizing upper with
  | nil => rfl
  | cons entry env ih =>
    rw [onto_cons, onto_cons]
    cases hpath : path? entry.1 with
    | none =>
      rw [mergeOne_of_none hpath, mergeOne_of_none hpath]
      rw [Apart, paths_cons_of_none hpath] at hapart
      rw [paths_cons_of_none hpath] at hfree
      exact ih hapart hfree hupper
    | some path =>
      rw [Apart, paths_cons_of_path? hpath] at hapart
      rw [paths_cons_of_path? hpath] at hfree
      obtain ⟨hhead, htail⟩ := List.pairwise_cons.1 hapart
      have hmore : ∀ q ∈ paths env, Node.Free q (mergeOne upper entry) := fun q hq => by
        rw [mergeOne_of_path? hpath]
        exact Node.Free.mergeInto (hhead q hq).symm (hfree q (List.mem_cons_of_mem _ hq)) _
      rw [ih htail hmore (mergeOne_ordered hupper entry), mergeOne_of_path? hpath,
        mergeOne_of_path? hpath,
        Node.overlayEntries_mergeInto (hfree path List.mem_cons_self) hupper hunder]

/-- The variables laid over a document are their values merged into it, each at its own path. -/
theorem overlay_table (hapart : env.Apart) {o : Origin}
    (hdocument : (Node.table o members).Ordered) :
    Node.overlayEntries env.table.entries members = env.onto members := by
  have hempty : ∀ path ∈ paths env, Node.Free path [] := fun path hpath => by
    obtain ⟨entry, -, hpath⟩ := mem_paths.1 hpath
    obtain ⟨first, rest, rfl⟩ := exists_of_path? hpath
    exact trivial
  rw [table_eq]
  exact overlayEntries_onto hapart hempty (o := o) ⟨Entries.sorted_nil, trivial⟩ hdocument

/-- Different variables have paths apart. -/
theorem Apart.pathsApart (h : env.Apart) {x y : String × String} {p q : List String} (hx : x ∈ env)
    (hy : y ∈ env) (hne : x ≠ y) (hp : path? x.1 = some p) (hq : path? y.1 = some q) :
    Node.PathsApart p q := by
  let Relation (a b : String × String) : Prop :=
    ∀ p, path? a.1 = some p → ∀ q, path? b.1 = some q → Node.PathsApart p q
  have hpair : env.Pairwise Relation := List.pairwise_filterMap.1 h
  have : Std.Symm Relation := ⟨fun _ _ hab p hp q hq => (hab q hq p hp).symm⟩
  exact hpair.forall hx hy hne p hp q hq

theorem Apart.perm (h : env.Apart) (hperm : env.Perm other) : other.Apart :=
  (hperm.filterMap _).pairwise h fun h => h.symm

theorem Apart.filter (h : env.Apart) (keep : String × String → Bool) :
    Apart (env.filter keep) :=
  h.sublist ((List.filter_sublist (p := keep)).filterMap _)

theorem onto_of_no_paths (h : ∀ entry ∈ env, path? entry.1 = none) (members : Entries Node) :
    env.onto members = members := by
  induction env with
  | nil => rfl
  | cons entry env ih =>
    rw [onto_cons, mergeOne_of_none (h entry List.mem_cons_self)]
    exact ih fun e he => h e (List.mem_cons_of_mem _ he)

/-- The order of the variables does not matter. -/
theorem onto_perm (hapart : env.Apart) (hperm : env.Perm other) (members : Entries Node) :
    env.onto members = other.onto members := by
  refine hperm.foldl_eq' (fun x hx y hy z => ?_) members
  by_cases hne : x = y
  · rw [hne]
  · cases hp : path? x.1 with
    | none => rw [mergeOne_of_none hp, mergeOne_of_none hp]
    | some p =>
      cases hq : path? y.1 with
      | none => rw [mergeOne_of_none hq, mergeOne_of_none hq]
      | some q =>
        simp only [mergeOne_of_path? hp, mergeOne_of_path? hq]
        exact (Node.mergeInto_comm (hapart.pathsApart hx hy hne hp hq) _ _ z).symm

/-! ## What is read under a name -/

/-- A variable whose path starts with a name. -/
def Under (name : String) (entry : String × String) : Prop :=
  ∃ path, path? entry.1 = some (name :: path)

/-- Variables that lead elsewhere leave what is read under a name. -/
theorem find?_mergeOne_of_not_under {entry : String × String} (h : ¬ Under name entry)
    (members : Entries Node) :
    Entries.find? name (mergeOne members entry) = Entries.find? name members := by
  cases hpath : path? entry.1 with
  | none => rw [mergeOne_of_none hpath]
  | some path =>
    obtain ⟨first, rest, rfl⟩ := exists_of_path? hpath
    rw [mergeOne_of_path? hpath]
    have hne : name ≠ first := by
      rintro rfl
      exact h ⟨rest, hpath⟩
    exact Entries.find?_insert_of_ne hne _ _

/-- What is read under a name depends on the variables whose paths start with it and on what the
table has there. -/
theorem find?_onto_congr (keep : String × String → Bool)
    (hkeep : ∀ entry ∈ env, Under name entry → keep entry = true) {members members' : Entries Node}
    (h : Entries.find? name members = Entries.find? name members') :
    Entries.find? name (env.onto members) =
      Entries.find? name (onto (env.filter keep) members') := by
  induction env generalizing members members' with
  | nil => exact h
  | cons entry env ih =>
    have hrest : ∀ {members members' : Entries Node},
        Entries.find? name members = Entries.find? name members' →
          Entries.find? name (onto env members) =
            Entries.find? name (onto (env.filter keep) members') :=
      ih fun e he => hkeep e (List.mem_cons_of_mem _ he)
    rw [onto_cons, List.filter_cons]
    by_cases hunder : Under name entry
    · obtain ⟨path, hpath⟩ := hunder
      rw [if_pos (hkeep entry List.mem_cons_self ⟨path, hpath⟩), onto_cons]
      refine hrest ?_
      rw [mergeOne_of_path? hpath, mergeOne_of_path? hpath, Node.mergeInto, Node.mergeInto,
        Entries.find?_insert_self, Entries.find?_insert_self, h]
    · split
      · rw [onto_cons]
        refine hrest ?_
        rw [find?_mergeOne_of_not_under hunder, find?_mergeOne_of_not_under hunder, h]
      · refine hrest ?_
        rw [find?_mergeOne_of_not_under hunder, h]

theorem find?_onto_of_not_under (h : ∀ entry ∈ env, ¬ Under name entry)
    (members : Entries Node) :
    Entries.find? name (env.onto members) = Entries.find? name members := by
  have hnone : Entries.find? name (env.onto members) =
      Entries.find? name (onto (env.filter fun _ => false) members) :=
    find?_onto_congr _ (fun entry hmem hunder => absurd hunder (h entry hmem)) rfl
  rw [hnone, List.filter_eq_nil_iff.2 fun _ _ => Bool.false_ne_true]
  rfl

/-- What is read under the name of a variable that leads no further: its value, merged into what the
table has there. -/
theorem find?_onto_of_mem (hapart : env.Apart) {entry : String × String} (hmem : entry ∈ env)
    (hpath : path? entry.1 = some [name]) (members : Entries Node) :
    Entries.find? name (env.onto members) =
      some (Node.merge [] (Variable.parse entry.2) (Entries.find? name members)) := by
  obtain ⟨before, after, rfl⟩ := List.append_of_mem hmem
  have hperm : List.Perm (before ++ entry :: after) (entry :: (before ++ after)) :=
    List.perm_middle
  have hmore : Apart (entry :: (before ++ after)) := hapart.perm hperm
  rw [Apart, paths_cons_of_path? hpath] at hmore
  have hothers : ∀ e ∈ before ++ after, ¬ Under name e := fun e he ⟨path, hunder⟩ =>
    ((List.pairwise_cons.1 hmore).1 _ (mem_paths.2 ⟨e, he, hunder⟩)).1
      (List.cons_prefix_cons.2 ⟨rfl, List.nil_prefix⟩)
  rw [onto_perm hapart hperm, onto_cons, find?_onto_of_not_under hothers,
    mergeOne_of_path? hpath, Node.mergeInto, Entries.find?_insert_self]

end Environment
end EventRelay
