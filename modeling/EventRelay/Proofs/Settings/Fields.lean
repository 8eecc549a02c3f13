import EventRelay.Proofs.Settings.Nodes
import EventRelay.Settings.Document

/-!
# The fields of a document

Settings are known by what their fields are written as, a field is set by its own member alone,
and what it is set to does not depend on the settings before.

* `Field.ext`: settings whose fields are written alike are the same.
* `Field.read_frame`, `Field.read_own`: what reading a field does to the settings.
* `Field.read_write`: a field reads back what it is written as.
* `Settings.ofMembers_eq_ok_iff`: the settings that members in order make, field by field.
* `Settings.ofMembers_insert_iff`: the settings that one more member makes of them.
-/

namespace EventRelay
namespace Field

variable {f g : Field} {path : List String} {node : Node} {change : Settings → Settings}

theorem ofKey?_eq_some_iff {name : String} : ofKey? name = some f ↔ f.key = name := by
  refine ⟨fun h => by simpa using List.find?_some h, ?_⟩
  rintro rfl
  exact ofKey?_key f

theorem key_injective : Function.Injective key := fun f g h => by
  have hf := ofKey?_key f
  rw [h, ofKey?_key] at hf
  exact (Option.some.inj hf).symm

/-! ## Writing -/

/-- Values are written differently if each is read back from what it is written as. -/
theorem injective_of_read {α : Type} {item : NodeReader α} {encode : α → Json}
    (h : ∀ a, item [] (.ofJson .document (encode a)) = .ok a) : Function.Injective encode :=
  fun a b he => by
    have ha := h a
    rw [he, h b] at ha
    exact (Except.ok.inj ha).symm

open NodeReader in
/-- Settings whose fields are written alike are the same. -/
theorem ext {s t : Settings} (h : ∀ f : Field, f.write s = f.write t) : s = t := by
  have text := injective_of_read (text_str [] .document)
  have word := injective_of_read (word_ofUInt64 [] .document)
  have strings := injective_of_read (list_strings [] .document)
  have target := injective_of_read
    (optional_ofOption (logTarget_toJson [] .document) (fun _ => ⟨_, rfl⟩))
  have table := injective_of_read (extensions_obj [] .document)
  cases s
  cases t
  simp only [Settings.mk.injEq]
  exact ⟨text (h .name), text (h .appId), text (h .version), text (h .endpoint),
    injective_of_read (optional_ofOption (credentials_toJson [] .document) (fun _ => ⟨_, rfl⟩))
      (h .endpointAuth),
    injective_of_read (port_toUInt64 [] .document) (h .port),
    injective_of_read (attempts_toUInt64 [] .document) (h .maxAttempts),
    word (h .initialDelay), word (h .initialBackoff), word (h .pad), text (h .backoffMethod),
    word (h .httpTimeout), word (h .responseHeaderTimeout), word (h .maxIdleConnsPerHost),
    word (h .maxMessageSize), strings (h .eventTopics), strings (h .actionTopics),
    text (h .topicPath),
    injective_of_read (table_mapValues (fun path n => size_ofUInt64 path .document n) [])
      (h .workerPoolSize),
    word (h .duplicateTimeout), word (h .duplicateCacheSize),
    injective_of_read (flag_bool [] .document) (h .allowPartner), text (h .defaultPartner),
    text (h .httpTenantHeader), text (h .httpPartnerHeader), text (h .httpTransactionHeader),
    injective_of_read (table_mapValues (fun path v => text_str path .document v) [])
      (h .logParams),
    target (h .debugLog), target (h .traceLog), table (h .customProperties), table (h .misc)⟩

/-! ## Reading -/

/-- Reading a field leaves the other fields. -/
theorem read_frame (h : f.read path node = .ok change) (hne : g ≠ f) (s : Settings) :
    g.write (change s) = g.write s := by
  cases f <;> obtain ⟨v, -, rfl⟩ := NodeReader.into_eq_ok_iff.1 h <;> cases g <;>
    first | rfl | exact absurd rfl hne

/-- What a field is set to does not depend on the settings before. -/
theorem read_own (h : f.read path node = .ok change) (s t : Settings) :
    f.write (change s) = f.write (change t) := by
  cases f <;> obtain ⟨v, -, rfl⟩ := NodeReader.into_eq_ok_iff.1 h <;> rfl

open NodeReader in
/-- A field reads back what it is written as. -/
theorem read_write (f : Field) (path : List String) (o : Origin) (s : Settings) :
    ∃ change, f.read path (.ofJson o (f.write s)) = .ok change ∧
      ∀ t, f.write (change t) = f.write s := by
  cases f
  case port => exact ⟨_, into_of_eq_ok (port_toUInt64 path o _), fun _ => rfl⟩
  case maxAttempts => exact ⟨_, into_of_eq_ok (attempts_toUInt64 path o _), fun _ => rfl⟩
  case initialDelay | initialBackoff | pad | httpTimeout | responseHeaderTimeout
      | maxMessageSize | duplicateTimeout =>
    exact ⟨_, into_of_eq_ok (word_ofUInt64 path o _), fun _ => rfl⟩
  case maxIdleConnsPerHost | duplicateCacheSize =>
    exact ⟨_, into_of_eq_ok (size_ofUInt64 path o _), fun _ => rfl⟩
  case eventTopics | actionTopics =>
    exact ⟨_, into_of_eq_ok (list_strings path o _), fun _ => rfl⟩
  case workerPoolSize =>
    exact ⟨_, into_of_eq_ok (table_mapValues (fun path n => size_ofUInt64 path o n) path _),
      fun _ => rfl⟩
  case logParams =>
    exact ⟨_, into_of_eq_ok (table_mapValues (fun path n => text_str path o n) path _),
      fun _ => rfl⟩
  case allowPartner => exact ⟨_, into_of_eq_ok (flag_bool path o _), fun _ => rfl⟩
  case endpointAuth =>
    exact ⟨_, into_of_eq_ok (optional_ofOption (credentials_toJson path o) (fun _ => ⟨_, rfl⟩) _),
      fun _ => rfl⟩
  case debugLog | traceLog =>
    exact ⟨_, into_of_eq_ok (optional_ofOption (logTarget_toJson path o) (fun _ => ⟨_, rfl⟩) _),
      fun _ => rfl⟩
  case customProperties | misc =>
    exact ⟨_, into_of_eq_ok (extensions_obj path o _), fun _ => rfl⟩
  all_goals exact ⟨_, into_of_eq_ok (text_str path o _), fun _ => rfl⟩

/-- What a field is written as once its member is read, if it has one, into settings so far. -/
def given (f : Field) (before : Settings) : Option Node → Except Mismatch Json
  | some node => (f.read [f.key] node).map (fun change => f.write (change before))
  | none => .ok (f.write before)

theorem given_congr {s t : Settings} (h : f.write s = f.write t) (node? : Option Node) :
    f.given s node? = f.given t node? := by
  cases node? with
  | none => exact congrArg Except.ok h
  | some node =>
    cases hread : f.read [f.key] node with
    | error e => simp only [given, hread, Except.map]
    | ok change => simp only [given, hread, Except.map, read_own hread s t]

theorem given_ofJson_write (f : Field) (o : Origin) (s t : Settings) :
    f.given t (some (.ofJson o (f.write s))) = .ok (f.write s) := by
  obtain ⟨change, hread, hwrite⟩ := read_write f [f.key] o s
  rw [given, hread]
  exact congrArg Except.ok (hwrite t)

end Field

namespace Settings

variable {members : Entries Node} {before s s' : Settings}

/-- Members in order are read into the settings that hold in each field what the member of its name
gives, and there are none if a member gives nothing. -/
theorem foldlM_readMember_eq_ok_iff (h : Entries.Sorted members) :
    members.foldlM readMember before = .ok s ↔
      ∀ f : Field, f.given before (Entries.find? f.key members) = .ok (f.write s) := by
  induction members generalizing before with
  | nil =>
    refine ⟨fun heq f => ?_, fun hall => ?_⟩
    · cases heq
      rfl
    · exact congrArg Except.ok (Field.ext fun f => Except.ok.inj (hall f))
  | cons e members ih =>
    obtain ⟨name, node⟩ := e
    obtain ⟨hlt, hsorted⟩ := Entries.sorted_cons.1 h
    have hfind : ∀ f : Field, f.key ≠ name →
        Entries.find? f.key ((name, node) :: members) = Entries.find? f.key members := fun f hf =>
      if_neg hf.symm
    rw [List.foldlM_cons]
    cases hkey : Field.ofKey? name with
    | none =>
      have hne : ∀ f : Field, f.key ≠ name := fun f hf => by
        rw [Field.ofKey?_eq_some_iff.2 hf] at hkey
        cases hkey
      have hstep : readMember before (name, node) = .ok before := by simp only [readMember, hkey]
      rw [hstep]
      exact (ih hsorted).trans (forall_congr' fun f => by rw [hfind f (hne f)])
    | some f =>
      obtain rfl := Field.ofKey?_eq_some_iff.1 hkey
      have hself : Entries.find? f.key ((f.key, node) :: members) = some node := if_pos rfl
      cases hread : f.read [f.key] node with
      | error mismatch =>
        have hstep : readMember before (f.key, node) = .error mismatch := by
          simp only [readMember, hkey, hread, Except.map]
        rw [hstep]
        refine ⟨fun heq => (nomatch heq), fun hall => ?_⟩
        have hf := hall f
        rw [hself, Field.given, hread] at hf
        cases hf
      | ok change =>
        have hstep : readMember before (f.key, node) = .ok (change before) := by
          simp only [readMember, hkey, hread, Except.map]
        have hgone : Entries.find? f.key members = none :=
          Entries.find?_eq_none_iff.2 fun e he => (String.ne_of_lt (hlt e he)).symm
        rw [hstep]
        refine (ih hsorted).trans (forall_congr' fun g => ?_)
        by_cases hg : g = f
        · subst hg
          rw [hgone, hself, Field.given, Field.given, hread]
          rfl
        · rw [hfind g fun hk => hg (Field.key_injective hk),
            Field.given_congr (Field.read_frame hread hg before)]

/-- The settings that members in order make hold in each field what the member of its name gives,
and what nobody sets in a field without one. -/
theorem ofMembers_eq_ok_iff (h : Entries.Sorted members) :
    ofMembers members = .ok s ↔
      ∀ f : Field, f.given zero (Entries.find? f.key members) = .ok (f.write s) :=
  foldlM_readMember_eq_ok_iff h

/-- Members in order with one more value, or another one, for a field make the settings with that
field set. -/
theorem ofMembers_insert_iff {f : Field} {node : Node} (h : Entries.Sorted members)
    (hs : ofMembers members = .ok s) :
    ofMembers (members.insert f.key node) = .ok s' ↔
      ∃ change, f.read [f.key] node = .ok change ∧ s' = change s := by
  have hgiven := (ofMembers_eq_ok_iff h).1 hs
  have hother : ∀ g : Field, g ≠ f → Entries.find? g.key (members.insert f.key node) =
      Entries.find? g.key members := fun g hg =>
    Entries.find?_insert_of_ne (fun hkey => hg (Field.key_injective hkey)) node members
  rw [ofMembers_eq_ok_iff (Entries.sorted_insert h)]
  constructor
  · intro hall
    have hself := hall f
    rw [Entries.find?_insert_self] at hself
    obtain ⟨change, hread, hwrite⟩ := Except.map_eq_ok_iff.1 hself
    refine ⟨change, hread, Field.ext fun g => ?_⟩
    by_cases hg : g = f
    · rw [hg, ← hwrite, Field.read_own hread s zero]
    · have hsame := hall g
      rw [hother g hg, hgiven g] at hsame
      rw [Field.read_frame hread hg, Except.ok.inj hsame]
  · rintro ⟨change, hread, rfl⟩ g
    by_cases hg : g = f
    · rw [hg, Entries.find?_insert_self, Field.given, hread, Field.read_own hread s zero]
      rfl
    · rw [hother g hg, hgiven g, Field.read_frame hread hg]

/-- With one more member, of a field that takes it, members make the settings that they make without
it, with that field set. -/
theorem ofMembers_of_read {f : Field} {node : Node} {change : Settings → Settings}
    {rest : Entries Node} (h : Entries.Sorted members) (hrest : Entries.Sorted rest)
    (hread : f.read [f.key] node = .ok change) (hself : Entries.find? f.key members = some node)
    (hgone : Entries.find? f.key rest = none)
    (hother : ∀ g : Field, g ≠ f → Entries.find? g.key members = Entries.find? g.key rest) :
    ofMembers members = .ok s ↔ ∃ t, ofMembers rest = .ok t ∧ s = change t := by
  have hset : f.given zero (Entries.find? f.key members) = .ok (f.write (change zero)) := by
    rw [hself, Field.given, hread]
    rfl
  rw [ofMembers_eq_ok_iff h]
  constructor
  · intro hall
    -- without its member the field holds what nobody sets
    obtain ⟨reset, hreset, hzero⟩ := f.read_write [f.key] .document zero
    refine ⟨reset s, (ofMembers_eq_ok_iff hrest).2 fun g => ?_, Field.ext fun g => ?_⟩
    · by_cases hg : g = f
      · rw [hg, hgone, hzero]
        rfl
      · rw [← hother g hg, hall g, Field.read_frame hreset hg]
    · by_cases hg : g = f
      · rw [hg, Field.read_own hread (reset s) zero]
        exact (Except.ok.inj (hset.symm.trans (hall f))).symm
      · rw [Field.read_frame hread hg, Field.read_frame hreset hg]
  · rintro ⟨t, ht, rfl⟩ g
    by_cases hg : g = f
    · rw [hg, hset, Field.read_own hread zero t]
    · rw [hother g hg, (ofMembers_eq_ok_iff hrest).1 ht g, Field.read_frame hread hg]

end Settings
end EventRelay
