import EventRelay.Proofs.Json.OneLine
import EventRelay.Proofs.Settings.Fields
import EventRelay.Proofs.Settings.Merging
import EventRelay.Settings.Load

/-!
# Loading as reading the merged document

Loading a file under an environment reads the settings that the file's document makes once the
values of the variables are merged into it, each at its own path.

* `FileTree.read_eq_ok_iff`: which texts are read from files.
* `Settings.ofMembers_congr`: members that no field is named after do not count.
* `Settings.LoadsOver`: what the variables do to the settings of a document.
* `Settings.load_over`: loading, and the stage at which it fails.
* `LoadError.jsonLine_reads_back`: the line in which a failure is told.
-/

namespace EventRelay

/-- The bytes of a text are read as the text, and other bytes are not read. -/
theorem Text.decode?_eq_some_iff {bytes : ByteArray} {text : String} :
    Text.decode? bytes = some text ↔ text.toUTF8 = bytes := by
  unfold Text.decode? String.fromUTF8?
  split
  · next h =>
    rw [Option.some.injEq]
    constructor
    · rintro rfl
      rfl
    · rintro rfl
      rfl
  · next h =>
    refine ⟨fun heq => (nomatch heq), ?_⟩
    rintro rfl
    exact absurd text.isValidUTF8 h

namespace Settings

variable {members members' : Entries Node} {s : Settings}

/-- Members that no field is named after are passed over. -/
theorem ofMembers_filter (members : Entries Node) :
    ofMembers (members.filter fun e => (Field.ofKey? e.1).isSome) = ofMembers members := by
  have hfold : ∀ (members : Entries Node) (s : Settings),
      (members.filter fun e => (Field.ofKey? e.1).isSome).foldlM readMember s =
        members.foldlM readMember s := by
    intro members
    induction members with
    | nil => exact fun _ => rfl
    | cons e members ih =>
      intro s
      rw [List.filter_cons]
      split
      · rw [List.foldlM_cons, List.foldlM_cons]
        exact congrArg (readMember s e >>= ·) (funext ih)
      · next h =>
        have hnone : Field.ofKey? e.1 = none := by simpa using h
        have hstep : readMember s e = .ok s := by simp only [readMember, hnone]
        rw [List.foldlM_cons, hstep]
        exact ih s
  exact hfold members zero

/-- Members in order that agree under the names of the fields make the same settings, or fail
alike. -/
theorem ofMembers_congr (h : Entries.Sorted members) (h' : Entries.Sorted members')
    (heq : ∀ f : Field, Entries.find? f.key members = Entries.find? f.key members') :
    ofMembers members = ofMembers members' := by
  rw [← ofMembers_filter members, ← ofMembers_filter members']
  refine congrArg ofMembers (Entries.ext (h.filter _) (h'.filter _) fun name => ?_)
  cases hkey : Field.ofKey? name with
  | some f =>
    have hname := Field.ofKey?_eq_some_iff.1 hkey
    rw [Entries.find?_filter (by simp [hkey]), Entries.find?_filter (by simp [hkey]), ← hname,
      heq f]
  | none =>
    have hnot : ∀ members : Entries Node, Entries.find? name
        (members.filter fun e => (Field.ofKey? e.1).isSome) = none := fun members => by
      refine Entries.find?_eq_none_iff.2 fun e he hname => ?_
      have hsome := (List.mem_filter.1 he).2
      rw [hname, hkey] at hsome
      cases hsome
    rw [hnot, hnot]

/-- What the variables of an environment do to a load of a file with the text of an object, given
by its members. -/
structure LoadsOver (load : Environment → Except LoadError Settings) (env : Environment)
    (document : Entries Node) : Prop where
  /-- The settings are those of the document with the values merged into it. -/
  merged : ∀ s, load env = .ok s ↔ ofMembers (env.onto document) = .ok s
  /-- Variables that lead into no field may be left out. -/
  unknown : ∀ keep : String × String → Bool,
    (∀ entry ∈ env, ∀ f : Field, Environment.Under f.key entry → keep entry = true) →
      load (env.filter keep) = load env
  /-- A field that takes the value of its variable, merged into what the document gives it, is no
  reason to fail, and is set to that value. -/
  repaired : ∀ entry ∈ env, ∀ (f : Field) (change : Settings → Settings),
    Environment.path? entry.1 = some [f.key] →
    f.read [f.key] (.merge [] (Variable.parse entry.2) (Entries.find? f.key document)) =
      .ok change →
    ∀ s, load env = .ok s ↔
      ∃ rest, ofMembers (Environment.onto (env.filter (· ≠ entry)) (document.erase f.key)) =
        .ok rest ∧ s = change rest
  /-- The order of the variables does not matter. -/
  reordered : ∀ other, env.Perm other → load other = load env

variable {env : Environment} {files : FileTree} {path text : String}

theorem load_of_text (hopen : files.open? path = .ok (.file text.toUTF8)) (env : Environment) :
    load path files env =
      (ofSources text env).mapError fun e => .parsing path e.message := by
  have hread : files.read path = .ok text := by
    simp only [FileTree.read, hopen, Text.decode?_eq_some_iff.2 rfl]
  rw [load, hread]
  rfl

theorem ofSources_of_members {found : List (String × Json)}
    (hfound : Json.parseObject text = .ok found) (hapart : env.Apart) :
    ofSources text env =
      (ofMembers (env.onto (Node.ofJson.ofMembers .document found))).mapError .badValue := by
  obtain ⟨hsorted, hwithin⟩ := Json.parseObject_within hfound
  have hordered : (Node.table .document (Node.ofJson.ofMembers .document found)).Ordered :=
    ⟨Node.sorted_ofMembers.2 hsorted, Node.ofMembers_ordered .document found hwithin⟩
  rw [ofSources, hfound]
  dsimp only
  rw [Environment.overlay_table hapart hordered]

/-- Without variables for the settings there is nothing but the text. -/
theorem ofSources_of_no_paths (hnone : ∀ entry ∈ env, Environment.path? entry.1 = none) :
    ofSources text env = parse text := by
  have hapart : env.Apart := by
    rw [Environment.Apart, Environment.paths, List.filterMap_eq_nil_iff.2 hnone]
    exact List.Pairwise.nil
  cases hfound : Json.parseObject text with
  | error fault => rw [ofSources, parse, hfound]
  | ok found =>
    rw [ofSources_of_members hfound hapart, Environment.onto_of_no_paths hnone, parse, hfound]

theorem loadsOver (hopen : files.open? path = .ok (.file text.toUTF8)) (hapart : env.Apart)
    {found : List (String × Json)} (hfound : Json.parseObject text = .ok found) :
    LoadsOver (load path files) env (Node.ofJson.ofMembers .document found) := by
  obtain ⟨hsorted, hwithin⟩ := Json.parseObject_within hfound
  have hordered : (Node.table .document (Node.ofJson.ofMembers .document found)).Ordered :=
    ⟨Node.sorted_ofMembers.2 hsorted, Node.ofMembers_ordered .document found hwithin⟩
  generalize hdocument : Node.ofJson.ofMembers .document found = document at hordered
  have hload : ∀ {env : Environment}, env.Apart → load path files env =
      ((ofMembers (env.onto document)).mapError DocumentError.badValue).mapError
        fun e => .parsing path e.message := fun {env} hapart => by
    rw [load_of_text hopen, ofSources_of_members hfound hapart, hdocument]
  have hmerged : ∀ s, load path files env = .ok s ↔ ofMembers (env.onto document) = .ok s :=
    fun s => by rw [hload hapart, Except.mapError_eq_ok_iff, Except.mapError_eq_ok_iff]
  refine ⟨hmerged, fun keep hkeep => ?_, fun entry hmem f change hpath hread s => ?_,
    fun other hperm => ?_⟩
  · have hcongr : ofMembers (Environment.onto (env.filter keep) document) =
        ofMembers (env.onto document) :=
      ofMembers_congr (Environment.onto_ordered hordered _).1
        (Environment.onto_ordered hordered _).1 fun f =>
          (Environment.find?_onto_congr _ (fun e he hunder => hkeep e he f hunder) rfl).symm
    rw [hload (hapart.filter keep), hload hapart, hcongr]
  · have hothers : ∀ e ∈ env.filter (· ≠ entry), ¬ Environment.Under f.key e :=
      fun e he ⟨more, hmore⟩ =>
        have hne := of_decide_eq_true (List.mem_filter.1 he).2
        (hapart.pathsApart hmem (List.mem_filter.1 he).1 (Ne.symm hne) hpath hmore).1
          (List.cons_prefix_cons.2 ⟨rfl, List.nil_prefix⟩)
    rw [hmerged]
    refine ofMembers_of_read (Environment.onto_ordered hordered _).1
      (Environment.onto_ordered (Node.ordered_erase hordered _) _).1 hread
      (Environment.find?_onto_of_mem hapart hmem hpath document) ?_ fun g hg => ?_
    · rw [Environment.find?_onto_of_not_under hothers, Entries.find?_erase_self]
    · refine Environment.find?_onto_congr _ (fun e he hunder => ?_) ?_
      · refine decide_eq_true ?_
        rintro rfl
        obtain ⟨more, hmore⟩ := hunder
        rw [hpath] at hmore
        exact hg (Field.key_injective (List.cons.inj (Option.some.inj hmore)).1.symm)
      · exact (Entries.find?_erase_of_ne fun hkey => hg (Field.key_injective hkey)).symm
  · rw [hload hapart, hload (hapart.perm hperm), Environment.onto_perm hapart hperm]

/-- The three ways that a load goes: the file is not opened, or it holds no text, or its text fails
only where it is parsed. -/
theorem load_cases (path : String) (files : FileTree) (env : Environment) :
    (∃ error, files.open? path = .error error ∧
      load path files env = .error (.opening path error)) ∨
    (∃ entry error, files.open? path = .ok entry ∧ (∀ text : String, entry ≠ .file text.toUTF8) ∧
      load path files env = .error (.reading path error)) ∨
    ∃ text : String, files.open? path = .ok (.file text.toUTF8) ∧
      ∀ e, load path files env = .error e → e.cause = "parse_config" := by
  match hopen : files.open? path with
  | .error error =>
    refine .inl ⟨error, rfl, ?_⟩
    rw [load, FileTree.read, hopen]
    rfl
  | .ok .directory =>
    refine .inr (.inl ⟨.directory, .isDirectory, rfl, fun _ h => (nomatch h), ?_⟩)
    rw [load, FileTree.read, hopen]
    rfl
  | .ok (.file content) =>
    cases htext : Text.decode? content with
    | none =>
      refine .inr (.inl ⟨.file content, .notText, rfl, fun text h => ?_, ?_⟩)
      · rw [Text.decode?_eq_some_iff.2 (FileEntry.file.inj h).symm] at htext
        cases htext
      · rw [load, FileTree.read, hopen]
        dsimp only
        rw [htext]
        rfl
    | some text =>
      obtain rfl := Text.decode?_eq_some_iff.1 htext
      refine .inr (.inr ⟨text, rfl, fun e he => ?_⟩)
      rw [load_of_text hopen] at he
      cases hread : ofSources text env with
      | ok s =>
        rw [hread] at he
        cases he
      | error why =>
        rw [hread] at he
        cases he
        rfl

/-- A file that loads holds the text of an object. -/
theorem exists_members_of_load (h : load path files env = .ok s) :
    ∃ text members, files.open? path = .ok (.file text.toUTF8) ∧
      Json.parseObject text = .ok members := by
  obtain ⟨error, -, hload⟩ | ⟨entry, error, -, -, hload⟩ | ⟨text, hopen, -⟩ :=
    load_cases path files env
  · rw [h] at hload
    cases hload
  · rw [h] at hload
    cases hload
  · rw [load_of_text hopen] at h
    have hsources := Except.mapError_eq_ok_iff.1 h
    rw [ofSources] at hsources
    split at hsources
    · cases hsources
    · next members hfound => exact ⟨text, members, hopen, hfound⟩

theorem open_config_iff :
    (∃ e, load path files env = .error e ∧ e.cause = "open_config") ↔
      ∃ error, files.open? path = .error error := by
  obtain ⟨error, hopen, hload⟩ | ⟨entry, error, hopen, -, hload⟩ | ⟨text, hopen, hcause⟩ :=
    load_cases path files env
  · exact ⟨fun _ => ⟨error, hopen⟩, fun _ => ⟨_, hload, rfl⟩⟩
  · rw [hopen, hload]
    exact ⟨fun ⟨e, he, hc⟩ => absurd (Except.error.inj he ▸ hc) (by simp [LoadError.cause]),
      fun ⟨_, h⟩ => nomatch h⟩
  · rw [hopen]
    exact ⟨fun ⟨e, he, hc⟩ => absurd ((hcause e he).symm.trans hc) (by decide),
      fun ⟨_, h⟩ => nomatch h⟩

theorem read_config_iff :
    (∃ e, load path files env = .error e ∧ e.cause = "read_config") ↔
      ∃ entry, files.open? path = .ok entry ∧ ∀ text : String, entry ≠ .file text.toUTF8 := by
  obtain ⟨error, hopen, hload⟩ | ⟨entry, error, hopen, hnot, hload⟩ | ⟨text, hopen, hcause⟩ :=
    load_cases path files env
  · rw [hopen, hload]
    exact ⟨fun ⟨e, he, hc⟩ => absurd (Except.error.inj he ▸ hc) (by simp [LoadError.cause]),
      fun ⟨_, h, _⟩ => nomatch h⟩
  · exact ⟨fun _ => ⟨entry, hopen, hnot⟩, fun _ => ⟨_, hload, rfl⟩⟩
  · rw [hopen]
    exact ⟨fun ⟨e, he, hc⟩ => absurd ((hcause e he).symm.trans hc) (by decide),
      fun ⟨_, h, hnot⟩ => absurd (Except.ok.inj h).symm (hnot text)⟩

theorem parse_config_of_text (hopen : files.open? path = .ok (.file text.toUTF8)) {e : LoadError}
    (he : load path files env = .error e) : e.cause = "parse_config" := by
  obtain ⟨error, h, -⟩ | ⟨entry, error, h, hnot, -⟩ | ⟨_, -, hcause⟩ := load_cases path files env
  · rw [hopen] at h
    cases h
  · exact absurd (Except.ok.inj (h.symm.trans hopen)) (hnot text)
  · exact hcause e he

/-- **Loading.** Under variables none of whose names is that of another or leads through it, loading
a file fails with `open_config` exactly when it cannot be opened, with `read_config` exactly when it
is opened and does not hold a text, and else with `parse_config`. The text of an object is loaded as
the object with the value of each variable merged into it at the path that its name spells, blanks
around the name left out. -/
theorem load_over (hapart : env.Apart) (files : FileTree) (path : String) :
    ((∃ e, load path files env = .error e ∧ e.cause = "open_config") ↔
      ∃ error, files.open? path = .error error) ∧
    ((∃ e, load path files env = .error e ∧ e.cause = "read_config") ↔
      ∃ entry, files.open? path = .ok entry ∧ ∀ text : String, entry ≠ .file text.toUTF8) ∧
    ∀ text : String, files.open? path = .ok (.file text.toUTF8) →
      (∀ e, load path files env = .error e → e.cause = "parse_config") ∧
      ((∀ entry ∈ env, Environment.path? entry.1 = none) →
        load path files env = (parse text).mapError fun e => .parsing path e.message) ∧
      ∀ found, Json.parseObject text = .ok found →
        LoadsOver (load path files) env (Node.ofJson.ofMembers .document found) := by
  refine ⟨open_config_iff, read_config_iff, fun text hopen =>
    ⟨fun e he => parse_config_of_text hopen he, fun hnone => ?_, fun found hfound =>
      loadsOver hopen hapart hfound⟩⟩
  rw [load_of_text hopen, ofSources_of_no_paths hnone]

/-- A file alone in the working directory is opened. -/
theorem open?_alone (content : ByteArray) :
    (FileTree.empty.put "c.json" (.file content)).open? "c.json" = .ok (.file content) := by
  have hparts : FileTree.parts "c.json" = ["c.json"] := by decide +kernel
  have hstart : FilePlace.start "c.json" = .here := by decide +kernel
  simp only [FileTree.open?, FileTree.put, hparts, hstart]
  rw [if_neg (by decide +kernel), if_neg (by decide +kernel), if_neg (by decide +kernel)]
  exact FileTree.walk_singleton (by decide +kernel) rfl

/-- The text of a document whose port is no number. -/
def misfiledText : String := "\x7b\"LogParams\":\x7b\"a\":\"A\"\x7d,\"Port\":\"x\"\x7d"

/-- A file with that text. -/
def misfiled : FileTree := FileTree.empty.put "c.json" (.file misfiledText.toUTF8)

theorem misfiled_open : misfiled.open? "c.json" = .ok (.file misfiledText.toUTF8) := open?_alone _

/-- Variables that set the port, add a log field and name no field. -/
def overrides : Environment :=
  [("PATH", "/bin"), ("eel_Port", "9090"), ("EEL_LogParams.b", "B"), ("EEL_Other", "1")]

/-- A port that is no number is repaired by a variable, and a log field is added to another. -/
theorem load_over_repaired :
    overrides.Apart ∧ ∃ s, load "c.json" misfiled overrides = .ok s ∧
      s.port = 9090 ∧ s.logParams = [("a", "A"), ("b", "B")] := by
  have hapart : overrides.Apart := by decide +kernel
  have hfound : Json.parseObject misfiledText =
      .ok [("LogParams", .obj [("a", .str "A")]), ("Port", .str "x")] :=
    Except.eq_ok_of_toOption (by decide +kernel)
  have hread : ofMembers (overrides.onto (Node.ofJson.ofMembers .document
      [("LogParams", .obj [("a", .str "A")]), ("Port", .str "x")])) =
      .ok { zero with port := 9090, logParams := [("a", "A"), ("b", "B")] } :=
    Except.eq_ok_of_toOption (by decide +kernel)
  obtain ⟨-, -, hobject⟩ := (load_over hapart misfiled "c.json").2.2 _ misfiled_open
  exact ⟨hapart, _, ((hobject _ hfound).merged _).2 hread, rfl, rfl⟩

end Settings

/-! ## The line of a failure -/

namespace LoadError

/-- The members of a failure in the order in which they are written. -/
def members (e : LoadError) : Entries Json :=
  [("cause", .str e.cause), ("error", .str e.message), ("error_type", .str e.errorType)]

theorem ofList_members (e : LoadError) : Entries.ofList [("error", .str e.message),
    ("error_type", .str e.errorType), ("cause", .str e.cause)] = e.members := by
  have hone : ∀ name (j : Json), Entries.insert name j [] = [(name, j)] := fun _ _ => rfl
  have hlast : "error" < "error_type" := by decide
  have hfirst : "cause" < "error" := by decide
  simp only [Entries.ofList, List.foldl_cons, List.foldl_nil, hone,
    Entries.insert_cons_of_gt hlast, Entries.insert_cons_of_lt hfirst, members]

/-- **The line of a failure.** Whatever stands in the path, in the failure of the file system and
in the fault of the text, a failure is told in one line without controls, and the line reads as the
object of its words, its family and its stage, and of nothing else. -/
theorem jsonLine_reads_back (e : LoadError) :
    (∀ c ∈ e.jsonLine.toList, 0x20 ≤ c.toNat) ∧
    Json.parse e.jsonLine = .ok (.obj [("cause", .str e.cause), ("error", .str e.message),
      ("error_type", .str e.errorType)]) := by
  constructor
  · rw [jsonLine, Json.render, String.toList_ofList]
    exact e.toJson.oneLine_write
  · have hsorted : e.members.Sorted := e.ofList_members ▸ Entries.sorted_ofList _
    rw [jsonLine, toJson, Json.ofMembers, ofList_members]
    exact Json.parse_write ⟨hsorted, trivial, trivial, trivial, trivial⟩
      ⟨trivial, trivial, trivial, trivial⟩

/-- A path with a line break and a failure with quotes, a backslash and a control. -/
def unruly : LoadError := .opening "é\n.json" (.told "\"\\\x01\"")

/-- Nothing of them is lost. -/
theorem jsonLine_reads_back_unruly :
    'é' ∈ unruly.jsonLine.toList ∧ 0x20 ≤ 'é'.toNat ∧
    Json.parse unruly.jsonLine = .ok (.obj [("cause", .str "open_config"),
      ("error", .str "failed to open config é\n.json: \"\\\x01\""),
      ("error_type", .str "get_config")]) := by
  have hmem : 'é' ∈ unruly.jsonLine.toList := by decide +kernel
  have hmessage : unruly.message = "failed to open config é\n.json: \"\\\x01\"" := by decide
  obtain ⟨hline, hread⟩ := jsonLine_reads_back unruly
  rw [hmessage] at hread
  exact ⟨hmem, hline _ hmem, hread⟩

end LoadError
end EventRelay
