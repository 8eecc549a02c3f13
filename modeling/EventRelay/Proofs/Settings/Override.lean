import EventRelay.Proofs.Decimal
import EventRelay.Proofs.Settings.Loading

/-!
# Setting a text by a variable

A variable is read before it is known which field it is for. A text of letters, digits, points,
underscores and hyphens is read as itself, unless it is a truth value, a whole number that fits a
word or a decimal with a point; a field of texts then refuses it. Between double quotes every such
text is read as itself.

* `Variable.IsLabel`: the texts that this is about. `Variable.IsTyped`: those of another kind.
* `Variable.parse_label`, `Variable.parse_quoted`: what the texts are read as.
* `Field.IsText`: a field of texts.
* `Settings.load_set_iff`: what one variable does to settings that load.
* `Settings.text_overridden`: all of this together.
-/

namespace EventRelay

namespace Variable

/-! ## Labels -/

/-- A text is checked character by character, and not by way of all characters there are. -/
local instance (priority := high) charsDecidable {p : Char → Prop} [DecidablePred p]
    (cs : List Char) : Decidable (∀ c ∈ cs, p c) := List.decidableBAll p cs

/-- A letter or digit of ASCII, a point, an underscore or a hyphen. -/
def IsLabelChar (c : Char) : Prop :=
  ('a' ≤ c ∧ c ≤ 'z') ∨ ('A' ≤ c ∧ c ≤ 'Z') ∨ ('0' ≤ c ∧ c ≤ '9') ∨ c = '.' ∨ c = '_' ∨ c = '-'

instance : DecidablePred IsLabelChar := fun _ => inferInstanceAs (Decidable (_ ∨ _ ∨ _ ∨ _))

/-- One or more such characters. -/
def IsLabel (cs : List Char) : Prop := cs ≠ [] ∧ ∀ c ∈ cs, IsLabelChar c

instance : DecidablePred IsLabel := fun _ => inferInstanceAs (Decidable (_ ∧ _))

/-- Texts that make a number: digits that fit a word, a hyphen and digits that fit a signed word, or
a decimal with a point. -/
inductive IsNumber : List Char → Prop
  | word {digits : List Char} (ne : digits ≠ []) (all : ∀ c ∈ digits, c.isDigit)
      (fits : Nat.ofDigitChars 10 digits 0 < UInt64.size) : IsNumber digits
  | negative {digits : List Char} (ne : digits ≠ []) (all : ∀ c ∈ digits, c.isDigit)
      (fits : Nat.ofDigitChars 10 digits 0 ≤ UInt64.size / 2) : IsNumber ('-' :: digits)
  | pointed {cs : List Char} (pointed : SignedDecimal.Pointed cs) : IsNumber cs

theorem isNumber_iff {cs : List Char} :
    IsNumber cs ↔
      (cs ≠ [] ∧ (∀ c ∈ cs, c.isDigit) ∧ Nat.ofDigitChars 10 cs 0 < UInt64.size) ∨
      (cs = '-' :: cs.tail ∧ cs.tail ≠ [] ∧ (∀ c ∈ cs.tail, c.isDigit) ∧
        Nat.ofDigitChars 10 cs.tail 0 ≤ UInt64.size / 2) ∨ SignedDecimal.Pointed cs := by
  constructor
  · rintro (⟨hne, hall, hfits⟩ | ⟨hne, hall, hfits⟩ | hpointed)
    · exact .inl ⟨hne, hall, hfits⟩
    · exact .inr (.inl ⟨rfl, hne, hall, hfits⟩)
    · exact .inr (.inr hpointed)
  · rintro (⟨hne, hall, hfits⟩ | ⟨heq, hne, hall, hfits⟩ | hpointed)
    · exact .word hne hall hfits
    · exact heq ▸ .negative hne hall hfits
    · exact .pointed hpointed

instance : DecidablePred IsNumber := fun _ => decidable_of_iff _ isNumber_iff.symm

/-- A word for a truth value. -/
def IsTruthWord (cs : List Char) : Prop := cs = "true".toList ∨ cs = "false".toList

/-- Labels that make a value of another kind than text. -/
def IsTyped (cs : List Char) : Prop := IsTruthWord cs ∨ IsNumber cs

instance : DecidablePred IsTyped := fun _ => inferInstanceAs (Decidable ((_ ∨ _) ∨ _))

theorem IsLabelChar.toNat_lt {c : Char} (h : IsLabelChar c) : c.toNat < 128 := by
  have hle : ∀ {d : Char}, d.toNat < 128 → c ≤ d → c.toNat < 128 := fun hd hcd =>
    Nat.lt_of_le_of_lt (UInt32.le_iff_toNat_le.1 hcd) hd
  obtain ⟨-, h⟩ | ⟨-, h⟩ | ⟨-, h⟩ | rfl | rfl | rfl := h
  · exact hle (by decide) h
  · exact hle (by decide) h
  · exact hle (by decide) h
  all_goals decide

/-- Characters that mean something where the text of a variable is read: blanks, quotes, a backslash
and the sign that a number may have in front. -/
def marks : List Char := ['+', '"', '\x27', '\\', ' ', '\t', '\n', '\x0c', '\r']

/-- A character that means nothing but itself, with quotes around it and without. -/
structure IsOrdinary (c : Char) : Prop where
  notBlank : Text.isBlank c = false
  notDivider : isDivider c = false
  plain : isPlain c = true
  notMark : c ∉ marks

theorem IsLabelChar.ordinary {c : Char} (h : IsLabelChar c) : IsOrdinary c := by
  have hall : ∀ n < 128, IsLabelChar (Char.ofNat n) → Text.isBlank (Char.ofNat n) = false ∧
      isDivider (Char.ofNat n) = false ∧ isPlain (Char.ofNat n) = true ∧ Char.ofNat n ∉ marks := by
    decide +kernel
  have hc := hall c.toNat h.toNat_lt
  rw [Char.ofNat_toNat] at hc
  obtain ⟨hblank, hdivider, hplain, hmark⟩ := hc h
  exact ⟨hblank, hdivider, hplain, hmark⟩

theorem IsLabelChar.ne {c d : Char} (h : IsLabelChar c) (hd : d ∈ marks) : c ≠ d := by
  rintro rfl
  exact h.ordinary.notMark hd

variable {cs : List Char} {text : String}

theorem skipBlanks_label (hall : ∀ c ∈ cs, IsLabelChar c) : skipBlanks cs = cs := by
  cases cs with
  | nil => rfl
  | cons c cs =>
    have hc := hall c List.mem_cons_self
    refine List.dropWhile_cons_of_neg ?_
    simp only [Bool.or_eq_true, decide_eq_true_eq, not_or]
    exact ⟨⟨⟨⟨hc.ne (by decide), hc.ne (by decide)⟩, hc.ne (by decide)⟩, hc.ne (by decide)⟩,
      hc.ne (by decide)⟩

theorem trim_label (hall : ∀ c ∈ cs, IsLabelChar c) : Text.trim cs = cs :=
  Text.trim_eq_self (fun c hc => (hall c (List.mem_of_mem_head? hc)).ordinary.notBlank)
    fun c hc => (hall c (List.mem_of_getLast? hc)).ordinary.notBlank

theorem plus_notMem_label (hall : ∀ c ∈ cs, IsLabelChar c) : '+' ∉ cs := fun h =>
  (hall _ h).ne (by decide) rfl

/-! ## Numbers -/

/-- A number starts with a digit, a sign or a point. -/
theorem IsNumber.head (h : IsNumber cs) :
    ∃ c rest, cs = c :: rest ∧ (c.isDigit ∨ c = '+' ∨ c = '-' ∨ c = '.') := by
  have hdigits : ∀ {digits : List Char}, digits ≠ [] → (∀ c ∈ digits, c.isDigit) →
      ∃ c rest, digits = c :: rest ∧ c.isDigit := by
    intro digits hne hall
    obtain ⟨c, rest, rfl⟩ := List.exists_cons_of_ne_nil hne
    exact ⟨c, rest, rfl, hall c List.mem_cons_self⟩
  cases h with
  | word hne hall _ =>
    obtain ⟨c, rest, rfl, hc⟩ := hdigits hne hall
    exact ⟨c, rest, rfl, .inl hc⟩
  | @negative digits => exact ⟨'-', digits, rfl, .inr (.inr (.inl rfl))⟩
  | pointed hpointed =>
    obtain @⟨front, whole, places, exponent, hfront, hwhole, -, -, -⟩ := hpointed
    obtain rfl | rfl | rfl := hfront
    · cases whole with
      | nil => exact ⟨'.', _, rfl, .inr (.inr (.inr rfl))⟩
      | cons c whole => exact ⟨c, _, rfl, .inl (hwhole c List.mem_cons_self)⟩
    · exact ⟨'+', _, rfl, .inr (.inl rfl)⟩
    · exact ⟨'-', _, rfl, .inr (.inr (.inl rfl))⟩

theorem word?_label (hplus : '+' ∉ cs) {n : Nat} :
    Text.word? cs = some n ↔ cs ≠ [] ∧ (∀ c ∈ cs, c.isDigit) ∧ Nat.ofDigitChars 10 cs 0 = n ∧
      n < UInt64.size := by
  rw [Text.word?, Text.decimal?_eq_digits? hplus, Option.filter_eq_some_iff,
    Text.digits?_eq_some_iff, decide_eq_true_eq, and_assoc, and_assoc]

/-- A label that fits no word has a value with a sign if it is a hyphen and digits. -/
theorem signed?_label (hplus : '+' ∉ cs) (hword : Text.word? cs = none) :
    (signed? cs).isSome ↔ ∃ digits, cs = '-' :: digits ∧ digits ≠ [] ∧
      (∀ c ∈ digits, c.isDigit) ∧ Nat.ofDigitChars 10 digits 0 ≤ UInt64.size / 2 := by
  unfold signed?
  split
  · next digits =>
    rw [Option.isSome_iff_exists]
    simp only [Option.bind_eq_some_iff, Text.digits?_eq_some_iff]
    constructor
    · rintro ⟨i, n, ⟨hne, hall, rfl⟩, hn⟩
      split at hn
      · next hfits => exact ⟨digits, rfl, hne, hall, hfits⟩
      · cases hn
    · rintro ⟨_, heq, hne, hall, hfits⟩
      obtain rfl := (List.cons.inj heq).2
      exact ⟨_, _, ⟨hne, hall, rfl⟩, if_pos hfits⟩
  · next hnot =>
    constructor
    · intro hsome
      obtain ⟨i, hi⟩ := Option.isSome_iff_exists.1 hsome
      obtain ⟨n, hn, hfits⟩ := Option.bind_eq_some_iff.1 hi
      split at hfits
      · next hlt =>
        have hfound : Text.word? cs = some n := by
          rw [Text.word?, hn, Option.filter_some, if_pos (decide_eq_true (by omega))]
        rw [hword] at hfound
        cases hfound
      · cases hfits
    · rintro ⟨digits, rfl, -⟩
      exact absurd rfl (hnot digits)

/-- A whole number that fits a word or a signed word, and a text as it stands otherwise. -/
def wholeOrText (cs : List Char) : Scalar :=
  match Text.word? cs with
  | some n => .unsigned (.ofNat n)
  | none => match signed? cs with
    | some i => .signed (.ofInt i)
    | none => .text (String.ofList cs)

theorem bare_of_not_pointed (hall : ∀ c ∈ cs, IsLabelChar c) (h : ¬SignedDecimal.Pointed cs) :
    bare cs = wholeOrText cs := by
  rw [← Binary64.parse?_isSome_iff, and_comm, not_and, Option.not_isSome_iff_eq_none] at h
  simp only [bare, trim_label hall]
  split
  · next hpoint =>
    rw [h (List.contains_iff_mem.1 hpoint)]
    rfl
  · rfl

/-- Bare text that is a label is a number or is read as itself. -/
theorem bare_label (hall : ∀ c ∈ cs, IsLabelChar c) :
    (IsNumber cs ∧ ∀ s, bare cs ≠ .text s) ∨
      (¬IsNumber cs ∧ bare cs = .text (String.ofList cs)) := by
  have hplus := plus_notMem_label hall
  by_cases hpointed : SignedDecimal.Pointed cs
  · obtain ⟨hsome, hpoint⟩ := Binary64.parse?_isSome_iff.2 hpointed
    obtain ⟨x, hx⟩ := Option.isSome_iff_exists.1 hsome
    have hbare : bare cs = .double x := by
      simp only [bare, trim_label hall]
      rw [if_pos (List.contains_iff_mem.2 hpoint), hx]
    exact .inl ⟨.pointed hpointed, fun s => by rw [hbare]; nofun⟩
  rw [bare_of_not_pointed hall hpointed, wholeOrText]
  cases hword : Text.word? cs with
  | some n =>
    obtain ⟨hne, hdigits, hvalue, hfits⟩ := (word?_label hplus).1 hword
    exact .inl ⟨.word hne hdigits (hvalue ▸ hfits), nofun⟩
  | none =>
    have hiff := signed?_label hplus hword
    cases hsigned : signed? cs with
    | some i =>
      obtain ⟨digits, rfl, hne, hdigits, hfits⟩ := hiff.1 (by rw [hsigned]; rfl)
      exact .inl ⟨.negative hne hdigits hfits, nofun⟩
    | none =>
      refine .inr ⟨fun h => ?_, rfl⟩
      cases h with
      | word hne hdigits hfits =>
        rw [(word?_label hplus).2 ⟨hne, hdigits, rfl, hfits⟩] at hword
        cases hword
      | negative hne hdigits hfits =>
        have hsome := hiff.2 ⟨_, rfl, hne, hdigits, hfits⟩
        rw [hsigned] at hsome
        cases hsome
      | pointed h => exact hpointed h

/-! ## Whole texts -/

/-- A label starts with a word for a truth value or is read as bare text. -/
theorem value?_label (hall : ∀ c ∈ cs, IsLabelChar c) (fuel : Nat) :
    (∃ b word rest, IsTruthWord word ∧ cs = word ++ rest ∧
      value? (fuel + 1) cs = some (leaf (.bool b), rest)) ∨
    ((∀ word rest, IsTruthWord word → cs ≠ word ++ rest) ∧
      value? (fuel + 1) cs = some (leaf (bare cs), [])) := by
  have hmem : ∀ {c : Char} {rest : List Char}, cs = c :: rest → IsLabelChar c := fun heq =>
    hall _ (heq ▸ List.mem_cons_self)
  rw [value?, skipBlanks_label hall]
  split
  · next rest =>
    have hrest : ∀ c ∈ rest, IsLabelChar c := fun c hc => hall c (by simp [hc])
    exact .inl ⟨true, _, rest, .inl rfl, rfl, by rw [skipBlanks_label hrest]⟩
  · next rest =>
    have hrest : ∀ c ∈ rest, IsLabelChar c := fun c hc => hall c (by simp [hc])
    exact .inl ⟨false, _, rest, .inr rfl, rfl, by rw [skipBlanks_label hrest]⟩
  · exact absurd (hmem rfl).ordinary.notDivider (by decide)
  · exact absurd (hmem rfl).ordinary.notDivider (by decide)
  · exact absurd rfl ((hmem rfl).ne (by decide))
  · exact absurd rfl ((hmem rfl).ne (by decide))
  · next htrue hfalse _ _ _ _ =>
    have hkeep : ∀ c ∈ cs, (!isDivider c) = true := fun c hc => by
      rw [(hall c hc).ordinary.notDivider]
      rfl
    refine .inr ⟨?_, ?_⟩
    · rintro word rest (rfl | rfl) heq
      · exact htrue rest heq
      · exact hfalse rest heq
    · rw [List.takeWhile_eq_self_iff.2 hkeep, List.dropWhile_eq_nil_iff.2 hkeep]
      rfl

/-- A word for a truth value with more after it is no number. -/
theorem not_isTyped_append {word rest : List Char} (h : IsTruthWord word) (hrest : rest ≠ []) :
    ¬IsTyped (word ++ rest) := by
  rintro (htruth | hnumber)
  · -- neither word starts the other
    obtain rfl | rfl := h <;> obtain heq | heq := htruth
    · exact hrest (List.append_right_eq_self.1 heq)
    · exact absurd (congrArg List.head? heq) (by simp)
    · exact absurd (congrArg List.head? heq) (by simp)
    · exact hrest (List.append_right_eq_self.1 heq)
  · obtain ⟨c, more, heq, hhead⟩ := hnumber.head
    obtain rfl | rfl := h <;> obtain rfl := (List.cons.inj heq).1 <;> exact absurd hhead (by decide)

/-- **Labels.** A label is read as a value of another kind or as itself. -/
theorem parse_label (h : IsLabel text.toList) :
    (IsTyped text.toList ∧ ∃ x, parse text = leaf x ∧ ∀ s, x ≠ .text s) ∨
      (¬IsTyped text.toList ∧ parse text = leaf (.text text)) := by
  unfold parse
  dsimp only
  obtain ⟨b, word, rest, hword, heq, hvalue⟩ | ⟨hnot, hvalue⟩ :=
    value?_label h.2 (2 * text.toList.length + 1) <;> rw [hvalue]
  · cases rest with
    | nil =>
      rw [List.append_nil] at heq
      exact .inl ⟨.inl (heq ▸ hword), .bool b, rfl, nofun⟩
    | cons c rest => exact .inr ⟨heq ▸ not_isTyped_append hword (List.cons_ne_nil _ _), rfl⟩
  · have hno : ¬IsTruthWord text.toList := fun hword =>
      hnot _ [] hword (List.append_nil _).symm
    obtain ⟨hnumber, hother⟩ | ⟨hnumber, hbare⟩ := bare_label h.2
    · exact .inl ⟨.inr hnumber, _, rfl, hother⟩
    · rw [hbare, String.ofList_toList]
      exact .inr ⟨not_or.2 ⟨hno, hnumber⟩, rfl⟩

example : ∀ v ∈ ["true", "007", "-0", "1.", "-.5e-3"], IsTyped v.toList := by decide +kernel

example : ∀ v ∈ ["True", "1e5", "1.2.3", "18446744073709551616", "-", "."],
    IsLabel v.toList ∧ ¬IsTyped v.toList := by decide +kernel

/-- Between double quotes a text of characters that stand for themselves is read as itself. -/
theorem parse_quoted (h : ∀ c ∈ text.toList, isPlain c = true ∧ c ≠ '"' ∧ c ≠ '\\') :
    parse ("\"" ++ text ++ "\"") = leaf (.text text) := by
  have hchars : ("\"" ++ text ++ "\"").toList = '"' :: (text.toList ++ ['"']) := by
    simp [String.toList_append]
  have hkeep : ∀ c ∈ text.toList, (isPlain c && c ≠ '\\' && c ≠ '"') = true := fun c hc => by
    simp [h c hc]
  have hquoted : quoted? (text.toList ++ ['"']) = some (text, []) := by
    have htaken : (text.toList ++ ['"']).takeWhile (fun c => isPlain c && c ≠ '\\' && c ≠ '"') =
        text.toList := by
      rw [List.takeWhile_append_of_pos hkeep, List.takeWhile_cons_of_neg (by decide),
        List.append_nil]
    rw [quoted?, htaken, List.drop_left]
    simp [quotedFrom, String.ofList_toList]
  have hvalue : ∀ fuel, value? (fuel + 1) ('"' :: (text.toList ++ ['"'])) =
      some (leaf (.text text), []) := fun fuel => by
    have hskip : skipBlanks ('"' :: (text.toList ++ ['"'])) = '"' :: (text.toList ++ ['"']) :=
      List.dropWhile_cons_of_neg (by decide)
    rw [value?, hskip]
    exact congrArg (Option.map fun r => (leaf (.text r.1), skipBlanks r.2)) hquoted
  rw [parse, hchars, hvalue]

end Variable

/-! ## Fields of texts -/

namespace Field

variable {f : Field}

/-- A field that holds a text whatever it is set to. -/
def IsText (f : Field) : Prop := ∀ s : Settings, ∃ v, f.write s = .str v

theorem IsText.read_eq (h : f.IsText) : ∃ set : String → Settings → Settings,
    f.read = NodeReader.text.into set ∧ ∀ v s, f.write (set v s) = .str v := by
  cases f
  case name | appId | version | endpoint | backoffMethod | topicPath | defaultPartner
      | httpTenantHeader | httpPartnerHeader | httpTransactionHeader =>
    exact ⟨_, rfl, fun _ _ => rfl⟩
  all_goals
    obtain ⟨v, hv⟩ := h .zero
    cases hv

end Field

namespace Environment

variable {env : Environment} {value : String} {x : Scalar}

theorem path?_marker_key (f : Field) : path? (marker ++ f.key) = some [f.key] := by
  cases f <;> decide +kernel

/-- A variable that was not set before comes last. -/
theorem set_eq_append {name : String} (h : ∀ entry ∈ env, entry.1 ≠ name) (value : String) :
    env.set name value = env ++ [(name, value)] := by
  induction env with
  | nil => rfl
  | cons entry env ih =>
    obtain ⟨hne, hrest⟩ := List.forall_mem_cons.1 h
    rw [set, if_neg hne, ih hrest]
    rfl

theorem set_field (h : ∀ entry ∈ env, path? entry.1 = none) (f : Field) (value : String) :
    env.set (marker ++ f.key) value = env ++ [(marker ++ f.key, value)] := by
  refine set_eq_append (fun entry hentry hname => ?_) value
  have hpath := path?_marker_key f
  rw [← hname, h entry hentry] at hpath
  cases hpath

/-- One variable for a field, among variables for no field, is apart from the others. -/
theorem apart_set (h : ∀ entry ∈ env, path? entry.1 = none) (f : Field) (value : String) :
    (env.set (marker ++ f.key) value).Apart := by
  have hpaths : (env.set (marker ++ f.key) value).paths = [[f.key]] := by
    rw [set_field h, paths, List.filterMap_append, List.filterMap_eq_nil_iff.2 h, List.nil_append]
    exact List.filterMap_cons_some (path?_marker_key f)
  rw [Apart, hpaths]
  exact List.pairwise_singleton _ _

/-- One variable for a field that holds no table takes the place of what the document has. -/
theorem onto_set (h : ∀ entry ∈ env, path? entry.1 = none) (f : Field)
    (hvalue : Variable.parse value = Variable.leaf x) (members : Entries Node) :
    (env.set (marker ++ f.key) value).onto members =
      members.insert f.key (Variable.leaf x) := by
  have hmerge : ∀ old : Option Node, Node.merge [] (Variable.leaf x) old = Variable.leaf x := by
    intro old
    cases old <;> rfl
  have hfirst : env.onto members = members := onto_of_no_paths h members
  have hlast : mergeOne members (marker ++ f.key, value) =
      Node.mergeInto [f.key] (Variable.parse value) members :=
    @mergeOne_of_path? (marker ++ f.key, value) _ (path?_marker_key f) members
  rw [onto] at hfirst
  rw [set_field h, onto, List.foldl_append, hfirst, List.foldl_cons, List.foldl_nil, hlast, hvalue,
    Node.mergeInto, hmerge]

end Environment

namespace Settings

variable {path value : String} {files : FileTree} {env : Environment} {s s' : Settings} {f : Field}

/-- Settings that load without variables for them, loaded with one that holds no table, are those
settings with the field of the variable set. -/
theorem load_set_iff (hload : load path files env = .ok s)
    (hnone : ∀ entry ∈ env, Environment.path? entry.1 = none) {x : Scalar}
    (hvalue : Variable.parse value = Variable.leaf x) :
    load path files (env.set (Environment.marker ++ f.key) value) = .ok s' ↔
      ∃ change, f.read [f.key] (Variable.leaf x) = .ok change ∧ s' = change s := by
  obtain ⟨text, found, hopen, hfound⟩ := exists_members_of_load hload
  have hs : ofMembers (Node.ofJson.ofMembers .document found) = .ok s := by
    rw [load_of_text hopen, ofSources_of_no_paths hnone] at hload
    have hparse := Except.mapError_eq_ok_iff.1 hload
    rw [parse, hfound] at hparse
    exact Except.mapError_eq_ok_iff.1 hparse
  rw [(loadsOver hopen (Environment.apart_set hnone f value) hfound).merged,
    Environment.onto_set hnone f hvalue]
  exact ofMembers_insert_iff (Node.sorted_ofMembers.2 (Json.parseObject_within hfound).1) hs

/-- Settings with a field of texts set to a text, and the others as they were. -/
def SetTo (f : Field) (v : String) (s s' : Settings) : Prop :=
  f.write s' = .str v ∧ ∀ g : Field, g ≠ f → g.write s' = g.write s

theorem exists_load_set_of_text (hload : load path files env = .ok s)
    (hnone : ∀ entry ∈ env, Environment.path? entry.1 = none) (hf : f.IsText) {v : String}
    (hvalue : Variable.parse value = Variable.leaf (.text v)) :
    ∃ s', load path files (env.set (Environment.marker ++ f.key) value) = .ok s' ∧
      SetTo f v s s' := by
  obtain ⟨set, hread, hwrite⟩ := hf.read_eq
  have hchange : f.read [f.key] (Variable.leaf (.text v)) = .ok (set v) := by
    rw [hread]
    rfl
  exact ⟨set v s, (load_set_iff hload hnone hvalue).2 ⟨set v, hchange, rfl⟩, hwrite v s,
    fun g hg => Field.read_frame hchange hg s⟩

/-- A field of texts that is given another value is a reason to refuse the whole. -/
theorem exists_load_set_of_other (hload : load path files env = .ok s)
    (hnone : ∀ entry ∈ env, Environment.path? entry.1 = none) (hf : f.IsText) {x : Scalar}
    (hvalue : Variable.parse value = Variable.leaf x) (hx : ∀ v, x ≠ .text v) :
    ∃ e, load path files (env.set (Environment.marker ++ f.key) value) = .error e ∧
      e.cause = "parse_config" := by
  obtain ⟨text, found, hopen, -⟩ := exists_members_of_load hload
  cases hset : load path files (env.set (Environment.marker ++ f.key) value) with
  | error e => exact ⟨e, rfl, parse_config_of_text hopen hset⟩
  | ok s' =>
    obtain ⟨set, hread, -⟩ := hf.read_eq
    obtain ⟨change, hchange, -⟩ := (load_set_iff hload hnone hvalue).1 hset
    rw [hread] at hchange
    obtain ⟨v, hv, -⟩ := NodeReader.into_eq_ok_iff.1 hchange
    unfold NodeReader.text at hv
    split at hv
    · next heq => exact absurd (Node.scalar.inj heq).2 (hx _)
    · cases hv

/-- **Texts by variables.** Settings that load without variables for them load with one label for
a field of texts if the label is read as itself: the field is set to it, and the other fields are
as they were. If it is read as a value of another kind they fail to load where they are parsed.
Between double quotes every label sets the field to itself. -/
theorem text_overridden (hload : load path files env = .ok s)
    (hnone : ∀ entry ∈ env, Environment.path? entry.1 = none) (hf : f.IsText) {v : String}
    (hv : Variable.IsLabel v.toList) :
    (¬Variable.IsTyped v.toList →
      ∃ s', load path files (env.set (Environment.marker ++ f.key) v) = .ok s' ∧
        SetTo f v s s') ∧
    (Variable.IsTyped v.toList →
      ∃ e, load path files (env.set (Environment.marker ++ f.key) v) = .error e ∧
        e.cause = "parse_config") ∧
    ∃ s', load path files (env.set (Environment.marker ++ f.key) ("\"" ++ v ++ "\"")) = .ok s' ∧
      SetTo f v s s' := by
  refine ⟨fun htyped => ?_, fun htyped => ?_, exists_load_set_of_text hload hnone hf
    (Variable.parse_quoted fun c hc => ?_)⟩
  · obtain ⟨h, -⟩ | ⟨-, hparse⟩ := Variable.parse_label hv
    · exact absurd h htyped
    · exact exists_load_set_of_text hload hnone hf hparse
  · obtain ⟨-, x, hparse, hx⟩ | ⟨h, -⟩ := Variable.parse_label hv
    · exact exists_load_set_of_other hload hnone hf hparse hx
    · exact absurd htyped h
  · have hc := hv.2 c hc
    exact ⟨hc.ordinary.plain, hc.ne (by decide), hc.ne (by decide)⟩

/-- The text of a document with a name. -/
def namedText : String := "\x7b\"Name\":\"relay\"\x7d"

/-- A file with that text. -/
def named : FileTree := FileTree.empty.put "c.json" (.file namedText.toUTF8)

/-- A variable that is none for the settings. -/
def unrelated : Environment := [("PATH", "/bin")]

theorem unrelated_path? : ∀ entry ∈ unrelated, Environment.path? entry.1 = none := by
  decide +kernel

theorem load_named : load "c.json" named unrelated = .ok { zero with name := "relay" } := by
  rw [named, load_of_text (open?_alone _)]
  exact Except.eq_ok_of_toOption (by decide +kernel)

/-- A version that starts with a letter is set. -/
theorem text_overridden_lettered :
    ∃ s', load "c.json" named (unrelated.set "EEL_Version" "v1.10") = .ok s' ∧
      s'.version = "v1.10" ∧ s'.name = "relay" := by
  have hname : Environment.marker ++ Field.version.key = "EEL_Version" := by decide +kernel
  obtain ⟨hself, -, -⟩ := @text_overridden "c.json" named unrelated _ .version load_named
    unrelated_path? (fun s => ⟨s.version, rfl⟩) "v1.10" (by decide +kernel)
  obtain ⟨s', hload, hset, hothers⟩ := hself (by decide +kernel)
  rw [hname] at hload
  exact ⟨s', hload, Json.str.inj hset, Json.str.inj (hothers .name (by decide))⟩

/-- A version that is written like a decimal is not set, and nothing loads. -/
theorem version_refused :
    load "c.json" named unrelated = .ok { zero with name := "relay" } ∧
      Field.version.IsText ∧ Variable.IsLabel "1.10".toList ∧
      ∃ e, load "c.json" named (unrelated.set "EEL_Version" "1.10") = .error e ∧
        e.cause = "parse_config" := by
  have hname : Environment.marker ++ Field.version.key = "EEL_Version" := by decide +kernel
  have htext : Field.version.IsText := fun s => ⟨s.version, rfl⟩
  have hlabel : Variable.IsLabel "1.10".toList := by decide +kernel
  have htyped : Variable.IsTyped "1.10".toList := by decide +kernel
  obtain ⟨-, x, hparse, hx⟩ | ⟨hnot, -⟩ := Variable.parse_label hlabel
  · rw [← hname]
    exact ⟨load_named, htext, hlabel,
      exists_load_set_of_other load_named unrelated_path? htext hparse hx⟩
  · exact absurd htyped hnot

end Settings
end EventRelay
