import EventRelay.Proofs.Json.Shape

/-!
# Reading what was written

The text of a value without doubles reads as the value, whatever follows it in a longer text, as
long as the value is no deeper than the reader allows and its tables are in order.

* `escapeChar_cases`: the three ways to write a character of a string.
* `literal_write`: strings, with every character.
* `numeral_toDigits`: integers within 64 bits.
* `value_write`: values. `parse_write`, `parseObject_render`: values and objects as whole texts.
-/

namespace EventRelay
namespace Json

/-! ## Strings -/

/-- A character of a string is written as it is, or by a letter that stands for it, or by its
number. -/
theorem escapeChar_cases (c : Char) :
    (¬ c.toNat < 0x20 ∧ c ≠ '"' ∧ c ≠ '\\' ∧ escapeChar c = [c]) ∨
    (∃ e, e ≠ 'u' ∧ simpleEscape? e = some c ∧ escapeChar c = ['\\', e]) ∨
    c.toNat < 0x20 ∧ escapeChar c = '\\' :: 'u' :: Text.Hex.padded 4 c.toNat := by
  by_cases hlettered : c = '"' ∨ c = '\\' ∨ c = '\x08' ∨ c = '\x0c' ∨ c = '\n' ∨ c = '\r' ∨ c = '\t'
  · refine .inr (.inl ?_)
    obtain rfl | rfl | rfl | rfl | rfl | rfl | rfl := hlettered
    · exact ⟨'"', by decide⟩
    · exact ⟨'\\', by decide⟩
    · exact ⟨'b', by decide⟩
    · exact ⟨'f', by decide⟩
    · exact ⟨'n', by decide⟩
    · exact ⟨'r', by decide⟩
    · exact ⟨'t', by decide⟩
  · simp only [not_or] at hlettered
    obtain ⟨h₁, h₂, h₃, h₄, h₅, h₆, h₇⟩ := hlettered
    by_cases hlow : c.toNat < 0x20
    · exact .inr (.inr ⟨hlow, by simp [escapeChar, h₁, h₂, h₃, h₄, h₅, h₆, h₇, hlow]⟩)
    · exact .inl ⟨hlow, h₁, h₂, by simp [escapeChar, h₁, h₂, h₃, h₄, h₅, h₆, h₇, hlow]⟩

/-- A low number is written with four digits that read as the number. -/
theorem hexWord?_padded : ∀ n < 0x20, ∃ a b c d, Text.Hex.padded 4 n = [a, b, c, d] ∧
    hexWord? a b c d = some n := by
  intro n hn
  refine ⟨'0', '0', Text.Hex.digit (n / 16), Text.Hex.digit (n % 16), ?_⟩
  revert n
  decide

/-- A character that was written is read. -/
theorem literalFrom_escapeChar (c : Char) (done rest : List Char) :
    literalFrom done (escapeChar c ++ rest) = literalFrom (c :: done) rest := by
  obtain ⟨hlow, hquote, hback, he⟩ | ⟨e, hu, hsimple, he⟩ | ⟨hlow, he⟩ := escapeChar_cases c
  · rw [he, List.singleton_append, literalFrom]
    · exact if_neg hlow
    all_goals simp [hquote, hback]
  · rw [he, List.cons_append, List.singleton_append, literalFrom]
    · rw [hsimple]
    all_goals simp [hu]
  · obtain ⟨a, b, d, f, hpad, hword⟩ := hexWord?_padded _ hlow
    rw [he, hpad]
    simp only [List.cons_append, List.nil_append]
    rw [literalFrom]
    simp only [hword]
    rw [if_pos (.inl (by omega)), Char.ofNat_toNat]

/-- A string that was written is read. -/
theorem literal_write (s : String) (rest : List Char) :
    literal (s.toList.flatMap escapeChar ++ '"' :: rest) = .ok (s, rest) := by
  have hfrom : ∀ cs done, literalFrom done (cs.flatMap escapeChar ++ '"' :: rest) =
      .ok (String.ofList (done.reverse ++ cs), rest) := by
    intro cs
    induction cs with
    | nil => simp [literalFrom]
    | cons c cs ih =>
      intro done
      rw [List.flatMap_cons, List.append_assoc, literalFrom_escapeChar, ih]
      simp
  have h := hfrom s.toList []
  rwa [List.reverse_nil, List.nil_append, String.ofList_toList] at h

/-! ## Integers -/

/-- What may follow a value inside an array or an object, or at the end. -/
def EndsValue (rest : List Char) : Prop :=
  rest = [] ∨ ∃ c more, rest = c :: more ∧ (c = ',' ∨ c = ']' ∨ c = '\x7d')

theorem EndsValue.cons {c : Char} (h : c = ',' ∨ c = ']' ∨ c = '\x7d') (more : List Char) :
    EndsValue (c :: more) := .inr ⟨c, more, rfl, h⟩

/-- Nothing is left of digits and nothing follows them that belongs to a number. -/
theorem afterWhole_ends {rest : List Char} (h : EndsValue rest) (negative : Bool) (word : Nat) :
    afterWhole negative word rest = .ok (integer negative word, rest) := by
  obtain rfl | ⟨c, more, rfl, rfl | rfl | rfl⟩ := h <;>
    simp [afterWhole, skipDigits, digitOf?]

theorem digitOf?_of_isDigit {c : Char} (h : c.isDigit = true) :
    digitOf? c = some (c.toNat - '0'.toNat) := by
  have hc := Char.isDigit_iff_toNat.1 h
  exact if_pos hc

/-- Digits only make a number greater. -/
theorem le_ofDigitChars (ds : List Char) (n : Nat) : n ≤ Nat.ofDigitChars 10 ds n := by
  induction ds generalizing n with
  | nil => exact Nat.le_refl n
  | cons c ds ih =>
    rw [Nat.ofDigitChars_cons]
    exact Nat.le_trans (by omega) (ih _)

/-- Digits whose number is within the limit are all taken. -/
theorem takeDigits_append {limit : Nat} {ds rest : List Char} (hds : ∀ c ∈ ds, c.isDigit = true)
    (hrest : EndsValue rest) (n taken : Nat) (hn : Nat.ofDigitChars 10 ds n ≤ limit) :
    takeDigits limit n taken (ds ++ rest) =
      (Nat.ofDigitChars 10 ds n, taken + ds.length, rest) := by
  induction ds generalizing n taken with
  | nil =>
    obtain rfl | ⟨c, more, rfl, rfl | rfl | rfl⟩ := hrest <;> simp [takeDigits, digitOf?]
  | cons c ds ih =>
    rw [Nat.ofDigitChars_cons, Nat.mul_comm] at hn
    rw [List.cons_append, takeDigits, digitOf?_of_isDigit (hds c List.mem_cons_self)]
    dsimp only
    rw [if_pos (Nat.le_trans (le_ofDigitChars ds _) hn),
      ih (fun d hd => hds d (List.mem_cons_of_mem _ hd)) _ _ hn, Nat.ofDigitChars_cons,
      Nat.mul_comm, List.length_cons, Nat.add_assoc, Nat.add_comm 1]

/-- The digits of a positive number do not start with a zero. -/
theorem toDigits_head {n : Nat} (hn : 0 < n) :
    ∃ c ds, Nat.toDigits 10 n = c :: ds ∧ c ≠ '0' := by
  induction n using Nat.strongRecOn with
  | _ n ih =>
    rw [Nat.toDigits_eq_if (by decide)]
    split
    · next hlt =>
      have hdigit : ∀ n < 10, 0 < n → n.digitChar ≠ '0' := by decide
      exact ⟨_, _, rfl, hdigit n hlt hn⟩
    · next hge =>
      obtain ⟨c, ds, he, hc⟩ := ih (n / 10) (by omega) (by omega)
      exact ⟨c, ds ++ [(n % 10).digitChar], by rw [he, List.cons_append], hc⟩

/-- The digits of a word are read as the word. -/
theorem numeral_toDigits (negative : Bool) {n : Nat} (hn : n ≤ maxWord) {rest : List Char}
    (h : EndsValue rest) :
    numeral negative (Nat.toDigits 10 n ++ rest) = .ok (integer negative n, rest) := by
  obtain rfl | hpos := Nat.eq_zero_or_pos n
  · rw [Nat.toDigits_zero, List.singleton_append, numeral]
    have hstarts : startsWithDigit rest = false := by
      obtain rfl | ⟨c, more, rfl, rfl | rfl | rfl⟩ := h <;> simp [startsWithDigit, digitOf?]
    rw [hstarts]
    exact afterWhole_ends h negative 0
  · obtain ⟨c, ds, he, hc⟩ := toDigits_head hpos
    have hdigits : ∀ d ∈ c :: ds, d.isDigit = true := fun d hd =>
      Nat.isDigit_of_mem_toDigits (b := 10) (n := n) (by decide) (by decide) (he ▸ hd)
    have hvalue : Nat.ofDigitChars 10 ds (c.toNat - '0'.toNat) = n := by
      have h := @Nat.ofDigitChars_ten_toDigits n
      rw [he, Nat.ofDigitChars_cons, Nat.mul_zero, Nat.zero_add] at h
      exact h
    rw [he, List.cons_append, numeral.eq_def]
    split
    · next hnil => cases hnil
    · next hzero =>
      exact absurd (List.cons.inj hzero).1 hc
    · next d more _ hcons =>
      obtain ⟨rfl, rfl⟩ := List.cons.inj hcons
      rw [digitOf?_of_isDigit (hdigits c List.mem_cons_self)]
      dsimp only
      rw [takeDigits_append (fun d hd => hdigits d (List.mem_cons_of_mem _ hd)) h _ _
        (by rw [hvalue]; exact hn), hvalue]
      exact afterWhole_ends h negative n

/-- An integer that 64 bits hold is what its sign and its size say. -/
theorem integer_natAbs {i : Int} (fits : -9223372036854775808 ≤ i ∧ i < 18446744073709551616) :
    integer (decide (i < 0)) i.natAbs = .int i fits := by
  have hsigned : (if decide (i < 0) = true then -(i.natAbs : Int) else i.natAbs) = i := by
    split
    · next h => simp only [decide_eq_true_eq] at h; omega
    · next h => simp only [decide_eq_true_eq] at h; omega
  have hzero : ¬ (decide (i < 0) = true ∧ i.natAbs = 0) := by
    simp only [decide_eq_true_eq]
    omega
  simp only [integer]
  rw [if_neg hzero, hsigned, Number.ofInt?, dif_pos fits]

/-! ## Values -/

theorem skipBetween_cons {c : Char} (h : isBetween c = false) (rest : List Char) :
    skipBetween (c :: rest) = c :: rest := by
  rw [skipBetween, List.dropWhile_cons_of_neg (by simp [h])]

/-- A character that starts the text of a value, inside an array too. -/
def StartsValue (c : Char) : Prop := isBetween c = false ∧ c ≠ ',' ∧ c ≠ ']'

instance (c : Char) : Decidable (StartsValue c) := inferInstanceAs (Decidable (_ ∧ _ ∧ _))

theorem startsValue_of_isDigit {c : Char} (h : c.isDigit = true) : StartsValue c := by
  have hc := Char.isDigit_iff_toNat.1 h
  refine ⟨?_, ?_, ?_⟩
  · simp only [isBetween, Bool.or_eq_false_iff, decide_eq_false_iff_not]
    refine ⟨⟨⟨?_, ?_⟩, ?_⟩, ?_⟩ <;> rintro rfl <;> revert h <;> decide
  · rintro rfl
    revert h
    decide
  · rintro rfl
    revert h
    decide

/-- The digits of a number start with a digit. -/
theorem toDigits_cons (n : Nat) : ∃ c ds, Nat.toDigits 10 n = c :: ds ∧ c.isDigit = true := by
  obtain ⟨c, ds, he⟩ := List.exists_cons_of_ne_nil (Nat.toDigits_ne_nil (n := n) (b := 10))
  exact ⟨c, ds, he, Nat.isDigit_of_mem_toDigits (b := 10) (n := n) (by decide) (by decide)
    (he ▸ List.mem_cons_self)⟩

/-- How the text of a value starts. -/
theorem write_head : ∀ {j : Json}, j.Exact → ∃ c rest, j.write = c :: rest ∧ StartsValue c
  | .null, _ => ⟨'n', _, by rw [write], by decide⟩
  | .bool true, _ => ⟨'t', _, by rw [write], by decide⟩
  | .bool false, _ => ⟨'f', _, by rw [write], by decide⟩
  | .num (.int i _), _ => by
    rw [write, Number.text, integerText]
    split
    · exact ⟨'-', _, rfl, by decide⟩
    · obtain ⟨c, ds, he, hc⟩ := toDigits_cons i.natAbs
      exact ⟨c, ds, he, startsValue_of_isDigit hc⟩
  | .str _, _ => ⟨'"', _, by rw [write, stringText]; rfl, by decide⟩
  | .arr [], _ => ⟨'[', _, by rw [write], by decide⟩
  | .arr (_ :: _), _ => ⟨'[', _, by rw [write]; rfl, by decide⟩
  | .obj [], _ => ⟨'\x7b', _, by rw [write], by decide⟩
  | .obj ((_, _) :: _), _ => ⟨'\x7b', _, by rw [write]; rfl, by decide⟩

theorem write_length_pos {j : Json} (h : j.Exact) : 0 < j.write.length := by
  obtain ⟨c, rest, he, -⟩ := write_head h
  rw [he]
  exact Nat.zero_lt_succ _

theorem writeItems_cons (more : List Json) (rest : List Char) :
    1 ≤ (writeItems more).length ∧ EndsValue (writeItems more ++ rest) := by
  cases more with
  | nil => exact ⟨by simp [writeItems], .cons (by simp) _⟩
  | cons item more => exact ⟨by simp [writeItems], .cons (by simp) _⟩

theorem writeMembers_cons (more : List (String × Json)) (rest : List Char) :
    1 ≤ (writeMembers more).length ∧ EndsValue (writeMembers more ++ rest) := by
  cases more with
  | nil => exact ⟨by simp [writeMembers], .cons (by simp) _⟩
  | cons e more => exact ⟨by simp [writeMembers], .cons (by simp) _⟩

/-- A text that starts with a digit is read as a number. -/
theorem value_of_isDigit {c : Char} (h : c.isDigit = true) (fuel depth : Nat) (rest : List Char) :
    value (fuel + 1) depth (c :: rest) =
      (numeral false (c :: rest)).map (fun r => (.num r.1, r.2)) := by
  rw [value, skipBetween_cons (startsValue_of_isDigit h).1]
  split
  case h_9 heq =>
    obtain ⟨rfl, rfl⟩ := List.cons.inj heq
    rw [digitOf?_of_isDigit h]
    rfl
  case h_1 heq => cases heq
  all_goals
    next heq =>
    obtain ⟨rfl, -⟩ := List.cons.inj heq
    exact absurd h (by decide)

/-- An integer that was written is read. -/
theorem value_write_integer {i : Int}
    (fits : -9223372036854775808 ≤ i ∧ i < 18446744073709551616) (fuel depth : Nat)
    {rest : List Char} (h : EndsValue rest) :
    value (fuel + 1) depth (integerText i ++ rest) = .ok (.num (.int i fits), rest) := by
  have hword : i.natAbs ≤ maxWord := by
    show i.natAbs ≤ 18446744073709551615
    omega
  have hread := numeral_toDigits (decide (i < 0)) hword h
  rw [integer_natAbs fits] at hread
  rw [integerText]
  split
  · next hneg =>
    rw [decide_eq_true hneg] at hread
    rw [List.cons_append, value, skipBetween_cons (by decide)]
    simp only [hread, Except.map]
  · next hneg =>
    rw [decide_eq_false hneg] at hread
    obtain ⟨c, ds, he, hc⟩ := toDigits_cons i.natAbs
    rw [he, List.cons_append] at hread ⊢
    rw [value_of_isDigit hc, hread, Except.map]

/-- The first item of an array starts where its text does. -/
theorem itemStart_write {j : Json} (h : j.Exact) (rest : List Char) :
    itemStart true (j.write ++ rest) = .ok (some (j.write ++ rest)) := by
  obtain ⟨c, more, he, hbetween, hcomma, hbracket⟩ := write_head h
  rw [he, List.cons_append, itemStart, skipBetween_cons hbetween]
  split
  · next heq => cases heq
  · next heq => exact absurd (List.cons.inj heq).1 hbracket
  · next heq => exact absurd (List.cons.inj heq).1 hcomma
  · rfl

/-- A later item of an array starts after the comma. -/
theorem itemStart_comma_write {j : Json} (h : j.Exact) (rest : List Char) :
    itemStart false (',' :: (j.write ++ rest)) = .ok (some (j.write ++ rest)) := by
  obtain ⟨c, more, he, hbetween, hcomma, hbracket⟩ := write_head h
  rw [he, List.cons_append, itemStart, skipBetween_cons (by decide)]
  simp only [Bool.false_eq_true, if_false]
  rw [skipBetween_cons hbetween]
  split
  · next heq => cases heq
  · next heq => exact absurd (List.cons.inj heq).1 hbracket
  · rfl

/-- A member's name starts after the brace or after the comma before it. -/
theorem memberStart_write (first : Bool) (name : String) (rest : List Char) :
    memberStart first ((if first then [] else [',']) ++ stringText name ++ rest) =
      .ok (some (name.toList.flatMap escapeChar ++ '"' :: rest)) := by
  cases first with
  | true =>
    simp only [if_true, stringText, List.nil_append, List.cons_append, List.append_assoc]
    rw [memberStart, skipBetween_cons (by decide)]
    simp
  | false =>
    simp only [Bool.false_eq_true, if_false, stringText, List.nil_append, List.cons_append,
      List.append_assoc]
    rw [memberStart, skipBetween_cons (by decide)]
    simp only [Bool.false_eq_true, if_false]
    rw [skipBetween_cons (by decide)]
    rfl

/-- An item that can be read is followed by the other items. -/
theorem items_item {fuel n : Nat} {first : Bool} {done : List Json} {cs text rest : List Char}
    {item : Json} (hstart : itemStart first cs = .ok (some text))
    (hread : value fuel n text = .ok (item, rest)) :
    items (fuel + 1) n first done cs = items fuel n false (item :: done) rest := by
  rw [items, hstart]
  dsimp only
  rw [hread]

/-- A member that can be read is followed by the other members. -/
theorem members_member {fuel n : Nat} {text rest : List Char} {item : Json} (first : Bool)
    (done : Entries Json) (name : String) (hread : value fuel n text = .ok (item, rest)) :
    members (fuel + 1) n first done
        ((if first then [] else [',']) ++ stringText name ++ ':' :: text) =
      members fuel n false (done.insert name item) rest := by
  rw [members, memberStart_write]
  dsimp only
  rw [literal_write]
  dsimp only
  rw [show afterColon (':' :: text) = .ok text from rfl]
  dsimp only
  rw [hread]

/-- An array is read from its bracket on. -/
theorem value_bracket (fuel n : Nat) (rest : List Char) :
    value (fuel + 1) (n + 1) ('[' :: rest) =
      (items fuel n true [] rest).map (fun r => (.arr r.1, r.2)) := by
  rw [value]
  rfl

/-- An object is read from its brace on. -/
theorem value_brace (fuel n : Nat) (rest : List Char) :
    value (fuel + 1) (n + 1) ('\x7b' :: rest) =
      (members fuel n true [] rest).map (fun r => (.obj r.1, r.2)) := by
  rw [value]
  rfl

mutual

/-- A value that was written is read, whatever follows. -/
theorem value_write : ∀ (j : Json) {n fuel : Nat} {rest : List Char}, j.Within n → j.Exact →
    j.write.length ≤ fuel → EndsValue rest → value fuel n (j.write ++ rest) = .ok (j, rest)
  | j, n, fuel, rest, hwithin, hexact, hfuel, h => by
    obtain ⟨fuel, rfl⟩ :=
      Nat.exists_eq_add_one.2 (Nat.lt_of_lt_of_le (write_length_pos hexact) hfuel)
    match j, hwithin, hexact with
    | .null, _, _ => simp [write, value, skipBetween_cons, isBetween, word, Except.map]
    | .bool true, _, _ => simp [write, value, skipBetween_cons, isBetween, word, Except.map]
    | .bool false, _, _ => simp [write, value, skipBetween_cons, isBetween, word, Except.map]
    | .num (.int i fits), _, _ =>
      rw [write, Number.text]
      exact value_write_integer fits fuel n h
    | .str s, _, _ =>
      simp only [write, stringText, List.cons_append, List.append_assoc, List.nil_append]
      rw [value, skipBetween_cons (by decide)]
      simp only [literal_write, Except.map]
    | .arr list, hwithin, hexact =>
      match n, list, hwithin, hexact with
      | n + 1, [], _, _ =>
        obtain ⟨fuel, rfl⟩ :=
          Nat.exists_eq_add_one.2 (Nat.lt_of_lt_of_le Nat.one_pos (Nat.le_of_succ_le_succ hfuel))
        simp [write, value, items, itemStart, skipBetween_cons, isBetween, Except.map]
      | n + 1, item :: more, ⟨hin, hwithin⟩, ⟨hitem, hexact⟩ =>
        have hpos := write_length_pos hitem
        have hmore := writeItems_cons more rest
        rw [write, List.length_append, List.length_cons] at hfuel
        obtain ⟨fuel, rfl⟩ := Nat.exists_eq_add_one.2 (by omega : 0 < fuel)
        rw [write, List.append_assoc, List.cons_append, value_bracket,
          items_item (itemStart_write hitem _) (value_write item hin hitem (by omega) hmore.2),
          items_write more hwithin hexact (by omega)]
        rfl
    | .obj list, hwithin, hexact =>
      match n, list, hwithin, hexact with
      | n + 1, [], _, _ =>
        obtain ⟨fuel, rfl⟩ :=
          Nat.exists_eq_add_one.2 (Nat.lt_of_lt_of_le Nat.one_pos (Nat.le_of_succ_le_succ hfuel))
        simp [write, value, members, memberStart, skipBetween_cons, isBetween, Except.map]
      | n + 1, (name, item) :: more, ⟨hsorted, hin, hwithin⟩, ⟨hitem, hexact⟩ =>
        have hmore := writeMembers_cons more rest
        simp only [write, List.length_append, List.length_cons] at hfuel
        obtain ⟨fuel, rfl⟩ := Nat.exists_eq_add_one.2 (by omega : 0 < fuel)
        have hitem : value fuel n (item.write ++ (writeMembers more ++ rest)) =
            .ok (item, writeMembers more ++ rest) :=
          value_write item hin hitem (by omega) hmore.2
        have hread := members_member true [] name hitem
        simp only [if_true, List.nil_append] at hread
        simp only [write, List.append_assoc, List.cons_append]
        rw [value_brace, hread, members_write more hsorted hwithin hexact (by omega)]
        rfl

/-- Items that were written are read. -/
theorem items_write : ∀ (more : List Json) {n fuel : Nat} {done : List Json} {rest : List Char},
    ItemsWithin more n → ItemsExact more → (writeItems more).length ≤ fuel →
      items fuel n false done (writeItems more ++ rest) = .ok (done.reverse ++ more, rest)
  | more, n, fuel, done, rest, hwithin, hexact, hfuel => by
    obtain ⟨fuel, rfl⟩ :=
      Nat.exists_eq_add_one.2 (Nat.le_trans (writeItems_cons more rest).1 hfuel)
    match more, hwithin, hexact with
    | [], _, _ => simp [writeItems, items, itemStart, skipBetween_cons, isBetween]
    | item :: more, ⟨hin, hwithin⟩, ⟨hitem, hexact⟩ =>
      rw [writeItems, List.length_append, List.length_cons] at hfuel
      rw [writeItems, List.append_assoc, List.cons_append,
        items_item (itemStart_comma_write hitem _)
          (value_write item hin hitem (by omega) (writeItems_cons more rest).2),
        items_write more hwithin hexact (by omega)]
      simp

/-- Members that were written are read. -/
theorem members_write : ∀ (more : List (String × Json)) {n fuel : Nat} {done : Entries Json}
    {rest : List Char}, Entries.Sorted (done ++ more) → MembersWithin more n → MembersExact more →
      (writeMembers more).length ≤ fuel →
        members fuel n false done (writeMembers more ++ rest) = .ok (done ++ more, rest)
  | more, n, fuel, done, rest, hsorted, hwithin, hexact, hfuel => by
    obtain ⟨fuel, rfl⟩ :=
      Nat.exists_eq_add_one.2 (Nat.le_trans (writeMembers_cons more rest).1 hfuel)
    match more, hsorted, hwithin, hexact with
    | [], _, _, _ => simp [writeMembers, members, memberStart, skipBetween_cons, isBetween]
    | (name, item) :: more, hsorted, ⟨hin, hwithin⟩, ⟨hitem, hexact⟩ =>
      have hlt : ∀ e ∈ done, e.1 < name := fun e he =>
        (List.pairwise_append.1 hsorted).2.2 e he (name, item) List.mem_cons_self
      simp only [writeMembers, List.length_append, List.length_cons] at hfuel
      have hitem : value fuel n (item.write ++ (writeMembers more ++ rest)) =
          .ok (item, writeMembers more ++ rest) :=
        value_write item hin hitem (by omega) (writeMembers_cons more rest).2
      have hread := members_member false done name hitem
      simp only [Bool.false_eq_true, if_false, List.cons_append, List.nil_append] at hread
      simp only [writeMembers, List.append_assoc, List.cons_append]
      rw [hread, Entries.insert_eq_append hlt,
        members_write more (by simpa using hsorted) hwithin hexact (by omega)]
      simp

end

/-- The text of a value without doubles that is not too deep reads as the value. -/
theorem parse_write {j : Json} (h : j.Within maxNesting) (hx : j.Exact) :
    parse j.render = .ok j := by
  have hfuel : j.write.length ≤ fuelFor j.write := by
    rw [fuelFor]
    omega
  have hread := value_write j h hx hfuel (.inl rfl)
  rw [List.append_nil] at hread
  unfold parse parseChars render
  rw [String.toList_ofList, hread]
  rfl

/-- The text of an object reads as the object. -/
theorem parseObject_render {members : List (String × Json)}
    (hwithin : (Json.obj members).Within maxNesting) (hexact : MembersExact members) :
    parseObject (Json.obj members).render = .ok members := by
  obtain ⟨more, hmore⟩ : ∃ more, (Json.obj members).write = '\x7b' :: more := by
    obtain _ | ⟨⟨name, item⟩, rest⟩ := members
    · exact ⟨_, by rw [write]⟩
    · exact ⟨_, by rw [write]; rfl⟩
  have hfuel : (Json.obj members).write.length ≤ fuelFor (Json.obj members).write := by
    rw [fuelFor]
    omega
  have hread := value_write (.obj members) hwithin hexact hfuel (.inl rfl)
  rw [List.append_nil] at hread
  unfold parseObject render
  rw [String.toList_ofList]
  dsimp only
  split
  · next hlist =>
    rw [hmore, skipBetween_cons (by decide)] at hlist
    exact absurd (List.cons.inj hlist).1 (by decide)
  · rw [hread]
    rfl

end Json
end EventRelay
