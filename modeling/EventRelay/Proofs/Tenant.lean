import EventRelay.Proofs.Text.Bytes
import EventRelay.Tenant

/-!
# Dividing a tenant text

A tenant text is divided into the two parts that it was joined of, whatever characters they are
made of, and is left whole if it was not joined of two parts that can be told apart again. The
division can be made on the bytes of the text: the byte of an underscore is part of no other
character, so the places at which the text is cut lie between characters.

* `Tenant.splitBytes?`: the division on bytes, which fails if a cut goes through a character or a
  length would be negative. `splitBytes?_eq`: it never fails, and divides alike.
* `Tenant.JoinedOf`: a text made of an application id and a partner id.
* `Tenant.split_of_joinedOf`, `Tenant.split_of_not_joined`: what a text is divided into.
* `Tenant.split_undoes_join`: all of this together.
-/

namespace EventRelay

namespace Text

/-- How many bytes stand before the last one of a value, if there is one. -/
def lastPlace? (b : UInt8) : List UInt8 → Option Nat
  | [] => none
  | x :: rest =>
    match lastPlace? b rest with
    | some i => some (i + 1)
    | none => if x = b then some 0 else none

/-- A difference of lengths; none if it would be negative. -/
def less? (a b : Nat) : Option Nat := if b ≤ a then some (a - b) else none

/-! ## The last byte of a value -/

theorem lastPlace?_eq_none {b : UInt8} {bytes : List UInt8} (h : b ∉ bytes) :
    lastPlace? b bytes = none := by
  induction bytes with
  | nil => rfl
  | cons x rest ih =>
    rw [List.mem_cons, not_or] at h
    rw [lastPlace?, ih h.2]
    exact if_neg (Ne.symm h.1)

theorem lastPlace?_append {b : UInt8} {back : List UInt8} (front : List UInt8) {i : Nat}
    (h : lastPlace? b back = some i) : lastPlace? b (front ++ back) = some (front.length + i) := by
  induction front with
  | nil => rw [List.nil_append, h, List.length_nil, Nat.zero_add]
  | cons x rest ih =>
    rw [List.cons_append, lastPlace?, ih, List.length_cons]
    exact congrArg some (by omega)

end Text

namespace Tenant

/-- The ids of a tenant text, divided at its bytes; none if a cut goes through a character or a
length is negative. -/
def splitBytes? (text : String) (allowPartner : Bool) (default : String) : Option Tenant :=
  if !allowPartner then some ⟨text, ""⟩
  else match Text.lastPlace? 0x5F text.toByteArray.data.toList with
    | none => some ⟨text, default⟩
    | some i =>
      if i = 0 then some ⟨text, default⟩
      else (Text.less? text.utf8ByteSize 1).bind fun last =>
        if i < last then
          (Text.slice? text 0 i).bind fun app =>
            (Text.slice? text (i + 1) text.utf8ByteSize).map fun partner => ⟨app, partner⟩
        else some ⟨text, default⟩

/-- A text is made of an application id and a partner id without underscores, both not empty. -/
structure JoinedOf (text app partner : String) : Prop where
  app_ne : app ≠ ""
  partner_ne : partner ≠ ""
  plain : '_' ∉ partner.toList
  joined : app ++ "_" ++ partner = text

variable {text app partner : String}

/-! ## What a text is divided into -/

/-- A text has no underscore, or a last one. -/
theorem exists_last_underscore (text : String) : '_' ∉ text.toList ∨
    ∃ front back : String, text = front ++ "_" ++ back ∧ '_' ∉ back.toList := by
  cases h : divide text.toList with
  | none => exact .inl (not_mem_of_divide_eq_none h)
  | some parts =>
    obtain ⟨before, after⟩ := parts
    obtain ⟨htext, hafter⟩ := divide_eq_some_iff.1 h
    refine .inr ⟨String.ofList before, String.ofList after, ?_, by rwa [String.toList_ofList]⟩
    rw [← String.toList_inj, htext]
    simp

/-- A text is divided at its last underscore, if something stands on both sides of it. -/
theorem split_append {front back : String} (h : '_' ∉ back.toList) (default : String) :
    split (front ++ "_" ++ back) true default =
      if front = "" ∨ back = "" then ⟨front ++ "_" ++ back, default⟩ else ⟨front, back⟩ := by
  have hdivide : divide (front ++ "_" ++ back).toList = some (front.toList, back.toList) := by
    rw [String.toList_append, String.toList_append, List.append_assoc]
    exact divide_join _ h
  rw [split, hdivide]
  simp [List.isEmpty_iff]

theorem split_of_not_mem (h : '_' ∉ text.toList) (default : String) :
    split text true default = ⟨text, default⟩ := by
  rw [split, divide_eq_none h]
  rfl

/-- A text made of two ids is divided into them. -/
theorem split_of_joinedOf (h : JoinedOf text app partner) (default : String) :
    split text true default = ⟨app, partner⟩ := by
  rw [← h.joined, split_append h.plain, if_neg (not_or.2 ⟨h.app_ne, h.partner_ne⟩)]

/-- A text that is made of no two ids is an application id, and the partner is the default one. -/
theorem split_of_not_joined (h : ∀ app partner, ¬ JoinedOf text app partner) (default : String) :
    split text true default = ⟨text, default⟩ := by
  obtain hnone | ⟨front, back, rfl, hback⟩ := exists_last_underscore text
  · exact split_of_not_mem hnone default
  · rw [split_append hback]
    split
    · rfl
    · next hne =>
      rw [not_or] at hne
      exact absurd ⟨hne.1, hne.2, hback, rfl⟩ (h front back)

/-- There is one way at most to make a text of two ids. -/
theorem JoinedOf.unique {app' partner' : String} (h : JoinedOf text app partner)
    (h' : JoinedOf text app' partner') : app = app' ∧ partner = partner' :=
  Tenant.mk.inj ((split_of_joinedOf h "").symm.trans (split_of_joinedOf h' ""))

/-! ## Bytes -/

theorem lastPlace?_bytes_of_not_mem (h : '_' ∉ text.toList) :
    Text.lastPlace? 0x5F text.toByteArray.data.toList = none := by
  refine Text.lastPlace?_eq_none fun hmem => ?_
  rw [Text.bytes_eq] at hmem
  obtain ⟨c, hc, hbyte⟩ := List.mem_flatMap.1 hmem
  have hcode : c.toNat = '_'.toNat := Text.toNat_eq_of_mem_utf8EncodeChar hbyte (by decide)
  exact h (Char.toNat_inj.1 hcode ▸ hc)

theorem lastPlace?_bytes_append (front : String) {back : String} (h : '_' ∉ back.toList) :
    Text.lastPlace? 0x5F (front ++ "_" ++ back).toByteArray.data.toList =
      some front.utf8ByteSize := by
  have hback : Text.lastPlace? 0x5F (0x5F :: back.toByteArray.data.toList) = some 0 := by
    rw [Text.lastPlace?, lastPlace?_bytes_of_not_mem h]
    rfl
  have hbytes : (front ++ "_" ++ back).toByteArray.data.toList =
      front.toByteArray.data.toList ++ 0x5F :: back.toByteArray.data.toList := by
    rw [Text.bytes_eq, Text.bytes_eq, Text.bytes_eq, String.toList_append, String.toList_append,
      List.flatMap_append, List.flatMap_append, List.append_assoc]
    rfl
  rw [hbytes, Text.lastPlace?_append _ hback, Nat.add_zero, Array.length_toList]
  exact congrArg some String.size_toByteArray

/-- The two cuts beside an underscore lie between characters. -/
theorem slice?_beside (front back : String) :
    Text.slice? (front ++ "_" ++ back) 0 front.utf8ByteSize = some front ∧
      Text.slice? (front ++ "_" ++ back) (front.utf8ByteSize + 1)
        (front ++ "_" ++ back).utf8ByteSize = some back := by
  have hfront := Text.slice?_append "" front ("_" ++ back)
  have hback := Text.slice?_append (front ++ "_") back ""
  rw [String.empty_append, ← String.append_assoc] at hfront
  rw [String.append_empty] at hback
  have hplace : (front ++ "_").utf8ByteSize = front.utf8ByteSize + 1 := String.utf8ByteSize_append
  rw [hplace] at hback
  exact ⟨hfront, hback⟩

/-- **Bytes.** Every place that the division comes to lies between characters, no length is
negative, and the ids are those of the division on characters. -/
theorem splitBytes?_eq (text : String) (allowPartner : Bool) (default : String) :
    splitBytes? text allowPartner default = some (split text allowPartner default) := by
  cases allowPartner with
  | false => rfl
  | true =>
    obtain hnone | ⟨front, back, rfl, hback⟩ := exists_last_underscore text
    · rw [splitBytes?, lastPlace?_bytes_of_not_mem hnone, split_of_not_mem hnone]
      rfl
    · have hsize : (front ++ "_" ++ back).utf8ByteSize =
          front.utf8ByteSize + 1 + back.utf8ByteSize := by
        rw [String.utf8ByteSize_append, String.utf8ByteSize_append]
        rfl
      have hless : Text.less? (front ++ "_" ++ back).utf8ByteSize 1 =
          some (front.utf8ByteSize + back.utf8ByteSize) := by
        rw [Text.less?, if_pos (by omega), hsize]
        exact congrArg some (by omega)
      obtain ⟨happ, hpartner⟩ := slice?_beside front back
      rw [splitBytes?, lastPlace?_bytes_append front hback, split_append hback, if_neg (by decide)]
      simp only [hless, happ, hpartner, Option.bind_some, Option.map_some]
      by_cases hfirst : front = ""
      · rw [if_pos (by rw [hfirst]; rfl), if_pos (.inl hfirst)]
      · have hpos : front.utf8ByteSize ≠ 0 := mt String.utf8ByteSize_eq_zero_iff.1 hfirst
        by_cases hend : back = ""
        · have hzero : back.utf8ByteSize = 0 := String.utf8ByteSize_eq_zero_iff.2 hend
          rw [if_neg hpos, if_neg (by omega), if_pos (.inr hend)]
        · have hmore : back.utf8ByteSize ≠ 0 := mt String.utf8ByteSize_eq_zero_iff.1 hend
          rw [if_neg hpos, if_pos (by omega), if_neg (not_or.2 ⟨hfirst, hend⟩)]

/-- **Joining undone.** With partners, a text made of two ids is divided into them, and every other
text is an application id with the default partner: so is one whose last underscore is its first or
last character. There is one way at most to make a text of two ids. On the bytes of a text, any
text, the division never cuts a character or takes more away than there is. Without partners the
text is an application id. -/
theorem split_undoes_join (text default : String) :
    (∀ app partner, JoinedOf text app partner →
      split text true default = ⟨app, partner⟩ ∧
        ∀ app' partner', JoinedOf text app' partner' → app' = app ∧ partner' = partner) ∧
    ((∀ app partner, ¬ JoinedOf text app partner) → split text true default = ⟨text, default⟩) ∧
    (∀ app partner : String, app ≠ "" → partner ≠ "" → '_' ∉ partner.toList →
      split (app ++ "_" ++ partner) true default = ⟨app, partner⟩) ∧
    (∀ rest : String, text = "_" ++ rest → '_' ∉ rest.toList →
      split text true default = ⟨text, default⟩) ∧
    (∀ front : String, text = front ++ "_" → split text true default = ⟨text, default⟩) ∧
    (∀ allowPartner, splitBytes? text allowPartner default =
      some (split text allowPartner default)) ∧
    split text false default = ⟨text, ""⟩ := by
  refine ⟨fun app partner h => ⟨split_of_joinedOf h default, fun _ _ h' => h'.unique h⟩,
    fun h => split_of_not_joined h default,
    fun app partner happ hpartner hplain => split_of_joinedOf ⟨happ, hpartner, hplain, rfl⟩ default,
    fun rest htext hrest => ?_, fun front htext => ?_,
    fun allowPartner => splitBytes?_eq text allowPartner default, rfl⟩
  · have hsplit := @split_append "" rest hrest default
    rwa [if_pos (.inl rfl), String.empty_append, ← htext] at hsplit
  · have hsplit := @split_append front "" (by simp) default
    rwa [if_pos (.inr rfl), String.append_empty, ← htext] at hsplit

/-- A text with characters of two bytes and two underscores. -/
theorem split_undoes_join_wide :
    JoinedOf "é_ü_ö" "é_ü" "ö" ∧ split "é_ü_ö" true "acme" = ⟨"é_ü", "ö"⟩ ∧
      splitBytes? "é_ü_ö" true "acme" = some ⟨"é_ü", "ö"⟩ ∧
      split "_é" true "acme" = ⟨"_é", "acme"⟩ := by
  have hjoined : JoinedOf "é_ü_ö" "é_ü" "ö" := ⟨by decide, by decide, by decide, by decide⟩
  obtain ⟨hparts, -, -, -, -, hbytes, -⟩ := split_undoes_join "é_ü_ö" "acme"
  obtain ⟨-, -, -, hfirst, -⟩ := split_undoes_join "_é" "acme"
  have hsplit := (hparts _ _ hjoined).1
  exact ⟨hjoined, hsplit, hsplit ▸ hbytes true, hfirst "é" (by decide) (by decide)⟩

end Tenant

end EventRelay
