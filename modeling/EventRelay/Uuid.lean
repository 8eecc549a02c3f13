import EventRelay.Text.Hex

/-!
# Random identifiers

An identifier is made from 128 random bits, of which six are overwritten by the version and the
variant, and written in lower-case digits in groups of 8, 4, 4, 4 and 12.

* `Uuid.ofBits`: the identifier of a number whose low 128 bits are random.
* `Uuid.isVersion4`: whether a text has that form.
* `isVersion4_mint`: an identifier that is minted has it.
-/

namespace EventRelay.Uuid

/-- The identifier of 128 random bits. -/
def ofBits (bits : Nat) : String :=
  let digits := Text.Hex.padded 32 (bits % Nat.pow 2 128)
  let variant := Text.Hex.digit (8 + bits / Nat.pow 2 60 % 4)
  String.ofList (digits.take 8 ++ ['-'] ++ (digits.drop 8).take 4 ++ ['-', '4'] ++
    (digits.drop 13).take 3 ++ ['-', variant] ++ (digits.drop 17).take 3 ++ ['-'] ++
    digits.drop 20)

/-- Whether a character is a lower-case hexadecimal digit. -/
def isDigit (c : Char) : Bool := ('0' ≤ c && c ≤ '9') || ('a' ≤ c && c ≤ 'f')

/-- The shape of an identifier, one test for each character. -/
def shape : List (Char → Bool) :=
  let dash : Char → Bool := (· == '-')
  List.replicate 8 isDigit ++ [dash] ++ List.replicate 4 isDigit ++ [dash, (· == '4')] ++
    List.replicate 3 isDigit ++ [dash, fun c => c == '8' || c == '9' || c == 'a' || c == 'b'] ++
    List.replicate 3 isDigit ++ [dash] ++ List.replicate 12 isDigit

/-- Whether the first characters of a text pass the tests. -/
def startsLike : List (Char → Bool) → List Char → Bool
  | [], _ => true
  | test :: tests, c :: rest => test c && startsLike tests rest
  | _ :: _, [] => false

/-- Whether a text is an identifier of this form. -/
def isVersion4 (s : String) : Bool := s.length == 36 && startsLike shape s.toList

/-- A supply of random bits and how many identifiers were made from it. -/
structure Supply where
  bits : Nat → Nat
  minted : Nat

/-- The next identifier of a supply. -/
def Supply.mint (s : Supply) : String × Supply :=
  (ofBits (s.bits s.minted), { s with minted := s.minted + 1 })

/-! ## The form of what is minted -/

theorem isDigit_digit : ∀ n < 16, isDigit (Text.Hex.digit n) = true := by decide

theorem startsLike_append {ts us : List (Char → Bool)} {cs ds : List Char}
    (h : cs.length = ts.length) :
    startsLike (ts ++ us) (cs ++ ds) = (startsLike ts cs && startsLike us ds) := by
  induction ts generalizing cs with
  | nil => simp [List.length_eq_zero_iff.1 h, startsLike]
  | cons t ts ih =>
    cases cs with
    | nil => cases h
    | cons c cs => simp [startsLike, ih (Nat.succ.inj h), Bool.and_assoc]

theorem startsLike_replicate {test : Char → Bool} {cs : List Char}
    (h : ∀ c ∈ cs, test c = true) {n : Nat} (hn : cs.length = n) :
    startsLike (List.replicate n test) cs = true := by
  subst hn
  induction cs with
  | nil => rfl
  | cons c cs ih =>
    simp only [List.length_cons, List.replicate_succ, startsLike, Bool.and_eq_true]
    exact ⟨h c (by simp), ih fun d hd => h d (List.mem_cons_of_mem c hd)⟩

/-- An identifier made of random bits has the form of one. -/
theorem isVersion4_ofBits (bits : Nat) : isVersion4 (ofBits bits) = true := by
  have hvariant : ∀ n < 4, (Text.Hex.digit (8 + n) == '8' || Text.Hex.digit (8 + n) == '9' ||
      Text.Hex.digit (8 + n) == 'a' || Text.Hex.digit (8 + n) == 'b') = true := by decide
  have hvariant := hvariant (bits / Nat.pow 2 60 % 4) (Nat.mod_lt _ (by decide))
  have hlen := Text.Hex.length_padded 32 (bits % Nat.pow 2 128)
  have hdigits : ∀ c ∈ Text.Hex.padded 32 (bits % Nat.pow 2 128), isDigit c = true := by
    intro c hc
    obtain ⟨m, hm, rfl⟩ := Text.Hex.eq_digit_of_mem_padded hc
    exact isDigit_digit m hm
  unfold isVersion4 ofBits shape
  dsimp only
  generalize Text.Hex.padded 32 (bits % Nat.pow 2 128) = digits at hlen hdigits ⊢
  generalize Text.Hex.digit (8 + bits / Nat.pow 2 60 % 4) = variant at hvariant ⊢
  -- Each group of digits is a part of the number, and passes the tests of its group.
  have hgroup : ∀ {n : Nat} {group : List Char}, (∀ c ∈ group, c ∈ digits) → group.length = n →
      startsLike (List.replicate n isDigit) group = true :=
    fun hsub hn => startsLike_replicate (fun c hc => hdigits c (hsub c hc)) hn
  have htake : ∀ {m n : Nat}, ∀ c ∈ (digits.drop m).take n, c ∈ digits :=
    fun c hc => List.mem_of_mem_drop (List.mem_of_mem_take hc)
  rw [Bool.and_eq_true]
  constructor
  · rw [String.length_ofList]
    simp only [List.length_append, List.length_take, List.length_drop, hlen, List.length_cons,
      List.length_nil]
    rfl
  · rw [String.toList_ofList]
    repeat rw [startsLike_append (by simp [hlen])]
    simp only [Bool.and_eq_true]
    refine ⟨⟨⟨⟨⟨⟨⟨⟨?_, rfl⟩, ?_⟩, rfl⟩, ?_⟩, ?_⟩, ?_⟩, rfl⟩, ?_⟩
    · exact hgroup (fun c hc => List.mem_of_mem_take hc) (by simp [hlen])
    · exact hgroup htake (by simp [hlen])
    · exact hgroup htake (by simp [hlen])
    · simpa [startsLike] using hvariant
    · exact hgroup htake (by simp [hlen])
    · exact hgroup (fun c hc => List.mem_of_mem_drop hc) (by simp [hlen])

/-- An identifier that is minted has the form of one. -/
theorem isVersion4_mint (s : Supply) : isVersion4 s.mint.1 = true := isVersion4_ofBits _

end EventRelay.Uuid
