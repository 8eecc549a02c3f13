/-!
# Tenants

A tenant text is an application id, or an application id and a partner id joined by an underscore.
The last underscore divides it, unless it is the first or the last character.

* `Tenant.split`: the two ids of a tenant text.
* `Tenant.divide`: what stands before and after the last underscore.
* `divide_eq_some_iff`: the division is the only one whose second part has no underscore.
-/

namespace EventRelay

/-- An application id and a partner id. -/
structure Tenant where
  appId : String
  partnerId : String
  deriving DecidableEq, Repr

namespace Tenant

/-- The partner of a tenant text that names none. -/
def defaultPartner : String := "comcast"

/-- What stands before and after the last underscore. -/
def divide : List Char → Option (List Char × List Char)
  | [] => none
  | c :: rest =>
    match divide rest with
    | some (before, after) => some (c :: before, after)
    | none => if c = '_' then some ([], rest) else none

theorem divide_eq_none {cs : List Char} (h : '_' ∉ cs) : divide cs = none := by
  induction cs with
  | nil => rfl
  | cons c rest ih =>
    simp only [List.mem_cons, not_or] at h
    simp [divide, ih h.2, Ne.symm h.1]

theorem not_mem_of_divide_eq_none {cs : List Char} (h : divide cs = none) : '_' ∉ cs := by
  induction cs with
  | nil => simp
  | cons c rest ih =>
    simp only [divide] at h
    split at h
    · cases h
    · next hd =>
      split at h
      · cases h
      · next hc => simp [ih hd, Ne.symm hc]

theorem divide_join (before : List Char) {after : List Char} (h : '_' ∉ after) :
    divide (before ++ '_' :: after) = some (before, after) := by
  induction before with
  | nil => simp [divide, divide_eq_none h]
  | cons c rest ih => simp [divide, ih]

theorem join_of_divide {cs before after : List Char} (h : divide cs = some (before, after)) :
    cs = before ++ '_' :: after ∧ '_' ∉ after := by
  induction cs generalizing before after with
  | nil => simp [divide] at h
  | cons c rest ih =>
    simp only [divide] at h
    split at h
    · next hd =>
      cases h
      obtain ⟨hr, ha⟩ := ih hd
      exact ⟨by rw [List.cons_append, ← hr], ha⟩
    · next hd =>
      split at h
      · next hc =>
        cases h
        exact ⟨by simp [hc], not_mem_of_divide_eq_none hd⟩
      · cases h

/-- A text is divided exactly if it is two parts joined by an underscore of which the second has
none. -/
theorem divide_eq_some_iff {cs before after : List Char} :
    divide cs = some (before, after) ↔ cs = before ++ '_' :: after ∧ '_' ∉ after :=
  ⟨join_of_divide, fun ⟨hc, ha⟩ => hc ▸ divide_join before ha⟩

/-- The ids of a tenant text; the partner is empty when partners are not allowed. -/
def split (text : String) (allowPartner : Bool) (default : String) : Tenant :=
  if !allowPartner then ⟨text, ""⟩
  else match divide text.toList with
    | some (before, after) =>
      if before.isEmpty ∨ after.isEmpty then ⟨text, default⟩
      else ⟨String.ofList before, String.ofList after⟩
    | none => ⟨text, default⟩

/-- The application id of a tenant text. -/
def appIdOf (text : String) (allowPartner : Bool) : String :=
  (split text allowPartner defaultPartner).appId

/-- The partner id of a tenant text. -/
def partnerIdOf (text : String) (allowPartner : Bool) : String :=
  (split text allowPartner defaultPartner).partnerId

end Tenant
end EventRelay
