import EventRelay.Context.Basic

/-!
# Handles by their kind

A context hands a handle out only to who asks for the kind that it is of. Asked for another kind it
answers as if it held nothing under the name.

* `Handle.as?`: what a handle of a kind leads to.
* `Context.typed?`: the handle of a name, asked for by its kind.
* `isSome_typed?_iff`: asking succeeds exactly when the handle that is held is of the kind.
* `settings?_eq_typed?`, `observer_eq_typed?`, `hasTransport_eq_typed?`, `hasChecker_eq_typed?`: the
  handles that an instance itself asks for are asked for in this way.
-/

namespace EventRelay

/-- What a handle is. -/
inductive HandleKind where
  | settings
  | transport
  | checker
  | observer
  | word32
  | int64
  | flag
  | text
  deriving DecidableEq, Repr

/-- What the handles of a kind lead to. -/
def HandleKind.Target : HandleKind → Type
  | .settings => Settings
  | .transport => Unit
  | .checker => Unit
  | .observer => Observer
  | .word32 => UInt32
  | .int64 => Int64
  | .flag => Bool
  | .text => String

namespace Handle

/-- The kind of a handle. -/
def kind : Handle → HandleKind
  | .settings _ => .settings
  | .transport => .transport
  | .checker => .checker
  | .observer _ => .observer
  | .word32 _ => .word32
  | .int64 _ => .int64
  | .flag _ => .flag
  | .text _ => .text

/-- What a handle leads to if it is of a kind. -/
def as? : (kind : HandleKind) → Handle → Option kind.Target
  | .settings, .settings s => some s
  | .transport, .transport => some ()
  | .checker, .checker => some ()
  | .observer, .observer o => some o
  | .word32, .word32 n => some n
  | .int64, .int64 i => some i
  | .flag, .flag b => some b
  | .text, .text s => some s
  | _, _ => none

theorem isSome_as? (kind : HandleKind) (handle : Handle) :
    (handle.as? kind).isSome = decide (handle.kind = kind) := by
  cases kind <;> cases handle <;> rfl

end Handle

namespace Context

/-- The handle of a name, asked for by its kind. -/
def typed? (kind : HandleKind) (name : String) (c : Context) : Option kind.Target :=
  (c.handle? name).bind (Handle.as? kind)

/-- Asking succeeds exactly when the handle that is held is of the kind. -/
theorem isSome_typed?_iff (kind : HandleKind) (name : String) (c : Context) :
    (c.typed? kind name).isSome = true ↔ ∃ handle, c.handle? name = some handle ∧
      handle.kind = kind := by
  unfold typed?
  cases c.handle? name with
  | none => simp
  | some handle => simp [Handle.isSome_as?]

/-! ## The handles that an instance asks for -/

theorem settings?_eq_typed? (c : Context) : c.settings? = c.typed? .settings Key.settings := by
  unfold settings? typed?
  cases c.handle? Key.settings with
  | none => rfl
  | some handle => cases handle <;> rfl

theorem observer_eq_typed? (c : Context) :
    c.observer = (show Option Observer from c.typed? .observer Key.observer).getD .inert := by
  unfold observer typed?
  cases c.handle? Key.observer with
  | none => rfl
  | some handle => cases handle <;> rfl

theorem hasTransport_eq_typed? (c : Context) :
    c.hasTransport = (c.typed? .transport Key.httpTransport).isSome := by
  unfold hasTransport typed?
  cases c.handle? Key.httpTransport with
  | none => rfl
  | some handle => cases handle <;> rfl

theorem hasChecker_eq_typed? (c : Context) :
    c.hasChecker = (c.typed? .checker Key.duplicateChecker).isSome := by
  unfold hasChecker typed?
  cases c.handle? Key.duplicateChecker with
  | none => rfl
  | some handle => cases handle <;> rfl

end Context
end EventRelay
