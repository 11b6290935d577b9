set_option autoImplicit false

/-!
# Appliance state (`appliance.hh`, `appliance.cc`)

Power and audio path state are `Maybe<bool>` each.  That class comes from a
submodule which is not part of the repository, so the model is generic in it:
`MaybeBool` has just the operations the daemon uses.
-/

namespace TapSwitch

/-- The operations of `Maybe<bool>`. -/
class MaybeBool (M : Type) where
  /-- Default construction and `set_unknown()`. -/
  unknown : M
  /-- Assignment of a value. -/
  known : Bool → M
  /-- `operator==(bool)` -/
  is : M → Bool → Bool

/-- `Maybe<bool>` as an optional value: unknown values compare equal to nothing. -/
instance : MaybeBool (Option Bool) where
  unknown := none
  known := some
  is value b := value == some b

/-- What the daemon relies on: a `Maybe<bool>` holds a value or is unknown, and it compares
equal to a value exactly if it holds that value. -/
class LawfulMaybeBool (M : Type) [MaybeBool M] where
  /-- The value, if it is known. -/
  value? : M → Option Bool
  value?_unknown : value? MaybeBool.unknown = none
  value?_known : ∀ b, value? (MaybeBool.known b) = some b
  is_iff : ∀ m b, MaybeBool.is m b = true ↔ value? m = some b

instance : LawfulMaybeBool (Option Bool) where
  value? m := m
  value?_unknown := rfl
  value?_known _ := rfl
  is_iff _ _ := beq_iff_eq

/-- `AudioPath::Appliance` -/
structure Appliance (M : Type) where
  isUpAndRunning : M
  isReadyForPlayback : M

variable {M : Type} [MaybeBool M]

/-- `set_state()`: whether the state has changed, and the state. -/
def setState (state : M) (newState : Bool) : M × Bool :=
  if MaybeBool.is state newState then (state, false)
  else (MaybeBool.known newState, true)

namespace Appliance

/-- Nothing is known before the appliance reports. -/
def initial : Appliance M where
  isUpAndRunning := MaybeBool.unknown
  isReadyForPlayback := MaybeBool.unknown

def setPowerStateUnknown (appliance : Appliance M) : Appliance M :=
  { appliance with isUpAndRunning := MaybeBool.unknown }

def setSuspendMode (appliance : Appliance M) : Appliance M × Bool :=
  let (state, changed) := setState appliance.isUpAndRunning false
  ({ appliance with isUpAndRunning := state }, changed)

def setUpAndRunning (appliance : Appliance M) : Appliance M × Bool :=
  let (state, changed) := setState appliance.isUpAndRunning true
  ({ appliance with isUpAndRunning := state }, changed)

def setAudioPathUnknown (appliance : Appliance M) : Appliance M :=
  { appliance with isReadyForPlayback := MaybeBool.unknown }

def setAudioPathReady (appliance : Appliance M) : Appliance M × Bool :=
  let (state, changed) := setState appliance.isReadyForPlayback true
  ({ appliance with isReadyForPlayback := state }, changed)

def setAudioPathBlocked (appliance : Appliance M) : Appliance M × Bool :=
  let (state, changed) := setState appliance.isReadyForPlayback false
  ({ appliance with isReadyForPlayback := state }, changed)

section Known

variable [LawfulMaybeBool M]

/-- The appliance has last said that it is suspended. -/
def KnownSuspended (appliance : Appliance M) : Prop :=
  LawfulMaybeBool.value? appliance.isUpAndRunning = some false

/-- The appliance has last said that its audio path is blocked. -/
def KnownBlocked (appliance : Appliance M) : Prop :=
  LawfulMaybeBool.value? appliance.isReadyForPlayback = some false

/-- Setting a state makes it known, no matter whether it has changed. -/
theorem value?_setState (state : M) (newState : Bool) :
    LawfulMaybeBool.value? (setState state newState).1 = some newState := by
  unfold setState
  split
  · rename_i hsame
    exact (LawfulMaybeBool.is_iff _ _).mp hsame
  · exact LawfulMaybeBool.value?_known _

theorem setState_changed (state : M) (newState : Bool) :
    (setState state newState).2 = true ↔
      LawfulMaybeBool.value? state ≠ some newState := by
  rw [ne_eq, ← LawfulMaybeBool.is_iff]
  unfold setState
  split
  · rename_i hsame
    simp [hsame]
  · rename_i hother
    simp [hother]

end Known

end Appliance

end TapSwitch
