import TapSwitch.AudioPath

set_option autoImplicit false

/-!
# The audio path switch (`audiopathswitch.hh`, `audiopathswitch.cc`)

A `Switch` remembers which source and player are current, and which source is
waiting for the appliance to get ready.  Its operations call players and sources
over the bus; each call goes into the log of the operation.

The C++ helpers take the IDs they change by reference.  They are only ever passed
the members of the switch, so here they work on the switch directly.
-/

namespace TapSwitch

variable {V : Type}

/-- `Switch::ActivateResult` -/
inductive ActivateResult where
  | errorSourceUnknown
  | errorSourceFailed
  | errorPlayerUnknown
  | errorPlayerFailed
  | okUnchanged
  | okPlayerSame
  | okPlayerSameSourceDeferred
  | okPlayerSwitched
  | okPlayerSwitchedSourceDeferred
  deriving DecidableEq, Repr

/-- `Switch::ReleaseResult` -/
inductive ReleaseResult where
  | sourceDeselected
  | playerDeactivated
  | completeRelease
  | unchanged
  deriving DecidableEq, Repr

/-- `Switch::DeselectedAudioSourceResult` -/
inductive DeselectedAudioSourceResult where
  | none
  | deselectedActive
  | deselectedPending
  deriving DecidableEq, Repr

/-- `Switch::PendingActivation` -/
structure PendingActivation (V : Type) where
  /-- ID of the audio source to select when the appliance gets ready. -/
  sourceId : String := ""
  /-- Data passed by the caller when requesting the source. -/
  requestData : GVariantWrapper V := none
  /-- Result of the player deactivation/activation part of the switch. -/
  phaseOneResult : ActivateResult := .errorSourceUnknown
  deriving DecidableEq, Repr

namespace PendingActivation

/-- `PendingActivation::set()` -/
def set (_pending : PendingActivation V) (sourceId : String)
    (requestData : GVariantWrapper V) (result : ActivateResult) : PendingActivation V :=
  { sourceId, requestData, phaseOneResult := result }

/-- `PendingActivation::clear()`: the cleared state and the data moved out of it. -/
def clear (pending : PendingActivation V) : PendingActivation V × GVariantWrapper V :=
  ({ sourceId := "", requestData := none, phaseOneResult := .errorSourceUnknown },
    pending.requestData)

/-- `PendingActivation::have_pending_activation()` -/
def havePendingActivation (pending : PendingActivation V) : Bool :=
  pending.sourceId ≠ ""

/-- `PendingActivation::take_audio_source_id()` swaps the ID with the destination. -/
def takeAudioSourceId (pending : PendingActivation V) (dest : String) :
    PendingActivation V × String :=
  ({ pending with sourceId := dest }, pending.sourceId)

@[simp] theorem clear_fst (pending : PendingActivation V) : pending.clear.1 = {} := rfl

@[simp] theorem clear_snd (pending : PendingActivation V) :
    pending.clear.2 = pending.requestData := rfl

@[simp] theorem havePendingActivation_eq_true (pending : PendingActivation V) :
    pending.havePendingActivation = true ↔ pending.sourceId ≠ "" := by
  simp [havePendingActivation]

@[simp] theorem havePendingActivation_eq_false (pending : PendingActivation V) :
    pending.havePendingActivation = false ↔ pending.sourceId = "" := by
  simp [havePendingActivation]

end PendingActivation

/-- `AudioPath::Switch` -/
structure Switch (V : Type) where
  currentSourceId : String := ""
  currentPlayerId : String := ""
  /-- State while waiting for the appliance to get ready. -/
  pending : PendingActivation V := {}
  deriving DecidableEq, Repr

/-- What an operation works on: the switch, and the log of what it did so far. -/
structure Scope (V : Type) where
  switch : Switch V
  log : List (BusEntry V)

/-- Operations on the switch.  An operation that dereferences a null pointer ends
there, with what it did up to that point. -/
abbrev SwitchM (V : Type) : Type → Type := EStateM Fault (Scope V)

/-- Put an entry into the log. -/
def record (entry : BusEntry V) : SwitchM V Unit :=
  modify fun scope => { scope with log := scope.log ++ [entry] }

/-- Change the switch. -/
def modifySwitch (f : Switch V → Switch V) : SwitchM V Unit :=
  modify fun scope => { scope with switch := f scope.switch }

/-- `MSG_BUG_IF` -/
def msgBugIf (condition : Bool) : SwitchM V Unit :=
  if condition then record .bug else pure ()

/-- `msg_log_assert` -/
def msgLogAssert (condition : Bool) : SwitchM V Unit :=
  if condition then pure () else record .assertionFailed

/-- Make a synchronous call; `true` if it succeeded. -/
def callSync (outcomes : Outcomes) (call : Call V) : SwitchM V Bool := do
  record (.called call (outcomes call.method))
  return outcomes call.method

@[simp] theorem record_run (entry : BusEntry V) (scope : Scope V) :
    (record entry).run scope = .ok () { scope with log := scope.log ++ [entry] } := rfl

@[simp] theorem modifySwitch_run (f : Switch V → Switch V) (scope : Scope V) :
    (modifySwitch f).run scope = .ok () { scope with switch := f scope.switch } := rfl

@[simp] theorem callSync_run (outcomes : Outcomes) (call : Call V) (scope : Scope V) :
    (callSync outcomes call).run scope =
      .ok (outcomes call.method)
        { scope with log := scope.log ++ [.called call (outcomes call.method)] } := rfl

/-- `deactivate_player()` on `current_player_id_` -/
def deactivatePlayer (outcomes : Outcomes) (paths : Paths)
    (requestData : GVariantWrapper V) : SwitchM V Unit := do
  let playerId := (← get).switch.currentPlayerId
  if playerId = "" then
    return
  let oldPlayer ← deref .nullComponent (paths.lookupPlayer playerId)
  let proxy ← oldPlayer.getDbusProxy
  let _ ← callSync outcomes ⟨.deactivate, proxy, oldPlayer.id, requestData⟩
  modifySwitch fun sw => { sw with currentPlayerId := "" }

/-- `activate_player()` -/
def activatePlayer (outcomes : Outcomes) (player : Player)
    (requestData : GVariantWrapper V) : SwitchM V Bool := do
  let proxy ← player.getDbusProxy
  callSync outcomes ⟨.activate, proxy, player.id, requestData⟩

/-- `deselect_source()` on `current_source_id_` and `pending_` -/
def deselectSource (outcomes : Outcomes) (paths : Paths)
    (requestData : GVariantWrapper V) : SwitchM V DeselectedAudioSourceResult := do
  let sw := (← get).switch
  msgBugIf (sw.currentSourceId ≠ "" ∧ sw.pending.havePendingActivation)
  if sw.currentSourceId = "" ∧ ¬ sw.pending.havePendingActivation then
    return .none
  let deselectedId :=
    if sw.currentSourceId ≠ "" then sw.currentSourceId else sw.pending.sourceId
  let oldSource ← deref .nullComponent (paths.lookupSource deselectedId)
  let result :=
    if sw.currentSourceId = "" then .deselectedPending
    else DeselectedAudioSourceResult.deselectedActive
  let proxy ← oldSource.getDbusProxy
  let _ ← callSync outcomes ⟨.deselected, proxy, deselectedId, requestData⟩
  modifySwitch fun sw => { sw with currentSourceId := "", pending := sw.pending.clear.1 }
  return result

/-- `select_source()` -/
def selectSource (outcomes : Outcomes) (source : Source) (isFinalSelect : Bool)
    (requestData : GVariantWrapper V) : SwitchM V Bool := do
  let proxy ← source.getDbusProxy
  if isFinalSelect then
    callSync outcomes ⟨.selected, proxy, source.id, requestData⟩
  else
    callSync outcomes ⟨.selectedOnHold, proxy, source.id, requestData⟩

/-- What `activate_source()` returns, output parameters included.  The pointer
`player_id` refers to the current player's ID or to the ID of a registered player;
neither changes before the caller reads it. -/
structure Activation where
  result : ActivateResult
  playerId : Option String
  deselectedResult : DeselectedAudioSourceResult
  deriving DecidableEq, Repr

/-- The result code of a rejected or dropped request: was an activation pending? -/
def droppedPending (sw : Switch V) : DeselectedAudioSourceResult :=
  if sw.pending.havePendingActivation then .deselectedPending else .none

/-- `Switch::activate_source()` -/
def activateSource (outcomes : Outcomes) (paths : Paths) (sourceId : String)
    (selectSourceNow : Bool) (requestData : GVariantWrapper V) :
    SwitchM V Activation := do
  let sw := (← get).switch
  if sourceId = "" then
    let deselectedResult := droppedPending sw
    modifySwitch fun sw => { sw with pending := sw.pending.clear.1 }
    return ⟨.errorSourceUnknown, none, deselectedResult⟩
  if sourceId = sw.currentSourceId then
    msgLogAssert (¬ sw.pending.havePendingActivation)
    return ⟨.okUnchanged, some sw.currentPlayerId, .none⟩
  if sw.pending.havePendingActivation ∧ sourceId = sw.pending.sourceId then
    return ⟨.okPlayerSwitchedSourceDeferred, some sw.currentPlayerId, .none⟩
  let path := paths.lookupPath sourceId
  match path.2 with
  | none =>
      let result := match path.1 with
        | none => .errorSourceUnknown
        | some _ => ActivateResult.errorPlayerUnknown
      let deselectedResult := droppedPending sw
      modifySwitch fun sw => { sw with pending := sw.pending.clear.1 }
      return ⟨result, none, deselectedResult⟩
  | some player =>
      msgLogAssert path.1.isSome
      let playerId := player.id
      let deselectedResult ← deselectSource outcomes paths requestData
      let playersChanged := playerId ≠ (← get).switch.currentPlayerId
      if playersChanged then
        deactivatePlayer outcomes paths requestData
        if !(← activatePlayer outcomes player requestData) then
          return ⟨.errorPlayerFailed, some playerId, deselectedResult⟩
        modifySwitch fun sw => { sw with currentPlayerId := player.id }
      let source ← deref .nullComponent path.1
      if !(← selectSource outcomes source selectSourceNow requestData) then
        return ⟨.errorSourceFailed, some playerId, deselectedResult⟩
      let result :=
        if playersChanged then
          if selectSourceNow then .okPlayerSwitched else .okPlayerSwitchedSourceDeferred
        else
          if selectSourceNow then .okPlayerSame else ActivateResult.okPlayerSameSourceDeferred
      if selectSourceNow then
        modifySwitch fun sw => { sw with currentSourceId := source.id }
      else
        modifySwitch fun sw => { sw with pending := sw.pending.set source.id requestData result }
      return ⟨result, some playerId, deselectedResult⟩

/-- `Switch::complete_pending_source_activation()`; the output parameter is `none`
for the null pointer, else the string it points to before and after the call. -/
def completePendingSourceActivation (outcomes : Outcomes) (paths : Paths)
    (sourceId : Option String) : SwitchM V (ActivateResult × Option String) := do
  let pending := (← get).switch.pending
  if ¬ pending.havePendingActivation then
    return (.errorSourceUnknown, sourceId)
  let path := paths.lookupPath pending.sourceId
  let result := pending.phaseOneResult
  let (pending, sourceId) := match sourceId with
    | none => (pending, none)
    | some dest =>
        let (pending, dest) := pending.takeAudioSourceId dest
        (pending, some dest)
  let (pending, requestData) := pending.clear
  modifySwitch fun sw => { sw with pending }
  let source ← deref .nullComponent path.1
  if !(← selectSource outcomes source true requestData) then
    return (.errorSourceFailed, sourceId)
  modifySwitch fun sw => { sw with currentSourceId := source.id }
  return (result, sourceId)

/-- `Switch::cancel_pending_source_activation()`; `sourceId` is the string the
output parameter refers to, before and after the call. -/
def cancelPendingSourceActivation (outcomes : Outcomes) (paths : Paths)
    (sourceId : String) : SwitchM V (ActivateResult × String) := do
  let pending := (← get).switch.pending
  if ¬ pending.havePendingActivation then
    return (.errorSourceUnknown, sourceId)
  let (pending, sourceId) := pending.takeAudioSourceId sourceId
  let source := paths.lookupSource sourceId
  let (pending, requestData) := pending.clear
  modifySwitch fun sw => { sw with pending }
  let source ← deref .nullComponent source
  let proxy ← source.getDbusProxy
  let success ← callSync outcomes ⟨.deselected, proxy, sourceId, requestData⟩
  modifySwitch fun sw => { sw with currentSourceId := "" }
  if !success then
    return (.errorSourceFailed, sourceId)
  return (.okPlayerSwitched, sourceId)

/-- What `release_path()` returns, output parameters included. -/
structure Release where
  result : ReleaseResult
  playerId : Option String
  deselectedResult : DeselectedAudioSourceResult
  deriving DecidableEq, Repr

/-- `Switch::release_path()` -/
def releasePath (outcomes : Outcomes) (paths : Paths) (killPlayer : Bool)
    (requestData : GVariantWrapper V) : SwitchM V Release := do
  let sw := (← get).switch
  let haveDeselectedSource := sw.currentSourceId ≠ ""
  let haveDeactivatedPlayer := killPlayer ∧ sw.currentPlayerId ≠ ""
  let deselectedResult ← deselectSource outcomes paths requestData
  if haveDeactivatedPlayer then
    deactivatePlayer outcomes paths requestData
  let currentPlayerId := (← get).switch.currentPlayerId
  let playerId := if currentPlayerId = "" then none else some currentPlayerId
  let result :=
    if haveDeselectedSource then
      if haveDeactivatedPlayer then .completeRelease else .sourceDeselected
    else
      if haveDeactivatedPlayer then .playerDeactivated else ReleaseResult.unchanged
  return ⟨result, playerId, deselectedResult⟩

end TapSwitch
