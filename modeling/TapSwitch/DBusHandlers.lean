import TapSwitch.Appliance
import TapSwitch.AudioPathSwitch

set_option autoImplicit false

/-!
# The D-Bus handlers (`dbus_handlers.hh`, `dbus_handlers.cc`)

A handler works on the `HandlerData` and runs to completion before the next one
starts.  What it does towards the bus goes into the log: the calls made by the
audio path switch, replies, signals, and the references taken and dropped.

The D-Bus objects and method invocations that GLib passes to the handlers are never
null; they are numbers here.  Proxies are created asynchronously: the closure that
waits for a proxy is a `Creation`, and running it is an event of its own.  Trace
output is left out.
-/

namespace TapSwitch

/-- The codes of `G_DBUS_ERROR` that are used. -/
inductive GDBusError where
  | failed
  | invalidArgs
  | accessDenied
  deriving DecidableEq, Repr

/-- The ways to finish a method invocation. -/
inductive Reply where
  | error (code : GDBusError) (message : String)
  | registerPlayer
  | registerSource
  | requestSource (playerId : String) (switched : Bool)
  | releasePath
  | getActivePlayer (playerId : String)
  | getPaths (usable incomplete : List (String × String))
  | getCurrentPath (sourceId playerId : String)
  | getPlayerInfo (name busName objectPath : String)
  | getSourceInfo (name playerId busName objectPath : String)
  | setReadyState
  | getState (state : UInt8)
  deriving DecidableEq, Repr

/-- The signals of `de.tahifi.AudioPath.Manager`. -/
inductive Signal (V : Type) where
  | playerRegistered (playerId playerName : String)
  | pathAvailable (sourceId playerId : String)
  | pathActivated (sourceId playerId : String) (requestData : GVariantWrapper V)
  | pathDeferred (sourceId playerId : String)
  | pathReactivated (sourceId playerId : String) (requestData : GVariantWrapper V)
  deriving DecidableEq, Repr

/-- What references are counted for. -/
inductive Handle where
  | object (object : Nat)
  | invocation (invocation : Nat)
  deriving DecidableEq, Repr

/-- One thing a handler did. -/
inductive Entry (V : Type) where
  /-- Something the audio path switch did. -/
  | bus (entry : BusEntry V)
  | replied (invocation : Nat) (reply : Reply)
  | emitted (object : Nat) (signal : Signal V)
  /-- `g_object_ref()` -/
  | referenced (handle : Handle)
  /-- `g_object_unref()` -/
  | unreferenced (handle : Handle)
  deriving DecidableEq, Repr

/-- `HandlerData::Pending` -/
structure Pending (V : Type) where
  object : Nat
  invocation : Nat
  requestData : GVariantWrapper V
  deriving DecidableEq, Repr

/-- `DBus::HandlerData` -/
structure HandlerData (M V : Type) where
  audioPaths : Paths
  audioPathSwitch : Switch V
  applianceState : Appliance M
  pendingAudioSourceActivations : List (Pending V)

/-- A registration that waits for its proxy: what the closure has captured, and what
the proxy is created for. -/
inductive Creation where
  | player (object invocation : Nat) (playerId playerName dest path : String)
  | source (object invocation : Nat) (sourceId sourceName playerId dest path : String)
  deriving DecidableEq, Repr

/-- The daemon between two handlers. -/
structure Daemon (M V : Type) where
  data : HandlerData M V
  /-- The proxy creations that have not completed yet. -/
  creations : List Creation
  /-- Everything done so far. -/
  log : List (Entry V)
  /-- The number of events handled so far, which is the next invocation's number. -/
  served : Nat

/-- Handlers.  A handler that dereferences a null pointer ends there. -/
abbrev HandlerM (M V : Type) : Type → Type := EStateM Fault (Daemon M V)

variable {M V : Type}

def write (entries : List (Entry V)) : HandlerM M V Unit :=
  modify fun d => { d with log := d.log ++ entries }

def modifyData (f : HandlerData M V → HandlerData M V) : HandlerM M V Unit :=
  modify fun d => { d with data := f d.data }

/-- `tdbus_aupath_*_complete_*()` -/
def complete (invocation : Nat) (reply : Reply) : HandlerM M V Unit :=
  write [.replied invocation reply]

/-- `g_dbus_method_invocation_return_error()` -/
def returnError (invocation : Nat) (code : GDBusError) (message : String) :
    HandlerM M V Unit :=
  write [.replied invocation (.error code message)]

/-- `tdbus_aupath_manager_emit_*()` -/
def emit (object : Nat) (signal : Signal V) : HandlerM M V Unit :=
  write [.emitted object signal]

/-- The daemon after an operation of its switch. -/
def Daemon.absorb (d : Daemon M V) (scope : Scope V) : Daemon M V :=
  { d with
    data := { d.data with audioPathSwitch := scope.switch }
    log := d.log ++ scope.log.map .bus }

/-- Carry out an operation of the audio path switch. -/
def onSwitch {α : Type} (op : SwitchM V α) : HandlerM M V α := fun d =>
  match op.run ⟨d.data.audioPathSwitch, []⟩ with
  | .ok a scope => .ok a (d.absorb scope)
  | .error fault scope => .error fault (d.absorb scope)

@[simp] theorem write_run (entries : List (Entry V)) (d : Daemon M V) :
    (write entries).run d = .ok () { d with log := d.log ++ entries } := rfl

@[simp] theorem modifyData_run (f : HandlerData M V → HandlerData M V) (d : Daemon M V) :
    (modifyData f).run d = .ok () { d with data := f d.data } := rfl

@[simp] theorem complete_run (invocation : Nat) (reply : Reply) (d : Daemon M V) :
    (complete invocation reply).run d =
      .ok () { d with log := d.log ++ [.replied invocation reply] } := rfl

@[simp] theorem returnError_run (invocation : Nat) (code : GDBusError) (message : String)
    (d : Daemon M V) :
    (returnError invocation code message).run d =
      .ok () { d with log := d.log ++ [.replied invocation (.error code message)] } := rfl

@[simp] theorem emit_run (object : Nat) (signal : Signal V) (d : Daemon M V) :
    (emit object signal).run d =
      .ok () { d with log := d.log ++ [.emitted object signal] } := rfl

theorem onSwitch_run {α : Type} (op : SwitchM V α) (d : Daemon M V) :
    (onSwitch op).run d =
      match op.run ⟨d.data.audioPathSwitch, []⟩ with
      | .ok a scope => .ok a (d.absorb scope)
      | .error fault scope => .error fault (d.absorb scope) := rfl

/-! ## Registration -/

/-- `register_player_bottom_half()` -/
def registerPlayerBottomHalf (object invocation : Nat) (proxy : Option Proxy)
    (playerId playerName : String) : HandlerM M V Unit := do
  let (paths, addResult) := (← get).data.audioPaths.addPlayer ⟨playerId, playerName, proxy⟩
  modifyData fun data => { data with audioPaths := paths }
  complete invocation .registerPlayer
  emit object (.playerRegistered playerId playerName)
  match addResult with
  | .newComponent | .updatedComponent => pure ()
  | .newPath | .updatedPath =>
      (paths.forEach .completePaths).forM fun path => do
        let player ← deref .nullComponent path.2
        if player.id = playerId then
          let source ← deref .nullComponent path.1
          emit object (.pathAvailable source.id playerId)

/-- `dbusmethod_aupath_register_player()`, called by `dest` -/
def registerPlayer (object invocation : Nat) (playerId playerName path dest : String) :
    HandlerM M V Unit := do
  if playerId = "" ∨ playerName = "" ∨ path = "" then
    returnError invocation .invalidArgs "Empty argument"
  else
    modify fun d =>
      { d with creations :=
          d.creations ++ [.player object invocation playerId playerName dest path] }

/-- `register_source_bottom_half()` -/
def registerSourceBottomHalf (object invocation : Nat) (proxy : Option Proxy)
    (sourceId sourceName playerId : String) : HandlerM M V Unit := do
  let (paths, addResult) :=
    (← get).data.audioPaths.addSource ⟨sourceId, sourceName, playerId, proxy⟩
  modifyData fun data => { data with audioPaths := paths }
  complete invocation .registerSource
  match addResult with
  | .newComponent | .updatedComponent => pure ()
  | .newPath | .updatedPath => emit object (.pathAvailable sourceId playerId)

/-- `dbusmethod_aupath_register_source()`, called by `dest` -/
def registerSource (object invocation : Nat)
    (sourceId sourceName playerId path dest : String) : HandlerM M V Unit := do
  if sourceId = "" ∨ sourceName = "" ∨ playerId = "" ∨ path = "" then
    returnError invocation .invalidArgs "Empty argument"
  else
    modify fun d =>
      { d with creations := d.creations ++
          [.source object invocation sourceId sourceName playerId dest path] }

/-- `mk_proxy_done()`: the closure gets the proxy, or the null pointer if the proxy
could not be created. -/
def mkProxyDone (creation : Creation) (success : Bool) : HandlerM M V Unit :=
  match creation with
  | .player object invocation playerId playerName dest path =>
      let proxy := if success then some ⟨invocation, dest, path⟩ else none
      registerPlayerBottomHalf object invocation proxy playerId playerName
  | .source object invocation sourceId sourceName playerId dest path =>
      let proxy := if success then some ⟨invocation, dest, path⟩ else none
      registerSourceBottomHalf object invocation proxy sourceId sourceName playerId

/-! ## Requesting and releasing paths -/

/-- `emit_path_switch_signal()` -/
def emitPathSwitchSignal (object : Nat) (sourceId : String) (playerId : Option String)
    (requestData : GVariantWrapper V) (success isDeferred : Bool) : HandlerM M V Unit := do
  if success then
    if playerId.isNone then write [.bus .assertionFailed]
    let playerId ← deref .nullPlayerId playerId
    if isDeferred then
      emit object (.pathDeferred sourceId playerId)
    else
      emit object (.pathActivated sourceId playerId requestData)
  else if isDeferred then
    emit object (.pathDeferred "" (playerId.getD ""))
  else
    emit object (.pathActivated "" (playerId.getD "") requestData)

/-- `std::unordered_map<tdbusaupathManager *, GVariantWrapper>`, in the order of
insertion. -/
abbrev ManagerObjects (V : Type) : Type := List (Nat × GVariantWrapper V)

/-- The unspecified order in which such a map is iterated over. -/
structure IterationOrder (V : Type) where
  arrange : ManagerObjects V → ManagerObjects V
  perm : ∀ objects, (arrange objects).Perm objects

/-- Iterating in the order of insertion. -/
def IterationOrder.insertion : IterationOrder V where
  arrange objects := objects
  perm _ := .refl _

/-- `complete_pending_call()`; returns the map `manager_objects` refers to. -/
def completePendingCall (pending : Pending V) (playerId : String) (haveSwitched : Bool)
    (errorCode : GDBusError) (errorMessage : Option String)
    (managerObjects : Option (ManagerObjects V)) (suppressActivatedSignal : Bool) :
    HandlerM M V (Option (ManagerObjects V)) := do
  match errorMessage with
  | none => complete pending.invocation (.requestSource playerId haveSwitched)
  | some message => returnError pending.invocation errorCode message
  let managerObjects ← match managerObjects with
    | none => pure none
    | some objects =>
        if !suppressActivatedSignal ∧ (objects.lookup pending.object).isNone then do
          write [.referenced (.object pending.object)]
          pure (some (objects ++ [(pending.object, pending.requestData)]))
        else pure (some objects)
  write [.unreferenced (.object pending.object)]
  write [.unreferenced (.invocation pending.invocation)]
  return managerObjects

/-- `fail_all_pending_calls()` -/
def failAllPendingCalls (errorMessage : String) : HandlerM M V Unit := do
  let data := (← get).data
  data.pendingAudioSourceActivations.forM fun p => do
    let _ ← completePendingCall p data.audioPathSwitch.currentPlayerId false .failed
      (some errorMessage) none true
  modifyData fun data => { data with pendingAudioSourceActivations := [] }

/-- `is_audio_path_enable_allowed()` -/
def isAudioPathEnableAllowed [MaybeBool M] (powerState audioState : M) : Bool :=
  !(MaybeBool.is powerState false || MaybeBool.is audioState false)

/-- Is the appliance, as far as known, ready to play? -/
def Appliance.enableAllowed [MaybeBool M] (appliance : Appliance M) : Bool :=
  isAudioPathEnableAllowed appliance.isUpAndRunning appliance.isReadyForPlayback

/-- The local variables of `dbusmethod_aupath_request_source()`. -/
structure RequestFlags where
  selectSourceNow : Bool
  success : Bool := false
  suppressActivatedSignal : Bool := false
  isActivationDeferred : Bool := false
  emitReactivation : Bool := false

/-- `dbusmethod_aupath_request_source()` -/
def requestSource [MaybeBool M] (outcomes : Outcomes) (object invocation : Nat)
    (sourceId : String) (requestData : GVariantWrapper V) : HandlerM M V Unit := do
  let data := (← get).data
  let selectSourceNow := data.applianceState.enableAllowed
  let flags : RequestFlags := { selectSourceNow }
  let activation ← onSwitch
    (activateSource outcomes data.audioPaths sourceId selectSourceNow requestData)
  let flags ← match activation.result with
    | .errorSourceUnknown => do
        returnError invocation .invalidArgs "Audio source unknown"
        pure { flags with suppressActivatedSignal := true }
    | .errorSourceFailed => do
        returnError invocation .invalidArgs "Audio source process failed"
        pure flags
    | .errorPlayerUnknown => do
        returnError invocation .invalidArgs "No player associated"
        pure { flags with suppressActivatedSignal := true }
    | .errorPlayerFailed => do
        returnError invocation .invalidArgs "Player process failed"
        pure flags
    | .okUnchanged => do
        let playerId ← deref .nullPlayerId activation.playerId
        complete invocation (.requestSource playerId false)
        pure { flags with
          success := true
          selectSourceNow := true
          suppressActivatedSignal := true
          emitReactivation := true }
    | .okPlayerSameSourceDeferred | .okPlayerSwitchedSourceDeferred =>
        pure { flags with success := true, isActivationDeferred := true }
    | .okPlayerSame => do
        let playerId ← deref .nullPlayerId activation.playerId
        complete invocation (.requestSource playerId false)
        pure { flags with success := true }
    | .okPlayerSwitched => do
        let playerId ← deref .nullPlayerId activation.playerId
        complete invocation (.requestSource playerId true)
        pure { flags with success := true }
  match activation.deselectedResult with
  | .none | .deselectedActive => pure ()
  | .deselectedPending =>
      failAllPendingCalls ("Canceled pending audio source activation because " ++
        "a different source has been requested")
  if flags.success then
    if flags.selectSourceNow then
      if flags.emitReactivation then
        let playerId ← deref .nullPlayerId activation.playerId
        emit object (.pathReactivated sourceId playerId requestData)
    else
      write [.referenced (.object object)]
      write [.referenced (.invocation invocation)]
      modifyData fun data =>
        { data with pendingAudioSourceActivations :=
            data.pendingAudioSourceActivations ++ [⟨object, invocation, requestData⟩] }
  if !flags.suppressActivatedSignal then
    emitPathSwitchSignal object sourceId activation.playerId requestData flags.success
      flags.isActivationDeferred

/-- `dbusmethod_aupath_release_path()` -/
def releasePathHandler (outcomes : Outcomes) (object invocation : Nat)
    (deactivatePlayer : Bool) (requestData : GVariantWrapper V) : HandlerM M V Unit := do
  let data := (← get).data
  let release ← onSwitch
    (releasePath outcomes data.audioPaths deactivatePlayer requestData)
  let suppressActivatedSignal := match release.result with
    | .sourceDeselected | .playerDeactivated | .completeRelease => false
    | .unchanged => true
  match release.deselectedResult with
  | .none | .deselectedActive => pure ()
  | .deselectedPending =>
      failAllPendingCalls ("Canceled pending audio source activation because " ++
        "the audio path been released")
  complete invocation .releasePath
  if !suppressActivatedSignal then
    emit object (.pathActivated "" (release.playerId.getD "") requestData)

/-! ## The appliance gets ready, or it does not -/

/-- `emit_path_activated()` -/
def emitPathActivated (managerObject : Nat) (sourceId : String)
    (requestData : GVariantWrapper V) (success : Bool) : HandlerM M V Unit := do
  let playerId := (← get).data.audioPathSwitch.currentPlayerId
  if success then
    emit managerObject (.pathActivated sourceId playerId requestData)
  else
    emit managerObject (.pathActivated "" playerId requestData)
  write [.unreferenced (.object managerObject)]

/-- `complete_all_pending_calls()` -/
def completeAllPendingCalls (order : IterationOrder V) (sourceId : String)
    (success suppressActivatedSignal haveSwitched : Bool) (errorCode : GDBusError)
    (errorMessage : Option String) (afterCompletion : Option (HandlerM M V Unit)) :
    HandlerM M V Unit := do
  let data := (← get).data
  let managerObjects ← data.pendingAudioSourceActivations.foldlM
    (fun objects p => completePendingCall p data.audioPathSwitch.currentPlayerId
      haveSwitched errorCode errorMessage objects suppressActivatedSignal)
    (some [])
  match afterCompletion with
  | none => pure ()
  | some callback => callback
  modifyData fun data => { data with pendingAudioSourceActivations := [] }
  (order.arrange (managerObjects.getD [])).forM fun m =>
    emitPathActivated m.1 sourceId m.2 success

/-- `process_pending_audio_source_activation()` -/
def processPendingAudioSourceActivation (outcomes : Outcomes) (order : IterationOrder V)
    (invocation : Nat) : HandlerM M V Unit := do
  let data := (← get).data
  let (result, sourceId) ← onSwitch
    (completePendingSourceActivation outcomes data.audioPaths (some ""))
  let sourceId := sourceId.getD ""
  match result with
  | .errorSourceUnknown => complete invocation .setReadyState
  | .errorSourceFailed =>
      completeAllPendingCalls order sourceId false false false .invalidArgs
        (some "Source process failed") none
  | .errorPlayerUnknown | .errorPlayerFailed =>
      completeAllPendingCalls order sourceId false false false .invalidArgs
        (some "Unexpected result while completing pending audio source activation")
        (some (returnError invocation .invalidArgs ("Unexpected result " ++
          toString result.ctorIdx ++
          " while completing pending audio source activation")))
  | .okUnchanged | .okPlayerSame | .okPlayerSameSourceDeferred =>
      completeAllPendingCalls order sourceId true (result = .okUnchanged) false .failed
        none (some (complete invocation .setReadyState))
  | .okPlayerSwitched | .okPlayerSwitchedSourceDeferred =>
      completeAllPendingCalls order sourceId true false true .failed none
        (some (complete invocation .setReadyState))

/-- `cancel_pending_audio_source_activation()` -/
def cancelPendingAudioSourceActivation (outcomes : Outcomes)
    (order : IterationOrder V) : HandlerM M V Unit := do
  let data := (← get).data
  let (result, sourceId) ← onSwitch
    (cancelPendingSourceActivation outcomes data.audioPaths "")
  match result with
  | .errorSourceUnknown => pure ()
  | .errorSourceFailed | .okPlayerSwitched =>
      completeAllPendingCalls order sourceId false true false .accessDenied
        (some "Canceled audio source activation") none
  | .errorPlayerUnknown | .errorPlayerFailed | .okUnchanged | .okPlayerSame
  | .okPlayerSameSourceDeferred | .okPlayerSwitchedSourceDeferred =>
      write [.bus .bug]

/-- The first half of `dbusmethod_appliance_set_ready_state()`: the new appliance
state, and whether it has just been suspended. -/
def readAppliance [MaybeBool M] (appliance : Appliance M) (audioState powerState : UInt8) :
    Appliance M × Bool :=
  let (appliance, suspended) := match powerState with
    | 1 => appliance.setSuspendMode
    | 2 => (appliance.setUpAndRunning.1, false)
    | _ => (appliance.setPowerStateUnknown, false)
  let appliance := match audioState with
    | 1 => appliance.setAudioPathBlocked.1
    | 2 => appliance.setAudioPathReady.1
    | _ => appliance.setAudioPathUnknown
  (appliance, suspended)

/-- `dbusmethod_appliance_set_ready_state()` -/
def setReadyState [MaybeBool M] (outcomes : Outcomes) (order : IterationOrder V)
    (invocation : Nat) (audioState powerState : UInt8) : HandlerM M V Unit := do
  let (appliance, suspended) :=
    readAppliance (← get).data.applianceState audioState powerState
  modifyData fun data => { data with applianceState := appliance }
  if appliance.enableAllowed then
    processPendingAudioSourceActivation outcomes order invocation
  else
    if suspended then
      cancelPendingAudioSourceActivation outcomes order
    complete invocation .setReadyState

/-! ## Queries -/

/-- `dbusmethod_aupath_get_active_player()` -/
def getActivePlayer (invocation : Nat) (sourceId : String) : HandlerM M V Unit := do
  let sw := (← get).data.audioPathSwitch
  if sourceId ≠ "" ∧ sw.currentSourceId ≠ sourceId then
    complete invocation (.getActivePlayer "")
  else
    complete invocation (.getActivePlayer sw.currentPlayerId)

/-- `dbusmethod_aupath_get_paths()` -/
def getPaths (invocation : Nat) : HandlerM M V Unit := do
  let isUsable (path : Paths.Path) := path.1.isSome ∧ path.2.isSome
  let ids (path : Paths.Path) := ((path.1.map (·.id)).getD "", (path.2.map (·.id)).getD "")
  let all := (← get).data.audioPaths.forEach .any
  complete invocation (.getPaths
    ((all.filter fun path => isUsable path).map ids)
    ((all.filter fun path => ¬ isUsable path).map ids))

/-- `dbusmethod_aupath_get_current_path()` -/
def getCurrentPath (invocation : Nat) : HandlerM M V Unit := do
  let sw := (← get).data.audioPathSwitch
  complete invocation (.getCurrentPath sw.currentSourceId sw.currentPlayerId)

/-- `dbusmethod_aupath_get_player_info()` -/
def getPlayerInfo (invocation : Nat) (playerId : String) : HandlerM M V Unit := do
  match (← get).data.audioPaths.lookupPlayer playerId with
  | none =>
      returnError invocation .failed ("Audio player \"" ++ playerId ++ "\" not registered")
  | some p =>
      let proxy ← p.getDbusProxy
      complete invocation (.getPlayerInfo p.name proxy.name proxy.objectPath)

/-- `dbusmethod_aupath_get_source_info()` -/
def getSourceInfo (invocation : Nat) (sourceId : String) : HandlerM M V Unit := do
  match (← get).data.audioPaths.lookupSource sourceId with
  | none =>
      returnError invocation .failed ("Audio source \"" ++ sourceId ++ "\" not registered")
  | some s =>
      let proxy ← s.getDbusProxy
      complete invocation (.getSourceInfo s.name s.playerId proxy.name proxy.objectPath)

/-- `dbusmethod_appliance_get_state()` -/
def getState [MaybeBool M] (invocation : Nat) : HandlerM M V Unit := do
  let state := (← get).data.applianceState.isReadyForPlayback
  let result : UInt8 :=
    if MaybeBool.is state false then 0 else if MaybeBool.is state true then 1 else 2
  complete invocation (.getState result)

end TapSwitch
