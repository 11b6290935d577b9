import TapSwitch.DBusHandlers
import TapSwitch.Enumeration
import TapSwitch.SwitchBehaviour

set_option autoImplicit false

/-!
# What the handlers do

For each handler, the daemon it leaves and exactly what it appends to the log.  The
loops over the queue are solved here once; later files speak about the queue, the
replies and the signals as wholes.
-/

namespace TapSwitch

variable {M V : Type}

/-- The calls waiting for the pending activation. -/
abbrev Daemon.queue (d : Daemon M V) : List (Pending V) :=
  d.data.pendingAudioSourceActivations

/-- The ID of the source whose activation is pending. -/
abbrev Daemon.pendingId (d : Daemon M V) : String :=
  d.data.audioPathSwitch.pending.sourceId

/-! ## Parts of the log -/

def Entry.bus? : Entry V → Option (BusEntry V)
  | .bus entry => some entry
  | _ => none

def Entry.reply? : Entry V → Option (Nat × Reply)
  | .replied invocation reply => some (invocation, reply)
  | _ => none

def Entry.signal? : Entry V → Option (Signal V)
  | .emitted _ signal => some signal
  | _ => none

/-- What the audio path switch has done. -/
def busLog (log : List (Entry V)) : List (BusEntry V) := log.filterMap Entry.bus?

/-- The replies, with the invocations they finish. -/
def replies (log : List (Entry V)) : List (Nat × Reply) := log.filterMap Entry.reply?

/-- The signals, no matter through which object they were emitted. -/
def signals (log : List (Entry V)) : List (Signal V) := log.filterMap Entry.signal?

section Parts

variable (log more : List (Entry V)) (entry : Entry V)

@[simp] theorem busLog_nil : busLog ([] : List (Entry V)) = [] := rfl

@[simp] theorem replies_nil : replies ([] : List (Entry V)) = [] := rfl

@[simp] theorem signals_nil : signals ([] : List (Entry V)) = [] := rfl

@[simp] theorem busLog_append : busLog (log ++ more) = busLog log ++ busLog more :=
  List.filterMap_append

@[simp] theorem replies_append : replies (log ++ more) = replies log ++ replies more :=
  List.filterMap_append

@[simp] theorem signals_append : signals (log ++ more) = signals log ++ signals more :=
  List.filterMap_append

@[simp] theorem busLog_cons :
    busLog (entry :: log) = entry.bus?.toList ++ busLog log := by
  cases entry <;> rfl

@[simp] theorem replies_cons :
    replies (entry :: log) = entry.reply?.toList ++ replies log := by
  cases entry <;> rfl

@[simp] theorem signals_cons :
    signals (entry :: log) = entry.signal?.toList ++ signals log := by
  cases entry <;> rfl

attribute [simp] Entry.bus? Entry.reply? Entry.signal?

variable (es : List (BusEntry V))

@[simp] theorem busLog_map_bus : busLog (es.map .bus) = es := by
  simp [busLog, List.filterMap_map, Function.comp_def]

@[simp] theorem replies_map_bus : replies (es.map .bus) = [] := by
  simp [replies, List.filterMap_map, Function.comp_def]

@[simp] theorem signals_map_bus : signals (es.map .bus) = [] := by
  simp [signals, List.filterMap_map, Function.comp_def]

variable (invocation object : Nat) (rs : List Reply) (ss : List (Signal V))

@[simp] theorem busLog_map_replied :
    busLog (rs.map (.replied invocation) : List (Entry V)) = [] := by
  simp [busLog, List.filterMap_map, Function.comp_def]

@[simp] theorem replies_map_replied :
    replies (rs.map (.replied invocation) : List (Entry V)) = rs.map (invocation, ·) := by
  simp [replies, List.filterMap_map, Function.comp_def]

@[simp] theorem signals_map_replied :
    signals (rs.map (.replied invocation) : List (Entry V)) = [] := by
  simp [signals, List.filterMap_map, Function.comp_def]

@[simp] theorem busLog_map_emitted : busLog (ss.map (.emitted object)) = [] := by
  simp [busLog, List.filterMap_map, Function.comp_def]

@[simp] theorem replies_map_emitted : replies (ss.map (.emitted object)) = [] := by
  simp [replies, List.filterMap_map, Function.comp_def]

@[simp] theorem signals_map_emitted : signals (ss.map (.emitted object)) = ss := by
  simp [signals, List.filterMap_map, Function.comp_def]

end Parts

/-! ## Answering queued calls -/

/-- Does this call enter its manager object into the map? -/
def collects (suppress : Bool) (objects : ManagerObjects V) (p : Pending V) : Bool :=
  !suppress && (objects.lookup p.object).isNone

/-- The map after a queued call has been answered. -/
def collect (suppress : Bool) (objects : ManagerObjects V) (p : Pending V) :
    ManagerObjects V :=
  if collects suppress objects p then objects ++ [(p.object, p.requestData)] else objects

/-- What answering one queued call does. -/
def answerEntry (reply : Reply) (p : Pending V) (collected : Bool) : List (Entry V) :=
  .replied p.invocation reply ::
    ((if collected then [.referenced (.object p.object)] else []) ++
      [.unreferenced (.object p.object), .unreferenced (.invocation p.invocation)])

/-- What answering all queued calls does. -/
def answerEntries (reply : Reply) (suppress : Bool) :
    ManagerObjects V → List (Pending V) → List (Entry V)
  | _, [] => []
  | objects, p :: rest =>
      answerEntry reply p (collects suppress objects p) ++
        answerEntries reply suppress (collect suppress objects p) rest

section AnswerEntries

variable (reply : Reply) (suppress : Bool) (objects : ManagerObjects V)
  (queue : List (Pending V))

@[simp] theorem busLog_answerEntries :
    busLog (answerEntries reply suppress objects queue) = [] := by
  induction queue generalizing objects with
  | nil => rfl
  | cons p rest ih =>
      cases h : collects suppress objects p <;> simp [answerEntries, answerEntry, h, ih]

@[simp] theorem replies_answerEntries :
    replies (answerEntries reply suppress objects queue) =
      queue.map fun p => (p.invocation, reply) := by
  induction queue generalizing objects with
  | nil => rfl
  | cons p rest ih =>
      cases h : collects suppress objects p <;> simp [answerEntries, answerEntry, h, ih]

@[simp] theorem signals_answerEntries :
    signals (answerEntries reply suppress objects queue) = [] := by
  induction queue generalizing objects with
  | nil => rfl
  | cons p rest ih =>
      cases h : collects suppress objects p <;> simp [answerEntries, answerEntry, h, ih]

end AnswerEntries

/-- The map after all queued calls have been answered. -/
def collected (suppress : Bool) (queue : List (Pending V)) : ManagerObjects V :=
  queue.foldl (collect suppress) []

/-- The map only grows. -/
theorem collects_prefix (suppress : Bool) (objects : ManagerObjects V)
    (queue : List (Pending V)) : objects <+: queue.foldl (collect suppress) objects := by
  induction queue generalizing objects with
  | nil => exact List.prefix_refl _
  | cons p rest ih =>
      refine List.IsPrefix.trans ?_ (ih _)
      unfold collect
      split
      · exact List.prefix_append _ _
      · exact List.prefix_refl _

/-- Somebody is told when there was somebody waiting. -/
theorem collected_ne_nil {queue : List (Pending V)} (h : queue ≠ []) :
    collected false queue ≠ [] := by
  obtain ⟨p, rest, rfl⟩ := List.exists_cons_of_ne_nil h
  have hfirst : collect false [] p = [(p.object, p.requestData)] := rfl
  intro hnil
  have hprefix := collects_prefix false (collect false [] p) rest
  rw [hfirst] at hprefix
  rw [collected, List.foldl_cons, hfirst] at hnil
  rw [hnil] at hprefix
  exact absurd (List.prefix_nil.mp hprefix) (by simp)

/-- Nobody is told when the signals are suppressed. -/
theorem collected_suppressed (queue : List (Pending V)) : collected true queue = [] := by
  unfold collected
  induction queue with
  | nil => rfl
  | cons p rest ih => exact ih

/-- The reply that `complete_pending_call()` sends. -/
def queueReply (playerId : String) (haveSwitched : Bool) (errorCode : GDBusError) :
    Option String → Reply
  | none => .requestSource playerId haveSwitched
  | some message => .error errorCode message

theorem completePendingCall_run (p : Pending V) (playerId : String) (haveSwitched : Bool)
    (errorCode : GDBusError) (errorMessage : Option String)
    (objects : ManagerObjects V) (suppress : Bool) (d : Daemon M V) :
    (completePendingCall p playerId haveSwitched errorCode errorMessage (some objects)
        suppress).run d =
      .ok (some (collect suppress objects p))
        { d with
          log := d.log ++ answerEntry
            (queueReply playerId haveSwitched errorCode errorMessage) p
            (collects suppress objects p) } := by
  cases hlookup : objects.lookup p.object <;> cases suppress <;> cases errorMessage <;>
    simp [completePendingCall, queueReply, answerEntry, collect,
      collects, hlookup]

/-- Without a map, nothing is collected. -/
theorem completePendingCall_run_none (p : Pending V) (playerId : String)
    (haveSwitched : Bool) (errorCode : GDBusError) (message : String) (suppress : Bool)
    (d : Daemon M V) :
    (completePendingCall p playerId haveSwitched errorCode (some message) none
        suppress).run d =
      .ok none
        { d with log := d.log ++ answerEntry (.error errorCode message) p false } := by
  simp [completePendingCall, answerEntry]

theorem completePendingCalls_run (playerId : String) (haveSwitched : Bool)
    (errorCode : GDBusError) (errorMessage : Option String) (suppress : Bool)
    (queue : List (Pending V)) (objects : ManagerObjects V) (d : Daemon M V) :
    (queue.foldlM (fun objects p => completePendingCall p playerId haveSwitched errorCode
        errorMessage objects suppress) (some objects) : HandlerM M V _).run d =
      .ok (some (queue.foldl (collect suppress) objects))
        { d with
          log := d.log ++ answerEntries
            (queueReply playerId haveSwitched errorCode errorMessage)
            suppress objects queue } := by
  induction queue generalizing objects d with
  | nil => simp [answerEntries]
  | cons p rest ih =>
      simp [completePendingCall_run, ih, answerEntries]

theorem failPendingCalls_run (playerId message : String) (queue : List (Pending V))
    (d : Daemon M V) :
    (queue.forM fun p => do
        let _ ← completePendingCall p playerId false .failed (some message) none true :
      HandlerM M V Unit).run d =
      .ok ()
        { d with
          log := d.log ++ answerEntries (.error .failed message) true [] queue } := by
  induction queue generalizing d with
  | nil => simp [answerEntries]
  | cons p rest ih =>
      simp at ih
      simp [completePendingCall_run_none, ih, answerEntries, collect, collects]

theorem failAllPendingCalls_run (message : String) (d : Daemon M V) :
    (failAllPendingCalls message).run d =
      .ok ()
        { d with
          data := { d.data with pendingAudioSourceActivations := [] }
          log := d.log ++ answerEntries (.error .failed message) true []
            d.data.pendingAudioSourceActivations } := by
  have hloop := failPendingCalls_run d.data.audioPathSwitch.currentPlayerId message
    d.data.pendingAudioSourceActivations d
  simp at hloop
  simp [failAllPendingCalls, hloop]

@[simp] theorem IterationOrder.arrange_nil (order : IterationOrder V) :
    order.arrange [] = [] := (order.perm []).eq_nil

/-- The signals emitted after the queue has been drained. -/
def activatedEntries (order : IterationOrder V) (objects : ManagerObjects V)
    (sourceId playerId : String) : List (Entry V) :=
  (order.arrange objects).flatMap fun m =>
    [.emitted m.1 (.pathActivated sourceId playerId m.2), .unreferenced (.object m.1)]

section ActivatedEntries

variable (order : IterationOrder V) (objects : ManagerObjects V) (sourceId playerId : String)

@[simp] theorem busLog_activatedEntries :
    busLog (activatedEntries order objects sourceId playerId) = [] := by
  unfold activatedEntries
  induction order.arrange objects with
  | nil => rfl
  | cons m rest ih => simpa using ih

@[simp] theorem replies_activatedEntries :
    replies (activatedEntries order objects sourceId playerId) = [] := by
  unfold activatedEntries
  induction order.arrange objects with
  | nil => rfl
  | cons m rest ih => simpa using ih

@[simp] theorem signals_activatedEntries :
    signals (activatedEntries order objects sourceId playerId) =
      (order.arrange objects).map fun m => .pathActivated sourceId playerId m.2 := by
  unfold activatedEntries
  induction order.arrange objects with
  | nil => rfl
  | cons m rest ih => simpa using ih

end ActivatedEntries

theorem emitPathActivated_run (managerObject : Nat) (sourceId : String)
    (requestData : GVariantWrapper V) (success : Bool) (d : Daemon M V) :
    (emitPathActivated managerObject sourceId requestData success).run d =
      .ok ()
        { d with
          log := d.log ++ [.emitted managerObject (.pathActivated
              (if success then sourceId else "") d.data.audioPathSwitch.currentPlayerId
              requestData), .unreferenced (.object managerObject)] } := by
  cases success <;> simp [emitPathActivated]

theorem emitPathsActivated_run (objects : ManagerObjects V) (sourceId : String)
    (success : Bool) (d : Daemon M V) :
    (objects.forM fun m => emitPathActivated m.1 sourceId m.2 success :
      HandlerM M V Unit).run d =
      .ok ()
        { d with
          log := d.log ++ objects.flatMap fun m =>
            [.emitted m.1 (.pathActivated (if success then sourceId else "")
              d.data.audioPathSwitch.currentPlayerId m.2), .unreferenced (.object m.1)] } := by
  induction objects generalizing d with
  | nil => simp
  | cons m rest ih =>
      simp at ih
      simp [emitPathActivated_run, ih]

/-- Draining the queue: first all replies, then the callback, then the signals.  The
player they name is the current one after the callback. -/
theorem completeAllPendingCalls_run (order : IterationOrder V) (sourceId : String)
    (success suppress haveSwitched : Bool) (errorCode : GDBusError)
    (errorMessage : Option String) (after : Option (HandlerM M V Unit)) (d : Daemon M V) :
    (completeAllPendingCalls order sourceId success suppress haveSwitched errorCode
        errorMessage after).run d =
      match (after.getD (pure ())).run
        { d with log := d.log ++ answerEntries (queueReply d.data.audioPathSwitch.currentPlayerId
            haveSwitched errorCode errorMessage) suppress [] d.queue } with
      | .ok _ d' => .ok ()
          { d' with
            data := { d'.data with pendingAudioSourceActivations := [] }
            log := d'.log ++ activatedEntries order (collected suppress d.queue)
              (if success then sourceId else "") d'.data.audioPathSwitch.currentPlayerId }
      | .error fault d' => .error fault d' := by
  have hemit := fun objects => emitPathsActivated_run (M := M) (V := V) objects sourceId success
  simp at hemit
  cases after with
  | none =>
      simp [completeAllPendingCalls, completePendingCalls_run, hemit, activatedEntries, collected]
  | some callback =>
      simp only [completeAllPendingCalls, EStateM.run_bind, EStateM.run_get,
        completePendingCalls_run, Option.getD_some]
      cases callback.run _ <;> simp [hemit, activatedEntries, collected]

/-! ## Registration -/

/-- What is announced when a player has been registered: the paths to its sources. -/
def announcements (paths : Paths) (playerId : String) : List (Signal V) :=
  (paths.sources.toList.filter fun source => source.playerId = playerId).map
    fun source => .pathAvailable source.id playerId

theorem announcePaths_run {paths : Paths} {playerId : String} {player : Player}
    (hplayer : paths.lookupPlayer playerId = some player) (object : Nat)
    (sources : List Source) (d : Daemon M V) :
    ((sources.flatMap (paths.forEachSource .completePaths)).forM fun path => do
        let player ← deref .nullComponent path.2
        if player.id = playerId then
          let source ← deref .nullComponent path.1
          emit object (.pathAvailable source.id playerId) : HandlerM M V Unit).run d =
      .ok ()
        { d with
          log := d.log ++ (sources.filter fun source => source.playerId = playerId).map
            fun source => .emitted object (.pathAvailable source.id playerId) } := by
  induction sources generalizing d with
  | nil => simp
  | cons source rest ih =>
      simp at ih
      by_cases hsource : source.playerId = playerId
      · simp [Paths.forEachSource, hsource, hplayer, Paths.id_of_lookupPlayer hplayer, ih]
      · cases hother : paths.lookupPlayer source.playerId with
        | none => simp [Paths.forEachSource, hsource, hother, ih]
        | some other =>
            simp [Paths.forEachSource, hsource, hother, Paths.id_of_lookupPlayer hother, ih]

/-- The daemon after a player has got its proxy, or has failed to. -/
def Daemon.playerRegistered (d : Daemon M V) (object invocation : Nat)
    (player : Player) : Daemon M V :=
  let paths := (d.data.audioPaths.addPlayer player).1
  { d with
    data := { d.data with audioPaths := paths }
    log := d.log ++ ([.replied invocation .registerPlayer,
        .emitted object (.playerRegistered player.id player.name)] ++
      (announcements paths player.id).map (.emitted object)) }

@[simp] theorem switch_playerRegistered (d : Daemon M V) (object invocation : Nat)
    (player : Player) : (d.playerRegistered object invocation player).data.audioPathSwitch =
      d.data.audioPathSwitch := rfl

@[simp] theorem pendingId_playerRegistered (d : Daemon M V) (object invocation : Nat)
    (player : Player) : (d.playerRegistered object invocation player).pendingId = d.pendingId := rfl

@[simp] theorem queue_playerRegistered (d : Daemon M V) (object invocation : Nat)
    (player : Player) : (d.playerRegistered object invocation player).queue = d.queue := rfl

@[simp] theorem busLog_playerRegistered (d : Daemon M V) (object invocation : Nat)
    (player : Player) :
    busLog (d.playerRegistered object invocation player).log = busLog d.log := by
  simp [Daemon.playerRegistered]

@[simp] theorem replies_playerRegistered (d : Daemon M V) (object invocation : Nat)
    (player : Player) :
    replies (d.playerRegistered object invocation player).log =
      replies d.log ++ [(invocation, .registerPlayer)] := by
  simp [Daemon.playerRegistered]

@[simp] theorem signals_playerRegistered (d : Daemon M V) (object invocation : Nat)
    (player : Player) :
    signals (d.playerRegistered object invocation player).log =
      signals d.log ++ .playerRegistered player.id player.name ::
        announcements (d.data.audioPaths.addPlayer player).1 player.id := by
  simp [Daemon.playerRegistered]

theorem registerPlayerBottomHalf_run (object invocation : Nat) (proxy : Option Proxy)
    (playerId playerName : String) (d : Daemon M V) :
    (registerPlayerBottomHalf object invocation proxy playerId playerName).run d =
      .ok () (d.playerRegistered object invocation ⟨playerId, playerName, proxy⟩) := by
  let player : Player := ⟨playerId, playerName, proxy⟩
  have hregistered := Paths.addPlayer_lookupPlayer d.data.audioPaths player playerId
  have hresult := Paths.addPlayer_havePath d.data.audioPaths player
  rw [if_pos rfl] at hregistered
  have hannounce := announcePaths_run (M := M) (V := V) hregistered object
    (d.data.audioPaths.addPlayer player).1.sources.toList
  have hall : (d.data.audioPaths.addPlayer player).1.forEach .completePaths =
      (d.data.audioPaths.addPlayer player).1.sources.toList.flatMap
        ((d.data.audioPaths.addPlayer player).1.forEachSource .completePaths) := by
    simp [Paths.forEach]
  have hsources : (d.data.audioPaths.addPlayer player).1.sources = d.data.audioPaths.sources :=
    rfl
  simp only [registerPlayerBottomHalf, EStateM.run_bind, EStateM.run_get, modifyData_run,
    complete_run, emit_run]
  have hnone : (d.data.audioPaths.addPlayer player).2.havePath = false →
      (announcements (d.data.audioPaths.addPlayer player).1 playerId : List (Signal V)) = [] := by
    intro hfalse
    rw [hresult, List.any_eq_false] at hfalse
    simpa [announcements, hsources] using hfalse
  cases hcode : (d.data.audioPaths.addPlayer player).2 with
  | newComponent | updatedComponent =>
      have hnone := hnone (by rw [hcode]; rfl)
      simp [player, Daemon.playerRegistered, hnone]
  | newPath | updatedPath =>
      simp only [List.forM_eq_forM] at hannounce
      simp [player, Daemon.playerRegistered, hall, hannounce, announcements]

/-- The daemon after a source has got its proxy, or has failed to. -/
def Daemon.sourceRegistered (d : Daemon M V) (object invocation : Nat)
    (source : Source) : Daemon M V :=
  let added := d.data.audioPaths.addSource source
  { d with
    data := { d.data with audioPaths := added.1 }
    log := d.log ++ (.replied invocation .registerSource ::
      if added.2.havePath then [.emitted object (.pathAvailable source.id source.playerId)]
      else []) }

@[simp] theorem switch_sourceRegistered (d : Daemon M V) (object invocation : Nat)
    (source : Source) : (d.sourceRegistered object invocation source).data.audioPathSwitch =
      d.data.audioPathSwitch := rfl

@[simp] theorem pendingId_sourceRegistered (d : Daemon M V) (object invocation : Nat)
    (source : Source) : (d.sourceRegistered object invocation source).pendingId = d.pendingId := rfl

@[simp] theorem queue_sourceRegistered (d : Daemon M V) (object invocation : Nat)
    (source : Source) : (d.sourceRegistered object invocation source).queue = d.queue := rfl

@[simp] theorem busLog_sourceRegistered (d : Daemon M V) (object invocation : Nat)
    (source : Source) :
    busLog (d.sourceRegistered object invocation source).log = busLog d.log := by
  simp only [Daemon.sourceRegistered]
  split <;> simp

@[simp] theorem replies_sourceRegistered (d : Daemon M V) (object invocation : Nat)
    (source : Source) :
    replies (d.sourceRegistered object invocation source).log =
      replies d.log ++ [(invocation, .registerSource)] := by
  simp only [Daemon.sourceRegistered]
  split <;> simp

@[simp] theorem signals_sourceRegistered (d : Daemon M V) (object invocation : Nat)
    (source : Source) :
    signals (d.sourceRegistered object invocation source).log =
      signals d.log ++
        if (d.data.audioPaths.addSource source).2.havePath then
          [.pathAvailable source.id source.playerId] else [] := by
  simp only [Daemon.sourceRegistered]
  split <;> simp

theorem registerSourceBottomHalf_run (object invocation : Nat) (proxy : Option Proxy)
    (sourceId sourceName playerId : String) (d : Daemon M V) :
    (registerSourceBottomHalf object invocation proxy sourceId sourceName playerId).run d =
      .ok ()
        (d.sourceRegistered object invocation ⟨sourceId, sourceName, playerId, proxy⟩) := by
  simp only [registerSourceBottomHalf, EStateM.run_bind, EStateM.run_get, modifyData_run,
    complete_run]
  cases hcode : (d.data.audioPaths.addSource ⟨sourceId, sourceName, playerId, proxy⟩).2 <;>
    simp [Daemon.sourceRegistered, hcode, Paths.AddResult.havePath]

/-! ## Requesting and releasing paths -/

/-- The immediate reply to a request, if there is one. -/
def requestReply (a : Activation) : Option Reply :=
  match a.result with
  | .errorSourceUnknown => some (.error .invalidArgs "Audio source unknown")
  | .errorSourceFailed => some (.error .invalidArgs "Audio source process failed")
  | .errorPlayerUnknown => some (.error .invalidArgs "No player associated")
  | .errorPlayerFailed => some (.error .invalidArgs "Player process failed")
  | .okUnchanged | .okPlayerSame => some (.requestSource (a.playerId.getD "") false)
  | .okPlayerSwitched => some (.requestSource (a.playerId.getD "") true)
  | .okPlayerSameSourceDeferred | .okPlayerSwitchedSourceDeferred => none

/-- The signal emitted for a request, if there is one. -/
def requestSignal (sourceId : String) (data : GVariantWrapper V) (a : Activation) :
    Option (Signal V) :=
  match a.result with
  | .errorSourceUnknown | .errorPlayerUnknown => none
  | .errorSourceFailed | .errorPlayerFailed =>
      some (.pathActivated "" (a.playerId.getD "") data)
  | .okUnchanged => some (.pathReactivated sourceId (a.playerId.getD "") data)
  | .okPlayerSame | .okPlayerSwitched =>
      some (.pathActivated sourceId (a.playerId.getD "") data)
  | .okPlayerSameSourceDeferred | .okPlayerSwitchedSourceDeferred =>
      some (.pathDeferred sourceId (a.playerId.getD ""))

/-- Has the request been answered already, also if it has failed? -/
def isFinal (result : ActivateResult) : Bool :=
  match result with
  | .okPlayerSame | .okPlayerSwitched
  | .okPlayerSameSourceDeferred | .okPlayerSwitchedSourceDeferred => false
  | _ => true

/-- Does the request enter the queue? -/
def waits (now : Bool) (result : ActivateResult) : Bool := !now && !isFinal result

/-- The queued calls that fail because the pending activation has been dropped. -/
def droppedCalls (d : DeselectedAudioSourceResult) (queue : List (Pending V)) :
    List (Pending V) :=
  if d = .deselectedPending then queue else []

/-- The queued calls that stay. -/
def keptCalls (d : DeselectedAudioSourceResult) (queue : List (Pending V)) :
    List (Pending V) :=
  if d = .deselectedPending then [] else queue

/-- The daemon after a request for which the switch has returned `a`. -/
def Daemon.requested [MaybeBool M] (d : Daemon M V) (object invocation : Nat)
    (sourceId : String) (data : GVariantWrapper V) (a : Activation) (switch : Switch V)
    (es : List (BusEntry V)) : Daemon M V :=
  let queue := d.data.pendingAudioSourceActivations
  let waiting := waits d.data.applianceState.enableAllowed a.result
  { d with
    data := { d.data with
      audioPathSwitch := switch
      pendingAudioSourceActivations := keptCalls a.deselectedResult queue ++
        if waiting then [⟨object, invocation, data⟩] else [] }
    log := d.log ++ (es.map .bus ++
      (requestReply a).toList.map (.replied invocation) ++
      answerEntries (.error .failed ("Canceled pending audio source activation because " ++
        "a different source has been requested")) true []
        (droppedCalls a.deselectedResult queue) ++
      (if waiting then
        [.referenced (.object object), .referenced (.invocation invocation)] else []) ++
      (requestSignal sourceId data a).toList.map (.emitted object)) }

section Requested

variable [MaybeBool M] (d : Daemon M V) (object invocation : Nat) (sourceId : String)
  (data : GVariantWrapper V) (a : Activation) (switch : Switch V) (es : List (BusEntry V))

@[simp] theorem queue_requested :
    (d.requested object invocation sourceId data a switch es).queue =
      keptCalls a.deselectedResult d.queue ++
        if waits d.data.applianceState.enableAllowed a.result then
          [⟨object, invocation, data⟩] else [] := rfl

@[simp] theorem switch_requested :
    (d.requested object invocation sourceId data a switch es).data.audioPathSwitch = switch := rfl

@[simp] theorem pendingId_requested :
    (d.requested object invocation sourceId data a switch es).pendingId =
      switch.pending.sourceId := rfl

@[simp] theorem busLog_requested :
    busLog (d.requested object invocation sourceId data a switch es).log =
      busLog d.log ++ es := by
  simp only [Daemon.requested]
  split <;> simp

@[simp] theorem replies_requested :
    replies (d.requested object invocation sourceId data a switch es).log =
      replies d.log ++ ((requestReply a).toList.map (invocation, ·) ++
        (droppedCalls a.deselectedResult d.queue).map fun p =>
          (p.invocation, .error .failed ("Canceled pending audio source activation because " ++
            "a different source has been requested"))) := by
  simp only [Daemon.requested]
  split <;> simp

@[simp] theorem signals_requested :
    signals (d.requested object invocation sourceId data a switch es).log =
      signals d.log ++ (requestSignal sourceId data a).toList := by
  simp only [Daemon.requested]
  split <;> simp

end Requested

theorem onSwitch_ok {α : Type} {op : SwitchM V α} {d : Daemon M V} {a : α}
    {scope : Scope V} (h : op.run ⟨d.data.audioPathSwitch, []⟩ = .ok a scope) :
    (onSwitch op).run d = .ok a (d.absorb scope) := by
  rw [onSwitch_run, h]

theorem onSwitch_error {α : Type} {op : SwitchM V α} {d : Daemon M V} {fault : Fault}
    {scope : Scope V} (h : op.run ⟨d.data.audioPathSwitch, []⟩ = .error fault scope) :
    (onSwitch op).run d = .error fault (d.absorb scope) := by
  rw [onSwitch_run, h]

theorem requestSource_run [MaybeBool M] {outcomes : Outcomes} {object invocation : Nat}
    {sourceId : String} {data : GVariantWrapper V} {d : Daemon M V} {a : Activation}
    {switch : Switch V} {es : List (BusEntry V)}
    (hrun : (activateSource outcomes d.data.audioPaths sourceId
        d.data.applianceState.enableAllowed data).run ⟨d.data.audioPathSwitch, []⟩ =
      .ok a ⟨switch, es⟩)
    (hplayer : a.result.isOk → a.playerId.isSome) :
    (requestSource outcomes object invocation sourceId data).run d =
      .ok () (d.requested object invocation sourceId data a switch es) := by
  obtain ⟨result, playerId, deselected⟩ := a
  simp only [requestSource, EStateM.run_bind, EStateM.run_get, onSwitch_ok hrun]
  cases result with
  | errorSourceUnknown | errorSourceFailed | errorPlayerUnknown | errorPlayerFailed =>
      cases deselected <;>
        simp [Daemon.absorb, Daemon.requested, requestReply, requestSignal, waits, isFinal,
          emitPathSwitchSignal, droppedCalls, keptCalls, answerEntries,
          failAllPendingCalls_run]
  | okUnchanged =>
      obtain ⟨pid, rfl⟩ := Option.isSome_iff_exists.mp (hplayer rfl)
      cases deselected <;>
        simp [Daemon.absorb, Daemon.requested, requestReply, requestSignal, waits, isFinal,
          droppedCalls, keptCalls, answerEntries, failAllPendingCalls_run]
  | okPlayerSame | okPlayerSwitched
  | okPlayerSameSourceDeferred | okPlayerSwitchedSourceDeferred =>
      obtain ⟨pid, rfl⟩ := Option.isSome_iff_exists.mp (hplayer rfl)
      cases hnow : d.data.applianceState.enableAllowed <;> cases deselected <;>
        simp [Daemon.absorb, Daemon.requested, hnow, requestReply, requestSignal, waits,
          isFinal, emitPathSwitchSignal, droppedCalls, keptCalls, answerEntries,
          failAllPendingCalls_run]

theorem requestSource_crash [MaybeBool M] {outcomes : Outcomes} {object invocation : Nat}
    {sourceId : String} {data : GVariantWrapper V} {d : Daemon M V} {fault : Fault}
    {scope : Scope V}
    (hrun : (activateSource outcomes d.data.audioPaths sourceId
        d.data.applianceState.enableAllowed data).run ⟨d.data.audioPathSwitch, []⟩ =
      .error fault scope) :
    (requestSource outcomes object invocation sourceId data).run d =
      .error fault (d.absorb scope) := by
  simp only [requestSource, EStateM.run_bind, EStateM.run_get, onSwitch_error hrun]

/-- The daemon after the path has been released, with what the switch has returned. -/
def Daemon.released (d : Daemon M V) (object invocation : Nat)
    (data : GVariantWrapper V) (r : Release) (switch : Switch V) (es : List (BusEntry V)) :
    Daemon M V :=
  let queue := d.data.pendingAudioSourceActivations
  { d with
    data := { d.data with
      audioPathSwitch := switch
      pendingAudioSourceActivations := keptCalls r.deselectedResult queue }
    log := d.log ++ (es.map .bus ++
      answerEntries (.error .failed ("Canceled pending audio source activation because " ++
        "the audio path been released")) true [] (droppedCalls r.deselectedResult queue) ++
      [.replied invocation .releasePath] ++
      (if r.result = .unchanged then []
        else [.emitted object (.pathActivated "" (r.playerId.getD "") data)])) }

section Released

variable (d : Daemon M V) (object invocation : Nat) (data : GVariantWrapper V)
  (r : Release) (switch : Switch V) (es : List (BusEntry V))

@[simp] theorem queue_released :
    (d.released object invocation data r switch es).queue =
      keptCalls r.deselectedResult d.queue := rfl

@[simp] theorem switch_released :
    (d.released object invocation data r switch es).data.audioPathSwitch = switch := rfl

@[simp] theorem pendingId_released :
    (d.released object invocation data r switch es).pendingId = switch.pending.sourceId := rfl

@[simp] theorem busLog_released :
    busLog (d.released object invocation data r switch es).log = busLog d.log ++ es := by
  simp only [Daemon.released]
  split <;> simp

@[simp] theorem replies_released :
    replies (d.released object invocation data r switch es).log =
      replies d.log ++
        ((droppedCalls r.deselectedResult d.queue).map fun p =>
          (p.invocation, .error .failed ("Canceled pending audio source activation because " ++
            "the audio path been released"))) ++ [(invocation, .releasePath)] := by
  simp only [Daemon.released]
  split <;> simp

@[simp] theorem signals_released :
    signals (d.released object invocation data r switch es).log =
      signals d.log ++
        if r.result = .unchanged then []
        else [.pathActivated "" (r.playerId.getD "") data] := by
  simp only [Daemon.released]
  split <;> simp

end Released

theorem releasePathHandler_run {outcomes : Outcomes} {object invocation : Nat}
    {deactivatePlayer : Bool} {data : GVariantWrapper V} {d : Daemon M V} {r : Release}
    {switch : Switch V} {es : List (BusEntry V)}
    (hrun : (releasePath outcomes d.data.audioPaths deactivatePlayer data).run
        ⟨d.data.audioPathSwitch, []⟩ = .ok r ⟨switch, es⟩) :
    (releasePathHandler outcomes object invocation deactivatePlayer data).run d =
      .ok () (d.released object invocation data r switch es) := by
  obtain ⟨result, playerId, deselected⟩ := r
  simp only [releasePathHandler, EStateM.run_bind, EStateM.run_get, onSwitch_ok hrun]
  cases result <;> cases deselected <;>
    simp [Daemon.absorb, Daemon.released, droppedCalls, keptCalls,
      answerEntries, failAllPendingCalls_run]

theorem releasePathHandler_crash {outcomes : Outcomes} {object invocation : Nat}
    {deactivatePlayer : Bool} {data : GVariantWrapper V} {d : Daemon M V} {fault : Fault}
    {scope : Scope V}
    (hrun : (releasePath outcomes d.data.audioPaths deactivatePlayer data).run
        ⟨d.data.audioPathSwitch, []⟩ = .error fault scope) :
    (releasePathHandler outcomes object invocation deactivatePlayer data).run d =
      .error fault (d.absorb scope) := by
  simp only [releasePathHandler, EStateM.run_bind, EStateM.run_get, onSwitch_error hrun]

/-! ## Setting the ready state -/

/-- What draining the queue does: all replies, then `after`, then the signals. -/
def drainEntries (order : IterationOrder V) (reply : Reply) (suppress : Bool)
    (queue : List (Pending V)) (after : List (Entry V)) (sourceId playerId : String) :
    List (Entry V) :=
  answerEntries reply suppress [] queue ++ after ++
    activatedEntries order (collected suppress queue) sourceId playerId

section DrainEntries

variable (order : IterationOrder V) (reply : Reply) (suppress : Bool)
  (queue : List (Pending V)) (after : List (Entry V)) (sourceId playerId : String)

@[simp] theorem busLog_drainEntries :
    busLog (drainEntries order reply suppress queue after sourceId playerId) =
      busLog after := by
  simp [drainEntries]

@[simp] theorem replies_drainEntries :
    replies (drainEntries order reply suppress queue after sourceId playerId) =
      (queue.map fun p => (p.invocation, reply)) ++ replies after := by
  simp [drainEntries]

@[simp] theorem signals_drainEntries :
    signals (drainEntries order reply suppress queue after sourceId playerId) =
      signals after ++ (order.arrange (collected suppress queue)).map fun m =>
        .pathActivated sourceId playerId m.2 := by
  simp [drainEntries]

end DrainEntries

/-- What is done when `complete_pending_source_activation()` has returned.  Besides
the errors, it returns the result of phase one. -/
def completionEntries (order : IterationOrder V) (invocation : Nat)
    (queue : List (Pending V)) (sourceId playerId : String) :
    ActivateResult → List (Entry V)
  | .errorSourceUnknown => [.replied invocation .setReadyState]
  | .errorSourceFailed =>
      drainEntries order (.error .invalidArgs "Source process failed") false queue []
        "" playerId
  | phaseOne =>
      drainEntries order
        (.requestSource playerId (phaseOne = .okPlayerSwitchedSourceDeferred)) false queue
        [.replied invocation .setReadyState] sourceId playerId

/-- The daemon after the appliance has been found ready. -/
def Daemon.completed (d : Daemon M V) (order : IterationOrder V) (invocation : Nat)
    (appliance : Appliance M) (result : ActivateResult) (switch : Switch V)
    (es : List (BusEntry V)) : Daemon M V :=
  let queue := d.data.pendingAudioSourceActivations
  { d with
    data := { d.data with
      audioPathSwitch := switch
      applianceState := appliance
      pendingAudioSourceActivations := if result = .errorSourceUnknown then queue else [] }
    log := d.log ++ (es.map .bus ++ completionEntries order invocation queue
      d.data.audioPathSwitch.pending.sourceId switch.currentPlayerId result) }

section Completed

variable (d : Daemon M V) (order : IterationOrder V) (invocation : Nat)
  (appliance : Appliance M) (result : ActivateResult) (switch : Switch V)
  (es : List (BusEntry V))

@[simp] theorem queue_completed :
    (d.completed order invocation appliance result switch es).queue =
      if result = .errorSourceUnknown then d.queue else [] := rfl

@[simp] theorem switch_completed :
    (d.completed order invocation appliance result switch es).data.audioPathSwitch = switch := rfl

@[simp] theorem pendingId_completed :
    (d.completed order invocation appliance result switch es).pendingId =
      switch.pending.sourceId := rfl

@[simp] theorem replies_completed :
    replies (d.completed order invocation appliance result switch es).log =
      replies d.log ++ replies (completionEntries order invocation d.queue d.pendingId
        switch.currentPlayerId result) := by
  simp [Daemon.completed]

@[simp] theorem signals_completed :
    signals (d.completed order invocation appliance result switch es).log =
      signals d.log ++ signals (completionEntries order invocation d.queue d.pendingId
        switch.currentPlayerId result) := by
  simp [Daemon.completed]

@[simp] theorem busLog_completed :
    busLog (d.completed order invocation appliance result switch es).log =
      busLog d.log ++ es := by
  cases result <;> simp [Daemon.completed, completionEntries]

end Completed

/-- The daemon after the appliance has been suspended. -/
def Daemon.canceled (d : Daemon M V) (order : IterationOrder V) (invocation : Nat)
    (appliance : Appliance M) (result : ActivateResult) (switch : Switch V)
    (es : List (BusEntry V)) : Daemon M V :=
  let queue := d.data.pendingAudioSourceActivations
  { d with
    data := { d.data with
      audioPathSwitch := switch
      applianceState := appliance
      pendingAudioSourceActivations := if result = .errorSourceUnknown then queue else [] }
    log := d.log ++ (es.map .bus ++
      (if result = .errorSourceUnknown then []
        else drainEntries order (.error .accessDenied "Canceled audio source activation") true
          queue [] "" switch.currentPlayerId) ++
      [.replied invocation .setReadyState]) }

section Canceled

variable (d : Daemon M V) (order : IterationOrder V) (invocation : Nat)
  (appliance : Appliance M) (result : ActivateResult) (switch : Switch V)
  (es : List (BusEntry V))

@[simp] theorem queue_canceled :
    (d.canceled order invocation appliance result switch es).queue =
      if result = .errorSourceUnknown then d.queue else [] := rfl

@[simp] theorem switch_canceled :
    (d.canceled order invocation appliance result switch es).data.audioPathSwitch = switch := rfl

@[simp] theorem pendingId_canceled :
    (d.canceled order invocation appliance result switch es).pendingId =
      switch.pending.sourceId := rfl

@[simp] theorem replies_canceled :
    replies (d.canceled order invocation appliance result switch es).log =
      replies d.log ++
        ((if result = .errorSourceUnknown then []
          else d.queue.map fun p =>
            (p.invocation, .error .accessDenied "Canceled audio source activation")) ++
        [(invocation, .setReadyState)]) := by
  simp only [Daemon.canceled]
  split <;> simp

@[simp] theorem signals_canceled :
    signals (d.canceled order invocation appliance result switch es).log = signals d.log := by
  simp only [Daemon.canceled]
  split <;> simp [collected_suppressed]

@[simp] theorem busLog_canceled :
    busLog (d.canceled order invocation appliance result switch es).log =
      busLog d.log ++ es := by
  simp only [Daemon.canceled]
  split <;> simp

end Canceled

/-- The daemon with a new appliance state. -/
def Daemon.withAppliance (d : Daemon M V) (appliance : Appliance M) : Daemon M V :=
  { d with data := { d.data with applianceState := appliance } }

/-- The daemon after the appliance has been found neither ready nor just suspended. -/
def Daemon.postponed (d : Daemon M V) (invocation : Nat) (appliance : Appliance M) :
    Daemon M V :=
  { d.withAppliance appliance with log := d.log ++ [.replied invocation .setReadyState] }

theorem drain_run (order : IterationOrder V) (sourceId : String)
    (success suppress haveSwitched : Bool) (errorCode : GDBusError)
    (errorMessage : Option String) (d : Daemon M V) :
    (completeAllPendingCalls order sourceId success suppress haveSwitched errorCode
        errorMessage none).run d =
      .ok ()
        { d with
          data := { d.data with pendingAudioSourceActivations := [] }
          log := d.log ++ drainEntries order
            (queueReply d.data.audioPathSwitch.currentPlayerId haveSwitched errorCode
              errorMessage)
            suppress d.data.pendingAudioSourceActivations [] (if success then sourceId else "")
            d.data.audioPathSwitch.currentPlayerId } :=
  (completeAllPendingCalls_run order sourceId success suppress haveSwitched errorCode
    errorMessage none d).trans (by simp [drainEntries])

theorem drain_run_after (order : IterationOrder V) (sourceId : String)
    (success suppress haveSwitched : Bool) (errorCode : GDBusError)
    (errorMessage : Option String) (after : List (Entry V)) (d : Daemon M V) :
    (completeAllPendingCalls order sourceId success suppress haveSwitched errorCode
        errorMessage (some (write after))).run d =
      .ok ()
        { d with
          data := { d.data with pendingAudioSourceActivations := [] }
          log := d.log ++ drainEntries order
            (queueReply d.data.audioPathSwitch.currentPlayerId haveSwitched errorCode
              errorMessage)
            suppress d.data.pendingAudioSourceActivations after
            (if success then sourceId else "")
            d.data.audioPathSwitch.currentPlayerId } :=
  (completeAllPendingCalls_run order sourceId success suppress haveSwitched errorCode
    errorMessage (some (write after)) d).trans (by simp [drainEntries])

@[simp] theorem switch_postponed (d : Daemon M V) (invocation : Nat)
    (appliance : Appliance M) :
    (d.postponed invocation appliance).data.audioPathSwitch = d.data.audioPathSwitch := rfl

@[simp] theorem pendingId_postponed (d : Daemon M V) (invocation : Nat)
    (appliance : Appliance M) : (d.postponed invocation appliance).pendingId = d.pendingId := rfl

@[simp] theorem queue_postponed (d : Daemon M V) (invocation : Nat)
    (appliance : Appliance M) : (d.postponed invocation appliance).queue = d.queue := rfl

@[simp] theorem busLog_postponed (d : Daemon M V) (invocation : Nat)
    (appliance : Appliance M) : busLog (d.postponed invocation appliance).log = busLog d.log := by
  simp [Daemon.postponed, Daemon.withAppliance]

@[simp] theorem replies_postponed (d : Daemon M V) (invocation : Nat)
    (appliance : Appliance M) :
    replies (d.postponed invocation appliance).log =
      replies d.log ++ [(invocation, .setReadyState)] := by
  simp [Daemon.postponed, Daemon.withAppliance]

@[simp] theorem signals_postponed (d : Daemon M V) (invocation : Nat)
    (appliance : Appliance M) :
    signals (d.postponed invocation appliance).log = signals d.log := by
  simp [Daemon.postponed, Daemon.withAppliance]

section ReadyState

variable [MaybeBool M] {outcomes : Outcomes} {order : IterationOrder V} {invocation : Nat}
  {audioState powerState : UInt8} {d : Daemon M V} {appliance : Appliance M}
  {suspended : Bool} {switch : Switch V} {es : List (BusEntry V)}

theorem setReadyState_allowed
    (hread : readAppliance d.data.applianceState audioState powerState =
      (appliance, suspended))
    (hallowed : appliance.enableAllowed = true) :
    (setReadyState outcomes order invocation audioState powerState).run d =
      (processPendingAudioSourceActivation outcomes order invocation).run
        (d.withAppliance appliance) := by
  simp [setReadyState, hread, hallowed, Daemon.withAppliance]

theorem setReadyState_forbidden
    (hread : readAppliance d.data.applianceState audioState powerState = (appliance, true))
    (hallowed : appliance.enableAllowed = false) :
    (setReadyState outcomes order invocation audioState powerState).run d =
      (do
        cancelPendingAudioSourceActivation outcomes order
        complete invocation .setReadyState : HandlerM M V Unit).run
          (d.withAppliance appliance) := by
  simp [setReadyState, hread, hallowed, Daemon.withAppliance]

theorem setReadyState_completed {result : ActivateResult}
    (hread : readAppliance d.data.applianceState audioState powerState =
      (appliance, suspended))
    (hallowed : appliance.enableAllowed = true)
    (hsw : Consistent d.data.audioPaths d.data.audioPathSwitch)
    (hc : Completes outcomes d.data.audioPaths d.data.audioPathSwitch result switch es)
    (hrun : (completePendingSourceActivation outcomes d.data.audioPaths (some "")).run
        ⟨d.data.audioPathSwitch, []⟩ =
      .ok (result, takenSourceId d.data.audioPathSwitch (some "")) ⟨switch, es⟩) :
    (setReadyState outcomes order invocation audioState powerState).run d =
      .ok () (d.completed order invocation appliance result switch es) := by
  have hswitch := onSwitch_ok (d := d.withAppliance appliance) hrun
  rw [setReadyState_allowed hread hallowed]
  simp only [processPendingAudioSourceActivation, EStateM.run_bind, EStateM.run_get]
  rw [show (d.withAppliance appliance).data.audioPaths = d.data.audioPaths from rfl, hswitch]
  cases hc with
  | nothingPending =>
      simp [Daemon.absorb, Daemon.withAppliance, Daemon.completed, completionEntries]
  | sourceFailed =>
      simp [Daemon.absorb, Daemon.withAppliance, Daemon.completed, completionEntries, drain_run,
        queueReply]
  | selected hpending =>
      rcases hsw.phaseOne hpending with hphase | hphase
      · simp [hphase, Daemon.absorb, Daemon.withAppliance, Daemon.completed,
          completionEntries, complete, drain_run_after, queueReply, takenSourceId, hpending]
      · simp [hphase, Daemon.absorb, Daemon.withAppliance, Daemon.completed,
          completionEntries, complete, drain_run_after, queueReply, takenSourceId, hpending]

theorem setReadyState_completion_crash {fault : Fault} {scope : Scope V}
    (hread : readAppliance d.data.applianceState audioState powerState =
      (appliance, suspended))
    (hallowed : appliance.enableAllowed = true)
    (hrun : (completePendingSourceActivation outcomes d.data.audioPaths (some "")).run
        ⟨d.data.audioPathSwitch, []⟩ = .error fault scope) :
    (setReadyState outcomes order invocation audioState powerState).run d =
      .error fault ((d.withAppliance appliance).absorb scope) := by
  have hswitch := onSwitch_error (d := d.withAppliance appliance) hrun
  rw [setReadyState_allowed hread hallowed]
  simp only [processPendingAudioSourceActivation, EStateM.run_bind, EStateM.run_get]
  rw [show (d.withAppliance appliance).data.audioPaths = d.data.audioPaths from rfl, hswitch]

theorem setReadyState_canceled {result : ActivateResult}
    (hread : readAppliance d.data.applianceState audioState powerState = (appliance, true))
    (hallowed : appliance.enableAllowed = false)
    (hc : Cancels outcomes d.data.audioPaths d.data.audioPathSwitch result switch es)
    {sourceId : String}
    (hrun : (cancelPendingSourceActivation outcomes d.data.audioPaths "").run
        ⟨d.data.audioPathSwitch, []⟩ = .ok (result, sourceId) ⟨switch, es⟩) :
    (setReadyState outcomes order invocation audioState powerState).run d =
      .ok () (d.canceled order invocation appliance result switch es) := by
  have hswitch := onSwitch_ok (d := d.withAppliance appliance) hrun
  rw [setReadyState_forbidden hread hallowed]
  simp only [cancelPendingAudioSourceActivation, EStateM.run_bind, EStateM.run_get]
  rw [show (d.withAppliance appliance).data.audioPaths = d.data.audioPaths from rfl, hswitch]
  cases hc with
  | nothingPending =>
      simp [Daemon.absorb, Daemon.withAppliance, Daemon.canceled]
  | canceled =>
      cases outcomes .deselected <;>
        simp [Daemon.absorb, Daemon.withAppliance, Daemon.canceled, drain_run,
          queueReply]

theorem setReadyState_cancellation_crash {fault : Fault} {scope : Scope V}
    (hread : readAppliance d.data.applianceState audioState powerState = (appliance, true))
    (hallowed : appliance.enableAllowed = false)
    (hrun : (cancelPendingSourceActivation outcomes d.data.audioPaths "").run
        ⟨d.data.audioPathSwitch, []⟩ = .error fault scope) :
    (setReadyState outcomes order invocation audioState powerState).run d =
      .error fault ((d.withAppliance appliance).absorb scope) := by
  have hswitch := onSwitch_error (d := d.withAppliance appliance) hrun
  rw [setReadyState_forbidden hread hallowed]
  simp only [cancelPendingAudioSourceActivation, EStateM.run_bind, EStateM.run_get]
  rw [show (d.withAppliance appliance).data.audioPaths = d.data.audioPaths from rfl, hswitch]

theorem setReadyState_postponed
    (hread : readAppliance d.data.applianceState audioState powerState = (appliance, false))
    (hallowed : appliance.enableAllowed = false) :
    (setReadyState outcomes order invocation audioState powerState).run d =
      .ok () (d.postponed invocation appliance) := by
  simp [setReadyState, hread, hallowed, Daemon.postponed, Daemon.withAppliance]

end ReadyState

/-! ## Queries -/

/-- How a path is reported: missing parts have an empty ID. -/
def Paths.idsOf (path : Paths.Path) : String × String :=
  ((path.1.map (·.id)).getD "", (path.2.map (·.id)).getD "")

/-- The player that is active with the given source, or with any. -/
def Switch.activePlayer (sw : Switch V) (sourceId : String) : String :=
  if sourceId ≠ "" ∧ sw.currentSourceId ≠ sourceId then "" else sw.currentPlayerId

/-- What is said about the player that has been found; nothing if it has no proxy. -/
def playerInfoReply (playerId : String) : Option Player → Option Reply
  | none => some (.error .failed ("Audio player \"" ++ playerId ++ "\" not registered"))
  | some player =>
      player.dbusProxy.map fun proxy => .getPlayerInfo player.name proxy.name proxy.objectPath

/-- What is said about the source that has been found; nothing if it has no proxy. -/
def sourceInfoReply (sourceId : String) : Option Source → Option Reply
  | none => some (.error .failed ("Audio source \"" ++ sourceId ++ "\" not registered"))
  | some source =>
      source.dbusProxy.map fun proxy =>
        .getSourceInfo source.name source.playerId proxy.name proxy.objectPath

section Queries

variable (invocation : Nat) (d : Daemon M V)

theorem getActivePlayer_run (sourceId : String) :
    (getActivePlayer invocation sourceId).run d = .ok ()
      { d with log := d.log ++ [.replied invocation
          (.getActivePlayer (d.data.audioPathSwitch.activePlayer sourceId))] } := by
  simp only [getActivePlayer, Switch.activePlayer, EStateM.run_bind, EStateM.run_get]
  split <;> rfl

/-- The handler splits the enumeration of all paths into the two it consists of. -/
theorem getPaths_run :
    (getPaths invocation).run d = .ok ()
      { d with log := d.log ++ [.replied invocation (.getPaths
          ((d.data.audioPaths.forEach .completePaths).map Paths.idsOf)
          ((d.data.audioPaths.forEach .incompletePaths).map Paths.idsOf))] } := by
  rw [Paths.forEach_eq_filter _ .completePaths, Paths.forEach_eq_filter _ .incompletePaths]
  have husable : (fun path : Paths.Path => decide (path.1.isSome ∧ path.2.isSome)) =
      Paths.ForEach.completePaths.wants := by
    funext path
    rcases path with ⟨_ | _, _ | _⟩ <;> rfl
  have hincomplete : (fun path : Paths.Path => decide ¬(path.1.isSome ∧ path.2.isSome)) =
      Paths.ForEach.incompletePaths.wants := by
    funext path
    rcases path with ⟨_ | _, _ | _⟩ <;> rfl
  rw [← husable, ← hincomplete]
  rfl

theorem getPlayerInfo_run (playerId : String) :
    (getPlayerInfo invocation playerId).run d =
      match playerInfoReply playerId (d.data.audioPaths.lookupPlayer playerId) with
      | some reply => .ok () { d with log := d.log ++ [.replied invocation reply] }
      | none => .error .nullProxy d := by
  simp only [getPlayerInfo, EStateM.run_bind, EStateM.run_get]
  cases d.data.audioPaths.lookupPlayer playerId with
  | none => rfl
  | some player =>
      simp only [playerInfoReply, Player.getDbusProxy]
      cases player.dbusProxy <;> rfl

theorem getSourceInfo_run (sourceId : String) :
    (getSourceInfo invocation sourceId).run d =
      match sourceInfoReply sourceId (d.data.audioPaths.lookupSource sourceId) with
      | some reply => .ok () { d with log := d.log ++ [.replied invocation reply] }
      | none => .error .nullProxy d := by
  simp only [getSourceInfo, EStateM.run_bind, EStateM.run_get]
  cases d.data.audioPaths.lookupSource sourceId with
  | none => rfl
  | some source =>
      simp only [sourceInfoReply, Source.getDbusProxy]
      cases source.dbusProxy <;> rfl

end Queries

end TapSwitch
