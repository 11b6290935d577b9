import TapSwitch.DBusBehaviour
import TapSwitch.Session

set_option autoImplicit false

/-!
# The daemon in operation

Events reach the daemon one at a time: method calls from the bus, and proxy creations
that complete.  This file defines the daemon as a transition system, lists every step
it can take, and shows that what happens to the registry and the switch is a session.
-/

namespace TapSwitch

open Library

variable {M V : Type}

/-- The methods that only ask. -/
inductive Query where
  | activePlayer (sourceId : String)
  | paths
  | currentPath
  | playerInfo (playerId : String)
  | sourceInfo (sourceId : String)
  | applianceState
  deriving DecidableEq, Repr

/-- What can happen to the daemon, with everything the environment contributes. -/
inductive Event (V : Type) where
  | registerPlayer (object : Nat) (playerId playerName path dest : String)
  | registerSource (object : Nat) (sourceId sourceName playerId path dest : String)
  /-- The proxy creation at this position of the list of creations completes. -/
  | proxyDone (index : Nat) (success : Bool)
  | requestSource (object : Nat) (sourceId : String) (requestData : GVariantWrapper V)
      (outcomes : Outcomes)
  | releasePath (object : Nat) (deactivatePlayer : Bool) (requestData : GVariantWrapper V)
      (outcomes : Outcomes)
  | setReadyState (audioState powerState : UInt8) (outcomes : Outcomes)
      (order : IterationOrder V)
  | query (query : Query)

/-- The event has no effect on registry and switch. -/
def Event.Passive : Event V → Prop
  | .registerPlayer .. | .registerSource .. | .query _ => True
  | _ => False

/-- A proxy creation completes; nothing happens if there is none. -/
def proxyDone (index : Nat) (success : Bool) : HandlerM M V Unit := do
  match (← get).creations[index]? with
  | none => pure ()
  | some creation =>
      modify fun d => { d with creations := d.creations.eraseIdx index }
      mkProxyDone creation success

variable [MaybeBool M]

/-- The handler of a query. -/
def Query.handler (invocation : Nat) : Query → HandlerM M V Unit
  | .activePlayer sourceId => getActivePlayer invocation sourceId
  | .paths => getPaths invocation
  | .currentPath => getCurrentPath invocation
  | .playerInfo playerId => getPlayerInfo invocation playerId
  | .sourceInfo sourceId => getSourceInfo invocation sourceId
  | .applianceState => getState invocation

/-- The handler of an event. -/
def Event.handler (invocation : Nat) : Event V → HandlerM M V Unit
  | .registerPlayer object playerId playerName path dest =>
      TapSwitch.registerPlayer object invocation playerId playerName path dest
  | .registerSource object sourceId sourceName playerId path dest =>
      TapSwitch.registerSource object invocation sourceId sourceName playerId path dest
  | .proxyDone index success => TapSwitch.proxyDone index success
  | .requestSource object sourceId requestData outcomes =>
      TapSwitch.requestSource outcomes object invocation sourceId requestData
  | .releasePath object deactivatePlayer requestData outcomes =>
      releasePathHandler outcomes object invocation deactivatePlayer requestData
  | .setReadyState audioState powerState outcomes order =>
      TapSwitch.setReadyState outcomes order invocation audioState powerState
  | .query q => q.handler invocation

/-- What a query is answered; nothing if it asks for a component without proxy. -/
def Query.reply? (data : HandlerData M V) : Query → Option Reply
  | .activePlayer sourceId =>
      some (.getActivePlayer (data.audioPathSwitch.activePlayer sourceId))
  | .paths =>
      some (.getPaths ((data.audioPaths.forEach .completePaths).map Paths.idsOf)
        ((data.audioPaths.forEach .incompletePaths).map Paths.idsOf))
  | .currentPath =>
      some (.getCurrentPath data.audioPathSwitch.currentSourceId
        data.audioPathSwitch.currentPlayerId)
  | .playerInfo playerId =>
      playerInfoReply playerId (data.audioPaths.lookupPlayer playerId)
  | .sourceInfo sourceId =>
      sourceInfoReply sourceId (data.audioPaths.lookupSource sourceId)
  | .applianceState =>
      let state := data.applianceState.isReadyForPlayback
      some (.getState
        (if MaybeBool.is state false then 0 else if MaybeBool.is state true then 1 else 2))

theorem Query.handler_run (invocation : Nat) (q : Query) (d : Daemon M V) :
    (q.handler invocation).run d =
      match q.reply? d.data with
      | some reply => .ok () { d with log := d.log ++ [.replied invocation reply] }
      | none => .error .nullProxy d := by
  cases q with
  | activePlayer sourceId => exact getActivePlayer_run invocation d sourceId
  | paths => exact getPaths_run invocation d
  | playerInfo playerId => exact getPlayerInfo_run invocation d playerId
  | sourceInfo sourceId => exact getSourceInfo_run invocation d sourceId
  | currentPath | applianceState => rfl

/-- No query is answered like a request. -/
theorem Query.reply?_ne_requestSource {data : HandlerData M V} {q : Query} {reply : Reply}
    (h : q.reply? data = some reply) (playerId : String) (switched : Bool) :
    reply ≠ .requestSource playerId switched := by
  rintro rfl
  cases q with
  | activePlayer | paths | currentPath | applianceState => simp [Query.reply?] at h
  | playerInfo k =>
      cases hlookup : data.audioPaths.lookupPlayer k <;>
        simp [Query.reply?, playerInfoReply, hlookup] at h
  | sourceInfo k =>
      cases hlookup : data.audioPaths.lookupSource k <;>
        simp [Query.reply?, sourceInfoReply, hlookup] at h

namespace Daemon

/-- The daemon when it has just been started. -/
def initial : Daemon M V where
  data := ⟨.empty, {}, Appliance.initial, []⟩
  creations := []
  log := []
  served := 0

omit [MaybeBool M] in
/-- The daemon with one more event counted. -/
def next (d : Daemon M V) : Daemon M V := { d with served := d.served + 1 }

omit [MaybeBool M] in
@[simp] theorem next_data (d : Daemon M V) : d.next.data = d.data := rfl

omit [MaybeBool M] in
@[simp] theorem next_queue (d : Daemon M V) : d.next.queue = d.queue := rfl

omit [MaybeBool M] in
@[simp] theorem next_pendingId (d : Daemon M V) : d.next.pendingId = d.pendingId := rfl

omit [MaybeBool M] in
@[simp] theorem next_creations (d : Daemon M V) : d.next.creations = d.creations := rfl

omit [MaybeBool M] in
@[simp] theorem next_log (d : Daemon M V) : d.next.log = d.log := rfl

omit [MaybeBool M] in
@[simp] theorem next_served (d : Daemon M V) : d.next.served = d.served + 1 := rfl

/-- Handle an event.  Its number serves as the number of the method invocation. -/
def perform (d : Daemon M V) (e : Event V) : EStateM.Result Fault (Daemon M V) Unit :=
  (e.handler d.served).run d.next

variable (M V) in
/-- The daemon as a transition system.  It does not survive a crash. -/
def system : System (Daemon M V) (Event V) where
  init := initial
  step d e := match d.perform e with
    | .ok _ d' => some d'
    | .error _ _ => none

theorem step_eq_some {d d' : Daemon M V} {e : Event V} :
    (system M V).step d e = some d' ↔ d.perform e = .ok () d' := by
  simp only [system]
  cases d.perform e with
  | ok a d'' => simp
  | error fault d'' => simp

omit [MaybeBool M] in
/-- The daemon has answered its next call, and that is all. -/
def replying (d : Daemon M V) (reply : Reply) : Daemon M V :=
  { d.next with log := d.log ++ [.replied d.served reply] }

theorem perform_query (d : Daemon M V) (q : Query) :
    d.perform (.query q) =
      match q.reply? d.data with
      | some reply => .ok () (d.replying reply)
      | none => .error .nullProxy d.next :=
  q.handler_run d.served d.next

/-- A query changes nothing but the log. -/
theorem step_query (d : Daemon M V) (q : Query) :
    (system M V).step d (.query q) = (q.reply? d.data).map d.replying := by
  simp only [system, perform_query]
  cases q.reply? d.data <;> rfl

theorem step_of_error {d d' : Daemon M V} {e : Event V} {fault : Fault}
    (hrun : d.perform e = .error fault d') : (system M V).step d e = none := by
  simp only [system, hrun]

end Daemon

/-! ## Everything the daemon can do -/

/-- The proxy that a creation yields. -/
def newProxy (success : Bool) (invocation : Nat) (dest path : String) : Option Proxy :=
  if success then some ⟨invocation, dest, path⟩ else none

/-- The creation that a registration starts, if it has no empty argument. -/
def Event.creation (invocation : Nat) : Event V → Option Creation
  | .registerPlayer object playerId playerName path dest =>
      if playerId = "" ∨ playerName = "" ∨ path = "" then none
      else some (.player object invocation playerId playerName dest path)
  | .registerSource object sourceId sourceName playerId path dest =>
      if sourceId = "" ∨ sourceName = "" ∨ playerId = "" ∨ path = "" then none
      else some (.source object invocation sourceId sourceName playerId dest path)
  | _ => none

/-- Something is to be registered. -/
def Event.Registers : Event V → Prop
  | .registerPlayer .. | .registerSource .. => True
  | _ => False

theorem Event.registers_of_creation {e : Event V} {invocation : Nat} {creation : Creation}
    (h : e.creation invocation = some creation) : e.Registers := by
  cases e with
  | registerPlayer | registerSource => trivial
  | proxyDone | requestSource | releasePath | setReadyState | query => cases h

theorem Event.Registers.passive {e : Event V} (h : e.Registers) : e.Passive := by
  cases e with
  | registerPlayer | registerSource => trivial
  | proxyDone | requestSource | releasePath | setReadyState | query => exact h.elim

/-- A registration starts the creation of a proxy, or it is refused. -/
theorem Daemon.perform_registration (d : Daemon M V) {e : Event V} (h : e.Registers) :
    d.perform e = .ok () (match e.creation d.served with
      | some creation => { d.next with creations := d.creations ++ [creation] }
      | none => d.replying (.error .invalidArgs "Empty argument")) := by
  cases e with
  | registerPlayer object playerId playerName path dest =>
      simp only [perform, Event.handler, registerPlayer, Event.creation]
      split <;> rfl
  | registerSource object sourceId sourceName playerId path dest =>
      simp only [perform, Event.handler, registerSource, Event.creation]
      split <;> rfl
  | proxyDone | requestSource | releasePath | setReadyState | query => exact h.elim

/-- Every step of a daemon whose switch is consistent. -/
inductive Steps (d : Daemon M V) : Event V → Daemon M V → Prop where
  | answered {e : Event V} {reply : Reply} : e.Passive →
      (∀ playerId switched, reply ≠ .requestSource playerId switched) →
      Steps d e { d.next with log := d.log ++ [.replied d.served reply] }
  | creating {e : Event V} {creation : Creation} : e.creation d.served = some creation →
      Steps d e { d.next with creations := d.creations ++ [creation] }
  | noCreation {i : Nat} {success : Bool} : d.creations[i]? = none →
      Steps d (.proxyDone i success) d.next
  | playerRegistered {i : Nat} {success : Bool} {object invocation : Nat}
      {playerId playerName dest path : String} :
      d.creations[i]? =
        some (.player object invocation playerId playerName dest path) →
      Steps d (.proxyDone i success)
        ({ d.next with creations := d.creations.eraseIdx i }.playerRegistered object
          invocation ⟨playerId, playerName, newProxy success invocation dest path⟩)
  | sourceRegistered {i : Nat} {success : Bool} {object invocation : Nat}
      {sourceId sourceName playerId dest path : String} :
      d.creations[i]? =
        some (.source object invocation sourceId sourceName playerId dest path) →
      Steps d (.proxyDone i success)
        ({ d.next with creations := d.creations.eraseIdx i }.sourceRegistered object
          invocation
          ⟨sourceId, sourceName, playerId, newProxy success invocation dest path⟩)
  | requested {object : Nat} {sourceId : String} {data : GVariantWrapper V}
      {outcomes : Outcomes} {a : Activation} {switch : Switch V} {es : List (BusEntry V)} :
      (activateSource outcomes d.data.audioPaths sourceId
        d.data.applianceState.enableAllowed data).run ⟨d.data.audioPathSwitch, []⟩ =
          .ok a ⟨switch, es⟩ →
      Activates outcomes d.data.audioPaths d.data.audioPathSwitch data sourceId
        d.data.applianceState.enableAllowed a switch es →
      Steps d (.requestSource object sourceId data outcomes)
        (d.next.requested object d.served sourceId data a switch es)
  | released {object : Nat} {deactivatePlayer : Bool} {data : GVariantWrapper V}
      {outcomes : Outcomes} {r : Release} {switch : Switch V} {es : List (BusEntry V)} :
      (releasePath outcomes d.data.audioPaths deactivatePlayer data).run
        ⟨d.data.audioPathSwitch, []⟩ = .ok r ⟨switch, es⟩ →
      Releases outcomes d.data.audioPaths d.data.audioPathSwitch data deactivatePlayer
        r switch es →
      Steps d (.releasePath object deactivatePlayer data outcomes)
        (d.next.released object d.served data r switch es)
  | completed {audioState powerState : UInt8} {outcomes : Outcomes}
      {order : IterationOrder V} {appliance : Appliance M} {suspended : Bool}
      {result : ActivateResult} {switch : Switch V} {es : List (BusEntry V)} :
      readAppliance d.data.applianceState audioState powerState = (appliance, suspended) →
      appliance.enableAllowed = true →
      (completePendingSourceActivation outcomes d.data.audioPaths (some "")).run
        ⟨d.data.audioPathSwitch, []⟩ =
          .ok (result, takenSourceId d.data.audioPathSwitch (some "")) ⟨switch, es⟩ →
      Completes outcomes d.data.audioPaths d.data.audioPathSwitch result switch es →
      Steps d (.setReadyState audioState powerState outcomes order)
        (d.next.completed order d.served appliance result switch es)
  | canceled {audioState powerState : UInt8} {outcomes : Outcomes}
      {order : IterationOrder V} {appliance : Appliance M} {sourceId : String}
      {result : ActivateResult} {switch : Switch V} {es : List (BusEntry V)} :
      readAppliance d.data.applianceState audioState powerState = (appliance, true) →
      appliance.enableAllowed = false →
      (cancelPendingSourceActivation outcomes d.data.audioPaths "").run
        ⟨d.data.audioPathSwitch, []⟩ = .ok (result, sourceId) ⟨switch, es⟩ →
      Cancels outcomes d.data.audioPaths d.data.audioPathSwitch result switch es →
      Steps d (.setReadyState audioState powerState outcomes order)
        (d.next.canceled order d.served appliance result switch es)
  | postponed {audioState powerState : UInt8} {outcomes : Outcomes}
      {order : IterationOrder V} {appliance : Appliance M} :
      readAppliance d.data.applianceState audioState powerState = (appliance, false) →
      appliance.enableAllowed = false →
      Steps d (.setReadyState audioState powerState outcomes order)
        (d.next.postponed d.served appliance)

/-- Every way such a daemon can crash. -/
inductive Crashes (d : Daemon M V) : Event V → Prop where
  | requesting {object : Nat} {sourceId : String} {data : GVariantWrapper V}
      {outcomes : Outcomes} {es : List (BusEntry V)} :
      ActivationCrashes outcomes d.data.audioPaths d.data.audioPathSwitch data sourceId es →
      Crashes d (.requestSource object sourceId data outcomes)
  | releasing {object : Nat} {deactivatePlayer : Bool} {data : GVariantWrapper V}
      {outcomes : Outcomes} {es : List (BusEntry V)} :
      ReleaseCrashes outcomes d.data.audioPaths d.data.audioPathSwitch data es →
      Crashes d (.releasePath object deactivatePlayer data outcomes)
  | completing {audioState powerState : UInt8} {outcomes : Outcomes}
      {order : IterationOrder V} :
      (readAppliance d.data.applianceState audioState powerState).1.enableAllowed = true →
      PendingProxyMissing d.data.audioPaths d.data.audioPathSwitch →
      Crashes d (.setReadyState audioState powerState outcomes order)
  | canceling {audioState powerState : UInt8} {outcomes : Outcomes}
      {order : IterationOrder V} :
      (readAppliance d.data.applianceState audioState powerState).1.enableAllowed = false →
      (readAppliance d.data.applianceState audioState powerState).2 = true →
      PendingProxyMissing d.data.audioPaths d.data.audioPathSwitch →
      Crashes d (.setReadyState audioState powerState outcomes order)
  | playerInfo {playerId : String} {player : Player} :
      d.data.audioPaths.lookupPlayer playerId = some player → player.dbusProxy = none →
      Crashes d (.query (.playerInfo playerId))
  | sourceInfo {sourceId : String} {source : Source} :
      d.data.audioPaths.lookupSource sourceId = some source → source.dbusProxy = none →
      Crashes d (.query (.sourceInfo sourceId))

namespace Daemon

variable {d d' : Daemon M V}

/-- The event is handled in one of the listed ways. -/
def Listed (d : Daemon M V) (e : Event V) : Prop :=
  (∃ d', Steps d e d' ∧ d.perform e = .ok () d') ∨
    (∃ d', Crashes d e ∧ d.perform e = .error .nullProxy d')

theorem perform_noCreation {i : Nat} (hcreation : d.creations[i]? = none) (success : Bool) :
    d.perform (.proxyDone i success) = .ok () d.next := by
  simp [perform, Event.handler, proxyDone, next, hcreation]

theorem perform_playerDone {i object invocation : Nat} {playerId playerName dest path : String}
    (hcreation : d.creations[i]? =
      some (.player object invocation playerId playerName dest path)) (success : Bool) :
    d.perform (.proxyDone i success) = .ok ()
      ({ d.next with creations := d.creations.eraseIdx i }.playerRegistered object invocation
        ⟨playerId, playerName, newProxy success invocation dest path⟩) := by
  simp [perform, Event.handler, proxyDone, next, hcreation, mkProxyDone,
    registerPlayerBottomHalf_run, newProxy]

theorem perform_sourceDone {i object invocation : Nat}
    {sourceId sourceName playerId dest path : String}
    (hcreation : d.creations[i]? =
      some (.source object invocation sourceId sourceName playerId dest path)) (success : Bool) :
    d.perform (.proxyDone i success) = .ok ()
      ({ d.next with creations := d.creations.eraseIdx i }.sourceRegistered object invocation
        ⟨sourceId, sourceName, playerId, newProxy success invocation dest path⟩) := by
  simp [perform, Event.handler, proxyDone, next, hcreation, mkProxyDone,
    registerSourceBottomHalf_run, newProxy]

theorem listed_proxyDone (d : Daemon M V) (i : Nat) (success : Bool) :
    d.Listed (.proxyDone i success) := by
  refine .inl ?_
  cases hcreation : d.creations[i]? with
  | none =>
      exact ⟨_, .noCreation hcreation, perform_noCreation hcreation success⟩
  | some creation =>
      cases creation with
      | player object invocation playerId playerName dest path =>
          exact ⟨_, .playerRegistered hcreation, perform_playerDone hcreation success⟩
      | source object invocation sourceId sourceName playerId dest path =>
          exact ⟨_, .sourceRegistered hcreation, perform_sourceDone hcreation success⟩

theorem listed_of_reply {e : Event V} (reply : Reply) (hpassive : e.Passive)
    (hreply : ∀ playerId switched, reply ≠ .requestSource playerId switched)
    (hrun : d.perform e = .ok () (d.replying reply)) : d.Listed e :=
  .inl ⟨_, .answered hpassive hreply, hrun⟩

/-- A component that cannot be asked is registered without proxy. -/
theorem crashes_of_reply?_eq_none {q : Query} (h : q.reply? d.data = none) :
    Crashes d (.query q) := by
  cases q with
  | activePlayer | paths | currentPath | applianceState => cases h
  | playerInfo playerId =>
      cases hlookup : d.data.audioPaths.lookupPlayer playerId with
      | none => simp [Query.reply?, playerInfoReply, hlookup] at h
      | some player =>
          refine .playerInfo hlookup ?_
          simpa [Query.reply?, playerInfoReply, hlookup] using h
  | sourceInfo sourceId =>
      cases hlookup : d.data.audioPaths.lookupSource sourceId with
      | none => simp [Query.reply?, sourceInfoReply, hlookup] at h
      | some source =>
          refine .sourceInfo hlookup ?_
          simpa [Query.reply?, sourceInfoReply, hlookup] using h

theorem listed_query (d : Daemon M V) (q : Query) : d.Listed (.query q) := by
  have hperform := perform_query d q
  cases hreply : q.reply? d.data with
  | some reply =>
      rw [hreply] at hperform
      exact listed_of_reply reply trivial (Query.reply?_ne_requestSource hreply) hperform
  | none =>
      rw [hreply] at hperform
      exact .inr ⟨d.next, crashes_of_reply?_eq_none hreply, hperform⟩

theorem listed_registration (d : Daemon M V) {e : Event V} (h : e.Registers) : d.Listed e := by
  have hperform := d.perform_registration h
  cases hcreation : e.creation d.served with
  | some creation =>
      rw [hcreation] at hperform
      exact .inl ⟨_, .creating hcreation, hperform⟩
  | none =>
      rw [hcreation] at hperform
      exact listed_of_reply _ h.passive (by simp) hperform

/-- A switch that reports success also names the player. -/
theorem playerId_of_isOk {outcomes : Outcomes} {paths : Paths} {sw sw' : Switch V}
    {data : GVariantWrapper V} {sourceId : String} {now : Bool} {a : Activation}
    {es : List (BusEntry V)}
    (ha : Activates outcomes paths sw data sourceId now a sw' es) :
    a.result.isOk → a.playerId.isSome := by
  cases ha with
  | rejected hrejects => cases hrejects <;> simp [ActivateResult.isOk]
  | unchanged | alreadyPending | switched => simp
  | playerFailed | sourceFailed => simp

theorem listed_setReadyState (h : Consistent d.data.audioPaths d.data.audioPathSwitch)
    (audioState powerState : UInt8) (outcomes : Outcomes) (order : IterationOrder V) :
    d.Listed (.setReadyState audioState powerState outcomes order) := by
  cases hread : readAppliance d.data.applianceState audioState powerState with
  | mk appliance suspended =>
      cases hallowed : appliance.enableAllowed with
      | true =>
          rcases completePendingSourceActivation_run outcomes h (some "") [] with
            ⟨r, sw', es, hc, hrun⟩ | ⟨hmissing, hrun⟩
          · exact .inl ⟨_, .completed hread hallowed hrun hc,
              setReadyState_completed (d := d.next) hread hallowed h hc hrun⟩
          · exact .inr ⟨_, .completing (by rw [hread]; exact hallowed) hmissing,
              setReadyState_completion_crash (d := d.next) hread hallowed hrun⟩
      | false =>
          cases suspended with
          | true =>
              rcases cancelPendingSourceActivation_run outcomes h "" [] with
                ⟨r, sw', es, hc, hrun⟩ | ⟨hmissing, hrun⟩
              · exact .inl ⟨_, .canceled hread hallowed hrun hc,
                  setReadyState_canceled (d := d.next) hread hallowed hc hrun⟩
              · exact .inr ⟨_, .canceling (by rw [hread]; exact hallowed) (by rw [hread])
                  hmissing, setReadyState_cancellation_crash (d := d.next) hread hallowed hrun⟩
          | false =>
              exact .inl ⟨_, .postponed hread hallowed,
                setReadyState_postponed (d := d.next) hread hallowed⟩

/-- A daemon whose switch is consistent handles every event in one of the listed ways. -/
theorem listed (h : Consistent d.data.audioPaths d.data.audioPathSwitch) (e : Event V) :
    d.Listed e := by
  cases e with
  | registerPlayer | registerSource => exact listed_registration d trivial
  | proxyDone i success => exact listed_proxyDone d i success
  | requestSource object sourceId data outcomes =>
      rcases activateSource_run outcomes data h sourceId
          d.data.applianceState.enableAllowed [] with
        ⟨a, sw', es, ha, hrun⟩ | ⟨sw', es, hcrash, hrun⟩
      · exact .inl ⟨_, .requested hrun ha, requestSource_run hrun (playerId_of_isOk ha)⟩
      · exact .inr ⟨_, .requesting hcrash, requestSource_crash hrun⟩
  | releasePath object deactivatePlayer data outcomes =>
      rcases releasePath_run outcomes data h deactivatePlayer [] with
        ⟨r, sw', es, hr, hrun⟩ | ⟨sw', es, hcrash, hrun⟩
      · exact .inl ⟨_, .released hrun hr, releasePathHandler_run hrun⟩
      · exact .inr ⟨_, .releasing hcrash, releasePathHandler_crash hrun⟩
  | setReadyState audioState powerState outcomes order =>
      exact listed_setReadyState h audioState powerState outcomes order
  | query q => exact listed_query d q

end Daemon

/-! ## The daemon as a session -/

/-- The ID under which the component will be registered. -/
def Creation.id : Creation → String
  | .player _ _ playerId .. => playerId
  | .source _ _ sourceId .. => sourceId

/-- The session that a daemon conducts. -/
structure Conducts (d : Daemon M V) (s : Session V) : Prop where
  paths : s.paths = d.data.audioPaths
  switch : s.switch = d.data.audioPathSwitch
  log : s.log = busLog d.log
  /-- Empty IDs have been refused. -/
  named : ∀ creation ∈ d.creations, creation.id ≠ ""

omit [MaybeBool M] in
theorem id_of_creation {e : Event V} {invocation : Nat} {creation : Creation}
    (h : e.creation invocation = some creation) : creation.id ≠ "" := by
  cases e with
  | registerPlayer object playerId playerName path dest =>
      simp only [Event.creation] at h
      split at h
      · simp at h
      · rename_i hnonempty
        rw [← Option.some.inj h]
        exact fun hid => hnonempty (.inl hid)
  | registerSource object sourceId sourceName playerId path dest =>
      simp only [Event.creation] at h
      split at h
      · simp at h
      · rename_i hnonempty
        rw [← Option.some.inj h]
        exact fun hid => hnonempty (.inl hid)
  | proxyDone | requestSource | releasePath | setReadyState | query =>
      simp [Event.creation] at h

/-- A step of the daemon is an operation of the session, or does not concern it. -/
theorem Conducts.step {d d' : Daemon M V} {s : Session V} {e : Event V}
    (h : Conducts d s) (hstep : Steps d e d') :
    Conducts d' s ∨ ∃ op s', s.perform op = .ok () s' ∧ Conducts d' s' := by
  obtain ⟨paths, switch, log⟩ := s
  obtain ⟨rfl, rfl, rfl, hnamed⟩ := h
  cases hstep with
  | answered => exact .inl ⟨rfl, rfl, by simp, hnamed⟩
  | creating hcreation =>
      refine .inl ⟨rfl, rfl, rfl, ?_⟩
      intro creation hmem
      rcases List.mem_append.mp hmem with hold | hnew
      · exact hnamed creation hold
      · rw [List.mem_singleton.mp hnew]
        exact id_of_creation hcreation
  | noCreation => exact .inl ⟨rfl, rfl, rfl, hnamed⟩
  | @playerRegistered i success object invocation playerId playerName dest path hcreation =>
      have hid : playerId ≠ "" := hnamed _ (List.mem_of_getElem? hcreation)
      refine .inr ⟨.addPlayer ⟨playerId, playerName, newProxy success invocation dest path⟩,
        _, rfl, ?_⟩
      rw [if_neg hid]
      refine ⟨rfl, rfl, ?_, ?_⟩
      · simp
      · exact fun creation hmem => hnamed creation (List.mem_of_mem_eraseIdx hmem)
  | @sourceRegistered i success object invocation sourceId sourceName playerId dest path
      hcreation =>
      have hid : sourceId ≠ "" := hnamed _ (List.mem_of_getElem? hcreation)
      refine .inr ⟨.addSource
        ⟨sourceId, sourceName, playerId, newProxy success invocation dest path⟩, _, rfl, ?_⟩
      rw [if_neg hid]
      refine ⟨rfl, rfl, ?_, ?_⟩
      · simp
      · exact fun creation hmem => hnamed creation (List.mem_of_mem_eraseIdx hmem)
  | @requested object sourceId data outcomes a sw' es hrun ha =>
      refine .inr ⟨.activateSource sourceId d.data.applianceState.enableAllowed data outcomes,
        ⟨d.data.audioPaths, sw', busLog d.log ++ es⟩, ?_, rfl, rfl, ?_, hnamed⟩
      · simp only [Session.perform, Session.carryOut, hrun]
        rfl
      · simp
  | @released object deactivatePlayer data outcomes r sw' es hrun hr =>
      refine .inr ⟨.releasePath deactivatePlayer data outcomes,
        ⟨d.data.audioPaths, sw', busLog d.log ++ es⟩, ?_, rfl, rfl, ?_, hnamed⟩
      · simp only [Session.perform, Session.carryOut, hrun]
        rfl
      · simp
  | @completed audioState powerState outcomes order appliance suspended r sw' es hread
      hallowed hrun hc =>
      refine .inr ⟨.completePending (some "") outcomes,
        ⟨d.data.audioPaths, sw', busLog d.log ++ es⟩, ?_, rfl, rfl, ?_, hnamed⟩
      · simp only [Session.perform, Session.carryOut, hrun]
        rfl
      · simp
  | @canceled audioState powerState outcomes order appliance sourceId r sw' es hread
      hallowed hrun hc =>
      refine .inr ⟨.cancelPending "" outcomes,
        ⟨d.data.audioPaths, sw', busLog d.log ++ es⟩, ?_, rfl, rfl, ?_, hnamed⟩
      · simp only [Session.perform, Session.carryOut, hrun]
        rfl
      · simp
  | postponed =>
      exact .inl ⟨rfl, rfl, by simp, hnamed⟩

namespace Daemon

variable {d d' : Daemon M V}

/-- The daemon simulates a session. -/
theorem simulates_session : (system M V).Simulates (Session.system V) Conducts where
  init := ⟨rfl, rfl, rfl, by simp [system, initial]⟩
  step {d e d' s} hreach hconducts hstep := by
    have hsound := Session.sound_of_reachable hreach
    have hsw : Consistent d.data.audioPaths d.data.audioPathSwitch :=
      hconducts.paths ▸ hconducts.switch ▸ hsound.consistent
    have hperform := step_eq_some.mp hstep
    rcases listed hsw e with ⟨d'', hsteps, hrun⟩ | ⟨d'', -, hrun⟩
    · rw [hperform] at hrun
      cases hrun
      rcases hconducts.step hsteps with hstays | ⟨op, s', hop, hconducts'⟩
      · exact .inl hstays
      · exact .inr ⟨op, s', Session.step_eq_some.mpr hop, hconducts'⟩
    · rw [hperform] at hrun
      cases hrun

/-- A reachable daemon conducts a reachable session. -/
theorem exists_session (h : (system M V).Reachable d) :
    ∃ s, (Session.system V).Reachable s ∧ Conducts d s :=
  simulates_session.reachable h

theorem consistent_of_reachable (h : (system M V).Reachable d) :
    Consistent d.data.audioPaths d.data.audioPathSwitch := by
  obtain ⟨s, hreach, hconducts⟩ := exists_session h
  rw [← hconducts.paths, ← hconducts.switch]
  exact (Session.sound_of_reachable hreach).consistent

theorem named_of_reachable (h : (system M V).Reachable d) :
    d.data.audioPaths.lookupPlayer "" = none := by
  obtain ⟨s, hreach, hconducts⟩ := exists_session h
  rw [← hconducts.paths]
  exact (Session.sound_of_reachable hreach).named

/-- A reachable daemon takes none but the listed steps. -/
theorem steps_of_step {e : Event V} (h : (system M V).Reachable d)
    (hstep : (system M V).step d e = some d') : Steps d e d' := by
  have hperform := step_eq_some.mp hstep
  rcases listed (consistent_of_reachable h) e with ⟨d'', hsteps, hrun⟩ | ⟨d'', -, hrun⟩
  · rw [hperform] at hrun
    cases hrun
    exact hsteps
  · rw [hperform] at hrun
    cases hrun

/-! ## Crashes -/

/-- Every registered component has a D-Bus proxy. -/
structure Provided (paths : Paths) : Prop where
  player : ∀ {k : String} {player : Player}, paths.lookupPlayer k = some player →
    player.dbusProxy ≠ none
  source : ∀ {k : String} {source : Source}, paths.lookupSource k = some source →
    source.dbusProxy ≠ none

omit [MaybeBool M] in
theorem Provided.held {paths : Paths} {sw : Switch V} (h : Provided paths) :
    ¬ HeldProxyMissing paths sw := by
  rintro ⟨source, hnone, ⟨-, hlookup⟩ | ⟨-, -, hlookup⟩⟩
  · exact h.source hlookup hnone
  · exact h.source hlookup hnone

omit [MaybeBool M] in
theorem Provided.current {paths : Paths} {playerId : String} (h : Provided paths) :
    ¬ PlayerProxyMissing paths playerId := by
  rintro ⟨player, hnone, -, hlookup⟩
  exact h.player hlookup hnone

omit [MaybeBool M] in
theorem Provided.pending {paths : Paths} {sw : Switch V} (h : Provided paths) :
    ¬ PendingProxyMissing paths sw := by
  rintro ⟨-, source, hnone, hlookup⟩
  exact h.source hlookup hnone

omit [MaybeBool M] in
theorem Provided.activation {outcomes : Outcomes} {paths : Paths} {sw : Switch V}
    {data : GVariantWrapper V} {sourceId : String} {es : List (BusEntry V)}
    (h : Provided paths) : ¬ ActivationCrashes outcomes paths sw data sourceId es := by
  intro hcrash
  cases hcrash with
  | deselecting hmissing => exact h.held hmissing
  | deactivating _ hmissing => exact h.current hmissing
  | activating hpath _ _ hnone => exact h.player (Paths.lookupPath_eq_some.mp hpath).2 hnone
  | selecting hpath _ _ hnone => exact h.source (Paths.lookupPath_eq_some.mp hpath).1 hnone

/-- Nothing crashes as long as every component has its proxy. -/
theorem Provided.no_crash {e : Event V} (h : Provided d.data.audioPaths) :
    ¬ Crashes d e := by
  intro hcrash
  cases hcrash with
  | requesting hactivation => exact h.activation hactivation
  | releasing hrelease =>
      cases hrelease with
      | deselecting hmissing => exact h.held hmissing
      | deactivating _ hmissing => exact h.current hmissing
  | completing _ hmissing => exact h.pending hmissing
  | canceling _ _ hmissing => exact h.pending hmissing
  | playerInfo hlookup hnone => exact h.player hlookup hnone
  | sourceInfo hlookup hnone => exact h.source hlookup hnone

/-- What a crash leaves behind: the calls made before it, and for `SetReadyState` the new
appliance state. -/
inductive Leaves (d : Daemon M V) : Event V → Daemon M V → Prop where
  | requesting {object : Nat} {sourceId : String} {data : GVariantWrapper V}
      {outcomes : Outcomes} {switch : Switch V} {es : List (BusEntry V)} :
      ActivationCrashes outcomes d.data.audioPaths d.data.audioPathSwitch data sourceId es →
      Leaves d (.requestSource object sourceId data outcomes) (d.next.absorb ⟨switch, es⟩)
  | releasing {object : Nat} {deactivatePlayer : Bool} {data : GVariantWrapper V}
      {outcomes : Outcomes} {switch : Switch V} {es : List (BusEntry V)} :
      ReleaseCrashes outcomes d.data.audioPaths d.data.audioPathSwitch data es →
      Leaves d (.releasePath object deactivatePlayer data outcomes)
        (d.next.absorb ⟨switch, es⟩)
  | readying {audioState powerState : UInt8} {outcomes : Outcomes}
      {order : IterationOrder V} {switch : Switch V} :
      PendingProxyMissing d.data.audioPaths d.data.audioPathSwitch →
      switch = d.data.audioPathSwitch.deselected →
      Leaves d (.setReadyState audioState powerState outcomes order)
        ((d.next.withAppliance
          (readAppliance d.data.applianceState audioState powerState).1).absorb ⟨switch, []⟩)
  | asking {q : Query} : Leaves d (.query q) d.next

theorem leaves_query {q : Query} {fault : Fault}
    (hcrash : d.perform (.query q) = .error fault d') : Leaves d (.query q) d' := by
  have hnext : d' = d.next := by
    rw [perform_query] at hcrash
    cases hreply : q.reply? d.data with
    | some reply => simp [hreply] at hcrash
    | none =>
        rw [hreply, EStateM.Result.error.injEq] at hcrash
        exact hcrash.2.symm
  rw [hnext]
  exact .asking

theorem leaves_setReadyState (h : Consistent d.data.audioPaths d.data.audioPathSwitch)
    {audioState powerState : UInt8} {outcomes : Outcomes} {order : IterationOrder V}
    {fault : Fault}
    (hcrash : d.perform (.setReadyState audioState powerState outcomes order) =
      .error fault d') :
    Leaves d (.setReadyState audioState powerState outcomes order) d' := by
  cases hread : readAppliance d.data.applianceState audioState powerState with
  | mk appliance suspended =>
      have hleaves : ∀ {fault'}, PendingProxyMissing d.data.audioPaths d.data.audioPathSwitch →
          d.perform (.setReadyState audioState powerState outcomes order) = .error fault'
            ((d.next.withAppliance appliance).absorb ⟨d.data.audioPathSwitch.deselected, []⟩) →
          Leaves d (.setReadyState audioState powerState outcomes order) d' := by
        intro fault' hmissing hrun
        rw [hcrash, EStateM.Result.error.injEq] at hrun
        rw [hrun.2, show appliance = _ from (congrArg Prod.fst hread).symm]
        exact .readying hmissing rfl
      cases hallowed : appliance.enableAllowed with
      | true =>
          rcases completePendingSourceActivation_run outcomes h (some "") [] with
            ⟨r, sw', es, hc, hrun⟩ | ⟨hmissing, hrun⟩
          · cases hcrash.symm.trans
              (setReadyState_completed (d := d.next) hread hallowed h hc hrun)
          · exact hleaves hmissing
              (setReadyState_completion_crash (d := d.next) hread hallowed hrun)
      | false =>
          cases suspended with
          | true =>
              rcases cancelPendingSourceActivation_run outcomes h "" [] with
                ⟨r, sw', es, hc, hrun⟩ | ⟨hmissing, hrun⟩
              · cases hcrash.symm.trans
                  (setReadyState_canceled (d := d.next) hread hallowed hc hrun)
              · exact hleaves hmissing
                  (setReadyState_cancellation_crash (d := d.next) hread hallowed hrun)
          | false =>
              cases hcrash.symm.trans (setReadyState_postponed (d := d.next) hread hallowed)

/-- A daemon whose switch is consistent leaves behind what is listed. -/
theorem leaves (h : Consistent d.data.audioPaths d.data.audioPathSwitch) {e : Event V}
    {fault : Fault} (hcrash : d.perform e = .error fault d') : Leaves d e d' := by
  have hquiet : ¬ Crashes d e → Leaves d e d' := by
    intro hnone
    rcases listed h e with ⟨d'', -, hrun⟩ | ⟨d'', hcrashes, -⟩
    · cases hcrash.symm.trans hrun
    · exact absurd hcrashes hnone
  cases e with
  | registerPlayer | registerSource | proxyDone => exact hquiet (by rintro ⟨⟩)
  | requestSource object sourceId data outcomes =>
      rcases activateSource_run outcomes data h sourceId
          d.data.applianceState.enableAllowed [] with ⟨a, sw', es, ha, hrun⟩ | ⟨sw', es, hc, hrun⟩
      · cases hcrash.symm.trans (requestSource_run (d := d.next) hrun (playerId_of_isOk ha))
      · have hleft := hcrash.symm.trans (requestSource_crash (d := d.next) hrun)
        rw [EStateM.Result.error.injEq] at hleft
        rw [hleft.2]
        exact .requesting hc
  | releasePath object deactivatePlayer data outcomes =>
      rcases releasePath_run outcomes data h deactivatePlayer [] with
        ⟨r, sw', es, hr, hrun⟩ | ⟨sw', es, hc, hrun⟩
      · cases hcrash.symm.trans (releasePathHandler_run (d := d.next) hrun)
      · have hleft := hcrash.symm.trans (releasePathHandler_crash (d := d.next) hrun)
        rw [EStateM.Result.error.injEq] at hleft
        rw [hleft.2]
        exact .releasing hc
  | setReadyState => exact leaves_setReadyState h hcrash
  | query => exact leaves_query hcrash

/-- The daemon an event ends in, whether it is handled to its end or crashes. -/
def afterwards (d : Daemon M V) (e : Event V) : Daemon M V :=
  match d.perform e with
  | .ok _ d' | .error _ d' => d'

/-- Whatever happens, it is listed. -/
theorem steps_or_leaves (h : Consistent d.data.audioPaths d.data.audioPathSwitch)
    (e : Event V) : Steps d e (d.afterwards e) ∨ Leaves d e (d.afterwards e) := by
  unfold afterwards
  rcases listed h e with ⟨d', hsteps, hrun⟩ | ⟨d', -, hrun⟩
  · rw [hrun]
    exact .inl hsteps
  · rw [hrun]
    exact .inr (leaves h hrun)

theorem exists_step (hreach : (system M V).Reachable d) (h : Provided d.data.audioPaths)
    (e : Event V) : ∃ d', (system M V).step d e = some d' := by
  rcases listed (consistent_of_reachable hreach) e with ⟨d', -, hrun⟩ | ⟨d', hcrash, -⟩
  · exact ⟨d', step_eq_some.mpr hrun⟩
  · exact absurd hcrash h.no_crash

end Daemon

end TapSwitch
