import TapSwitch.Library.Refinement
import TapSwitch.ReadyState

set_option autoImplicit false

/-!
# The appliance and the audio

Whether a source may really be selected depends on what the appliance has last said
about its power and audio path states.  This file proves that nothing starts playing
while the appliance is known to be suspended or blocked, and what exactly becomes of a
pending activation when these states change, unless its source has lost its proxy.
-/

namespace TapSwitch

open Library

variable {M V : Type} [MaybeBool M]

/-! ## What the appliance has said -/

/-- What the power byte makes of the power state, and whether that is a new suspension. -/
def readPower (appliance : Appliance M) (powerState : UInt8) : M × Bool :=
  match powerState with
  | 1 => setState appliance.isUpAndRunning false
  | 2 => ((setState appliance.isUpAndRunning true).1, false)
  | _ => (MaybeBool.unknown, false)

/-- Any other power byte means that the power state is not known. -/
theorem readPower_other {appliance : Appliance M} {powerState : UInt8} (hsuspend : powerState ≠ 1)
    (hrun : powerState ≠ 2) : readPower appliance powerState = (MaybeBool.unknown, false) := by
  unfold readPower
  split
  · exact absurd rfl hsuspend
  · exact absurd rfl hrun
  · rfl

/-- The audio byte does not matter for it. -/
theorem readAppliance_power (appliance : Appliance M) (audioState powerState : UInt8) :
    ((readAppliance appliance audioState powerState).1.isUpAndRunning,
      (readAppliance appliance audioState powerState).2) = readPower appliance powerState := by
  unfold readAppliance
  split
  rename_i powered suspended hpower
  have haudio : (match audioState with
      | 1 => powered.setAudioPathBlocked.1
      | 2 => powered.setAudioPathReady.1
      | _ => powered.setAudioPathUnknown).isUpAndRunning = powered.isUpAndRunning := by
    split <;> rfl
  split at hpower
  · cases hpower
    exact Prod.ext haudio rfl
  · cases hpower
    exact Prod.ext haudio rfl
  · rename_i hsuspend hrun
    cases hpower
    rw [readPower_other hsuspend hrun]
    exact Prod.ext haudio rfl

section Known

variable [LawfulMaybeBool M] (appliance : Appliance M)

theorem Appliance.enableAllowed_iff :
    appliance.enableAllowed = true ↔
      ¬ appliance.KnownSuspended ∧ ¬ appliance.KnownBlocked := by
  unfold enableAllowed isAudioPathEnableAllowed KnownSuspended KnownBlocked
  rw [← LawfulMaybeBool.is_iff, ← LawfulMaybeBool.is_iff]
  simp

theorem Appliance.enableAllowed_eq_false :
    appliance.enableAllowed = false ↔ appliance.KnownSuspended ∨ appliance.KnownBlocked := by
  rw [← Bool.not_eq_true, enableAllowed_iff, not_and_or, not_not, not_not]

theorem readPower_suspended (powerState : UInt8) :
    (readPower appliance powerState).2 = true ↔
      LawfulMaybeBool.value? (readPower appliance powerState).1 = some false ∧
        LawfulMaybeBool.value? appliance.isUpAndRunning ≠ some false := by
  unfold readPower
  split
  · rw [Appliance.setState_changed, Appliance.value?_setState]
    simp
  · simp [Appliance.value?_setState]
  · simp [LawfulMaybeBool.value?_unknown]

/-- The appliance has just been suspended if it is known to be now, and was not before. -/
theorem readAppliance_suspended (audioState powerState : UInt8) :
    (readAppliance appliance audioState powerState).2 = true ↔
      (readAppliance appliance audioState powerState).1.KnownSuspended ∧
        ¬ appliance.KnownSuspended := by
  obtain ⟨hstate, hreport⟩ := Prod.mk.inj (readAppliance_power appliance audioState powerState)
  unfold Appliance.KnownSuspended
  rw [hstate, hreport]
  exact readPower_suspended appliance powerState

end Known

/-! ## The gate -/

/-- A source has finally been selected, or has been said to be active. -/
def Starts (log : List (Entry V)) : Prop :=
  (∃ call ok, .called call ok ∈ busLog log ∧ call.method = .selected) ∨
    ∃ sourceId playerId data, .pathActivated sourceId playerId data ∈ signals log ∧ sourceId ≠ ""

section

variable {d d' : Daemon M V} {e : Event V} {es : List (Entry V)}

omit [MaybeBool M] in
theorem not_starts {methods : List Method} {data : GVariantWrapper V}
    (hsends : SendsOnly methods data (busLog es)) (hmethods : .selected ∉ methods)
    (hsignals : ∀ sourceId playerId data,
      .pathActivated sourceId playerId data ∈ signals es → sourceId = "") : ¬ Starts es := by
  rintro (⟨call, ok, hmem, hmethod⟩ | ⟨sourceId, playerId, data', hmem, hsource⟩)
  · exact hsends.not_mem (hmethod ▸ hmethods) hmem
  · exact hsource (hsignals sourceId playerId data' hmem)

omit [MaybeBool M] in
/-- A request says that its source is active only after it has selected it. -/
theorem Activates.starts {outcomes : Outcomes} {paths : Paths} {sw sw' : Switch V}
    {data : GVariantWrapper V} {sourceId : String} {now : Bool} {a : Activation}
    {calls : List (BusEntry V)}
    (ha : Activates outcomes paths sw data sourceId now a sw' calls)
    (hcalls : busLog es = calls) (hsignals : signals es = (requestSignal sourceId data a).toList)
    (h : Starts es) : now = true := by
  cases now with
  | true => rfl
  | false =>
      have hsends := hcalls ▸ ha.sends
      refine absurd h (not_starts hsends (by simp [selectMethod]) ?_)
      intro sourceId' playerId data' hmem
      rw [hsignals, Option.mem_toList] at hmem
      cases ha with
      | rejected hrejects => cases hrejects <;> simp [requestSignal] at hmem
      | unchanged | alreadyPending => simp [requestSignal] at hmem
      | playerFailed | sourceFailed =>
          simp only [requestSignal, Option.some.injEq, Signal.pathActivated.injEq] at hmem
          exact hmem.1.symm
      | @switched source player =>
          by_cases hplayer : player.id = sw.currentPlayerId <;>
            simp [activationResult, requestSignal, hplayer] at hmem

theorem Steps.starts (h : Steps d e d') (hlog : d'.log = d.log ++ es) (hstarts : Starts es) :
    d'.data.applianceState.enableAllowed = true := by
  have hbus : busLog d'.log = busLog d.log ++ busLog es := by rw [hlog, busLog_append]
  have hsignals : signals d'.log = signals d.log ++ signals es := by rw [hlog, signals_append]
  have hquiet : ∀ data : GVariantWrapper V, SendsOnly [.deselected, .deactivate] data
      (busLog es) → (∀ sourceId playerId data,
        .pathActivated sourceId playerId data ∈ signals es → sourceId = "") →
      d'.data.applianceState.enableAllowed = true :=
    fun _ hsends hsignals => absurd hstarts (not_starts hsends (by simp) hsignals)
  cases h with
  | answered | creating | noCreation | postponed =>
      simp at hbus hsignals
      exact hquiet none (by simp [hbus]) (by simp [hsignals])
  | playerRegistered =>
      simp at hbus hsignals
      refine hquiet none (by simp [hbus]) (by simp [← hsignals, announcements])
  | sourceRegistered =>
      simp at hbus hsignals
      refine hquiet none (by simp [hbus]) ?_
      rw [← hsignals]
      split <;> simp
  | @requested object sourceId data outcomes a switch calls _ ha =>
      simp at hbus hsignals
      exact ha.starts hbus.symm hsignals.symm hstarts
  | @released object deactivatePlayer data outcomes r switch calls _ hr =>
      simp at hbus hsignals
      refine hquiet data (hbus ▸ hr.sends) ?_
      rw [← hsignals]
      split <;> simp +contextual
  | completed _ hallowed => exact hallowed
  | canceled _ _ _ hc =>
      simp at hbus hsignals
      exact hquiet _ (hbus ▸ hc.sends.mono (by simp)) (by simp [hsignals])

/-- A crash does not start anything either. -/
theorem Daemon.Leaves.not_starts (h : d.Leaves e d') (hlog : d'.log = d.log ++ es) :
    ¬ Starts es := by
  have hsignals : signals d'.log = signals d.log ++ signals es := by rw [hlog, signals_append]
  have hbus : busLog d'.log = busLog d.log ++ busLog es := by rw [hlog, busLog_append]
  have hquiet : ∀ data : GVariantWrapper V, signals es = [] →
      SendsOnly [.deselected, .deactivate, .activate] data (busLog es) → ¬ Starts es := by
    intro data hnone hsends
    exact TapSwitch.not_starts hsends (by simp) (by simp [hnone])
  cases h with
  | @requesting object sourceId data outcomes switch calls hc =>
      simp [Daemon.absorb] at hbus hsignals
      exact hquiet data hsignals (hbus ▸ hc.sends)
  | @releasing object deactivatePlayer data outcomes switch calls hc =>
      simp [Daemon.absorb] at hbus hsignals
      exact hquiet data hsignals (hbus ▸ hc.sends.mono (by simp))
  | readying =>
      simp [Daemon.absorb, Daemon.withAppliance] at hbus hsignals
      exact hquiet none hsignals (by simp [hbus])
  | asking =>
      simp at hbus hsignals
      exact hquiet none hsignals (by simp [hbus])

/-- The log only grows. -/
theorem Steps.log_eq (h : Steps d e d') : ∃ es, d'.log = d.log ++ es := by
  cases h with
  | creating | noCreation => exact ⟨[], (List.append_nil _).symm⟩
  | answered | playerRegistered | sourceRegistered | requested | released | completed
  | canceled | postponed => exact ⟨_, rfl⟩

theorem Daemon.Leaves.log_eq (h : d.Leaves e d') : ∃ es, d'.log = d.log ++ es := by
  cases h with
  | asking => exact ⟨[], (List.append_nil _).symm⟩
  | requesting | releasing | readying => exact ⟨_, rfl⟩

/-- The appliance state in force while the event is handled: `SetReadyState` sets it
before it does anything else. -/
def Event.inForce (appliance : Appliance M) : Event V → Appliance M
  | .setReadyState audioState powerState _ _ => (readAppliance appliance audioState powerState).1
  | _ => appliance

/-- No handler changes it after that. -/
theorem Steps.appliance_eq (h : Steps d e d') :
    d'.data.applianceState = e.inForce d.data.applianceState := by
  cases h with
  | @answered e reply hpassive => cases e <;> first | rfl | exact absurd hpassive id
  | @creating e creation hcreation => cases e <;> first | rfl | simp [Event.creation] at hcreation
  | noCreation | playerRegistered | sourceRegistered | requested | released => rfl
  | completed hread => exact (congrArg Prod.fst hread).symm
  | canceled hread => exact (congrArg Prod.fst hread).symm
  | postponed hread => exact (congrArg Prod.fst hread).symm

theorem Daemon.Leaves.appliance_eq (h : d.Leaves e d') :
    d'.data.applianceState = e.inForce d.data.applianceState := by
  cases h <;> rfl

end

namespace Daemon

variable [LawfulMaybeBool M]

/-- Whatever a daemon in operation handles next, and also if it crashes on it, it selects a
source and says that a source is active only if the appliance state in force is neither
known to be suspended nor known to be blocked.  An activation is pending only if it is one
of the two, so a source is never selected at once while another activation is pending. -/
theorem ready_gate {d : Daemon M V} (h : (system M V).Reachable d) :
    (∀ e : Event V, ∃ es, (d.afterwards e).log = d.log ++ es ∧
      (d.afterwards e).data.applianceState = e.inForce d.data.applianceState ∧
      (Starts es → ¬ (e.inForce d.data.applianceState).KnownSuspended ∧
        ¬ (e.inForce d.data.applianceState).KnownBlocked)) ∧
    (d.pendingId ≠ "" →
      d.data.applianceState.KnownSuspended ∨ d.data.applianceState.KnownBlocked) ∧
    (d.data.applianceState.enableAllowed = true → d.pendingId = "") := by
  have hgate := (inStep_of_reachable h).gate
  refine ⟨fun e => ?_, fun hpending => ?_, fun hallowed => ?_⟩
  · rcases steps_or_leaves (consistent_of_reachable h) e with hsteps | hleaves
    · obtain ⟨es, hlog⟩ := hsteps.log_eq
      refine ⟨es, hlog, hsteps.appliance_eq, fun hstarts => ?_⟩
      rw [← hsteps.appliance_eq]
      exact (Appliance.enableAllowed_iff _).mp (hsteps.starts hlog hstarts)
    · obtain ⟨es, hlog⟩ := hleaves.log_eq
      exact ⟨es, hlog, hleaves.appliance_eq,
        fun hstarts => absurd hstarts (hleaves.not_starts hlog)⟩
  · exact (Appliance.enableAllowed_eq_false _).mp (hgate hpending)
  · by_contra hpending
    rw [hgate hpending] at hallowed
    cases hallowed

/-- The appliance is known to be blocked while the request waits. -/
theorem ready_gate_deferred : ∃ d : Daemon (Option Bool) Unit,
    (system (Option Bool) Unit).Reachable d ∧ d.pendingId = "source" ∧
      (d.data.applianceState.KnownSuspended ∨ d.data.applianceState.KnownBlocked) := by
  obtain ⟨d, hrun, -, hpending, -⟩ := exists_deferred
  refine ⟨d, hrun.reachable, hpending, (ready_gate hrun.reachable).2.1 ?_⟩
  rw [hpending]
  decide

end Daemon

/-! ## What becomes of a pending activation -/

/-- Nothing is pending anymore and nobody waits.  All who have waited have got one reply,
which meets `answer`; besides, only `SetReadyState` itself may have been answered. -/
structure Emptied (d d' : Daemon M V) (answer : Reply → Prop) : Prop where
  pending : d'.data.audioPathSwitch.pending = {}
  queue : d'.queue = []
  answered : ∃ reply own, (d.queue ≠ [] → answer reply) ∧ (∀ r ∈ own, r.1 = d.served) ∧
    replies d'.log = replies d.log ++ (d.queue.map (fun p => (p.invocation, reply)) ++ own)

/-- The source pending in `d` has been called once, with the data kept for it. -/
def CallsPending (d d' : Daemon M V) (method : Method) (ok : Bool) : Prop :=
  ∃ proxy, busLog d'.log = busLog d.log ++
    [.called ⟨method, proxy, d.pendingId, d.data.audioPathSwitch.pending.requestData⟩ ok]

/-- The switch is the same, and nobody has been called. -/
structure Untouched (d d' : Daemon M V) : Prop where
  switch : d'.data.audioPathSwitch = d.data.audioPathSwitch
  calls : busLog d'.log = busLog d.log

/-- An error reply. -/
def Reply.IsError (reply : Reply) : Prop := ∃ code message, reply = .error code message

/-- What completing the pending activation does: the source is selected and becomes
current, or it fails and none is current. -/
structure CompletesPending (d d' : Daemon M V) (ok : Bool) : Prop where
  emptied : Emptied d d' fun reply =>
    if ok then ∃ switched, reply = .requestSource d.data.audioPathSwitch.currentPlayerId switched
    else reply.IsError
  idle : d.pendingId = "" → Untouched d d'
  called : d.pendingId ≠ "" → CallsPending d d' .selected ok
  source : d.pendingId ≠ "" →
    d'.data.audioPathSwitch.currentSourceId = if ok then d.pendingId else ""

/-- What canceling it does: the source is deselected. -/
structure CancelsPending (d d' : Daemon M V) (ok : Bool) : Prop where
  emptied : Emptied d d' Reply.IsError
  idle : d.pendingId = "" → Untouched d d'
  called : d.pendingId ≠ "" → CallsPending d d' .deselected ok

section Effects

variable {d : Daemon M V} {outcomes : Outcomes} {order : IterationOrder V}
  {appliance : Appliance M} {result : ActivateResult} {switch : Switch V}
  {es : List (BusEntry V)}

omit [MaybeBool M] in
/-- With nothing pending, only `SetReadyState` itself is answered. -/
theorem emptied_of_idle {d' : Daemon M V} {answer : Reply → Prop}
    (hpending : d'.data.audioPathSwitch.pending = {}) (hbefore : d.queue = [])
    (hqueue : d'.queue = [])
    (hreplies : replies d'.log = replies d.log ++ [(d.served, .setReadyState)]) :
    Emptied d d' answer where
  pending := hpending
  queue := hqueue
  answered := ⟨.setReadyState, [(d.served, .setReadyState)],
    fun hwaiting => absurd hbefore hwaiting, by simp, by simp [hreplies, hbefore]⟩

theorem InStep.completesPending (h : InStep d)
    (hsw : Consistent d.data.audioPaths d.data.audioPathSwitch)
    (hc : Completes outcomes d.data.audioPaths d.data.audioPathSwitch result switch es) :
    CompletesPending d (d.next.completed order d.served appliance result switch es)
      (outcomes .selected) := by
  cases hc with
  | nothingPending hnone =>
      exact {
        emptied := emptied_of_idle (hsw.settled hnone) (h.queue_eq_nil hnone)
          (h.queue_eq_nil hnone) (by simp [completionEntries])
        idle := fun _ => ⟨rfl, by simp⟩
        called := fun hpending => absurd hnone hpending
        source := fun hpending => absurd hnone hpending }
  | sourceFailed hpending hlookup hproxy hfailed =>
      exact {
        emptied := ⟨rfl, rfl, .error .invalidArgs "Source process failed", [],
          fun _ => by simp [hfailed, Reply.IsError], by simp, by simp [completionEntries]⟩
        idle := fun hnone => absurd hnone hpending
        called := fun _ => ⟨_, by rw [busLog_completed, hfailed]; rfl⟩
        source := fun _ => by simp [hfailed] }
  | selected hpending hlookup hproxy hok =>
      have hanswered : ∃ reply own, (∃ switched,
          reply = Reply.requestSource d.data.audioPathSwitch.currentPlayerId switched) ∧
          (∀ r ∈ own, r.1 = d.served) ∧
          replies (completionEntries order d.served d.queue d.pendingId
            d.data.audioPathSwitch.currentPlayerId
            d.data.audioPathSwitch.pending.phaseOneResult : List (Entry V)) =
            d.queue.map (fun p => (p.invocation, reply)) ++ own := by
        refine ⟨.requestSource d.data.audioPathSwitch.currentPlayerId
          (d.data.audioPathSwitch.pending.phaseOneResult = .okPlayerSwitchedSourceDeferred),
          [(d.served, .setReadyState)], ⟨_, rfl⟩, by simp, ?_⟩
        rcases hsw.phaseOne hpending with hphase | hphase <;> simp [hphase, completionEntries]
      obtain ⟨reply, own, hreply, hown, hreplies⟩ := hanswered
      exact {
        emptied := {
          pending := rfl
          queue := by
            rcases hsw.phaseOne hpending with hphase | hphase <;> simp [hphase]
          answered := ⟨reply, own, fun _ => by simpa [hok] using hreply, hown,
            by rw [← hreplies]; exact replies_completed _ _ _ _ _ _ _⟩ }
        idle := fun hnone => absurd hnone hpending
        called := fun _ => ⟨_, by rw [busLog_completed, hok]; rfl⟩
        source := fun _ => by simp [hok] }

theorem InStep.cancelsPending (h : InStep d)
    (hsw : Consistent d.data.audioPaths d.data.audioPathSwitch)
    (hc : Cancels outcomes d.data.audioPaths d.data.audioPathSwitch result switch es) :
    CancelsPending d (d.next.canceled order d.served appliance result switch es)
      (outcomes .deselected) := by
  cases hc with
  | nothingPending hnone =>
      exact {
        emptied := emptied_of_idle (hsw.settled hnone) (h.queue_eq_nil hnone)
          (h.queue_eq_nil hnone) (by simp)
        idle := fun _ => ⟨rfl, by simp⟩
        called := fun hpending => absurd hnone hpending }
  | canceled hpending hlookup hproxy =>
      have hresult : (if outcomes .deselected then ActivateResult.okPlayerSwitched
          else .errorSourceFailed) ≠ .errorSourceUnknown := by
        split <;> simp
      exact {
        emptied := ⟨rfl, by rw [queue_canceled, if_neg hresult],
          .error .accessDenied "Canceled audio source activation",
          [(d.served, .setReadyState)], fun _ => ⟨_, _, rfl⟩, by simp,
          by rw [replies_canceled, if_neg hresult]; rfl⟩
        idle := fun hnone => absurd hnone hpending
        called := fun _ => ⟨_, by rw [busLog_canceled]; rfl⟩ }

variable {audioState powerState : UInt8} {d' : Daemon M V}

/-- Which of the two happens, if any. -/
theorem Steps.readyState (hstep : Steps d (.setReadyState audioState powerState outcomes order) d')
    (h : InStep d) (hsw : Consistent d.data.audioPaths d.data.audioPathSwitch) :
    let read := readAppliance d.data.applianceState audioState powerState
    (read.1.enableAllowed = true → CompletesPending d d' (outcomes .selected)) ∧
    (read.1.enableAllowed = false ∧ read.2 = true →
      CancelsPending d d' (outcomes .deselected)) ∧
    (read.1.enableAllowed = false ∧ read.2 = false → Untouched d d' ∧ d'.queue = d.queue) := by
  cases hstep with
  | answered hpassive => exact absurd hpassive id
  | creating hcreation => simp [Event.creation] at hcreation
  | completed hread hallowed _ hc =>
      simp only [hread, hallowed]
      exact ⟨fun _ => h.completesPending hsw hc, by simp, by simp⟩
  | canceled hread hallowed _ hc =>
      simp only [hread, hallowed]
      exact ⟨by simp, fun _ => h.cancelsPending hsw hc, by simp⟩
  | postponed hread hallowed =>
      simp only [hread, hallowed]
      exact ⟨by simp, by simp, fun _ => ⟨⟨rfl, by simp⟩, rfl⟩⟩

/-- The current player stays. -/
theorem Steps.readyState_player
    (hstep : Steps d (.setReadyState audioState powerState outcomes order) d') :
    d'.data.audioPathSwitch.currentPlayerId = d.data.audioPathSwitch.currentPlayerId := by
  cases hstep with
  | answered hpassive => exact absurd hpassive id
  | creating hcreation => simp [Event.creation] at hcreation
  | completed _ _ _ hc => cases hc <;> rfl
  | canceled _ _ _ hc => cases hc <;> rfl
  | postponed => rfl

theorem Daemon.Leaves.readyState_player
    (hleaves : d.Leaves (.setReadyState audioState powerState outcomes order) d') :
    d'.data.audioPathSwitch.currentPlayerId = d.data.audioPathSwitch.currentPlayerId := by
  cases hleaves with
  | readying _ hswitch =>
      rw [Daemon.absorb, hswitch]
      rfl

end Effects

/-- What `SetReadyState` is to do.  The current player stays.  If the new appliance state
allows audio, the pending activation is completed; otherwise, if the appliance has been
suspended by this very call, it is canceled; otherwise switch and queue are left alone and
nobody is called. -/
structure ReadyStateEffect [LawfulMaybeBool M] (d d' : Daemon M V) (appliance : Appliance M)
    (outcomes : Outcomes) : Prop where
  player : d'.data.audioPathSwitch.currentPlayerId = d.data.audioPathSwitch.currentPlayerId
  inForce : d'.data.applianceState = appliance
  ready : ¬ appliance.KnownSuspended ∧ ¬ appliance.KnownBlocked →
    CompletesPending d d' (outcomes .selected)
  suspended : (appliance.KnownSuspended ∨ appliance.KnownBlocked) ∧
      (appliance.KnownSuspended ∧ ¬ d.data.applianceState.KnownSuspended) →
    CancelsPending d d' (outcomes .deselected)
  waiting : (appliance.KnownSuspended ∨ appliance.KnownBlocked) ∧
      ¬ (appliance.KnownSuspended ∧ ¬ d.data.applianceState.KnownSuspended) →
    Untouched d d' ∧ d'.queue = d.queue

namespace Daemon

section Lawful

variable [LawfulMaybeBool M]

/-- `SetReadyState` is handled to its end, with the effect it is to have. -/
def TakesEffect (d : Daemon M V) (audioState powerState : UInt8) (outcomes : Outcomes)
    (order : IterationOrder V) : Prop :=
  ∃ d', (system M V).step d (.setReadyState audioState powerState outcomes order) = some d' ∧
    ReadyStateEffect d d' (readAppliance d.data.applianceState audioState powerState).1
      outcomes

/-- A handler that gets to its end has the effect. -/
theorem readyStateEffect_of_step {d d' : Daemon M V} (h : (system M V).Reachable d)
    {audioState powerState : UInt8} {outcomes : Outcomes} {order : IterationOrder V}
    (hstep : (system M V).step d (.setReadyState audioState powerState outcomes order) =
      some d') :
    ReadyStateEffect d d' (readAppliance d.data.applianceState audioState powerState).1
      outcomes := by
  have hsteps := steps_of_step h hstep
  have heffect := hsteps.readyState (inStep_of_reachable h) (consistent_of_reachable h)
  simp only [← Bool.not_eq_true (readAppliance _ _ _).2, readAppliance_suspended,
    Appliance.enableAllowed_iff, Appliance.enableAllowed_eq_false] at heffect
  obtain ⟨hready, hsuspended, hwaiting⟩ := heffect
  exact ⟨hsteps.readyState_player, hsteps.appliance_eq, hready, hsuspended, hwaiting⟩

/-- `SetReadyState` has the effect it is to have if and only if nothing was pending, or the
appliance is not ready and has not just been suspended, or the pending source has a D-Bus
proxy.  The current player stays even if the daemon crashes. -/
theorem setReadyState_effect_iff {d : Daemon M V} (h : (system M V).Reachable d)
    (audioState powerState : UInt8) (outcomes : Outcomes) (order : IterationOrder V) :
    (d.TakesEffect audioState powerState outcomes order ↔
      d.pendingId = "" ∨
      ((readAppliance d.data.applianceState audioState powerState).1.enableAllowed = false ∧
        (readAppliance d.data.applianceState audioState powerState).2 = false) ∨
      ∃ source proxy, d.data.audioPaths.lookupSource d.pendingId = some source ∧
        source.dbusProxy = some proxy) ∧
    let after := d.afterwards (.setReadyState audioState powerState outcomes order)
    after.data.audioPathSwitch.currentPlayerId = d.data.audioPathSwitch.currentPlayerId := by
  constructor
  · rw [← setReadyState_handled_iff h audioState powerState outcomes order]
    constructor
    · rintro ⟨d', hstep, -⟩
      exact ⟨d', hstep⟩
    · rintro ⟨d', hstep⟩
      exact ⟨d', hstep, readyStateEffect_of_step h hstep⟩
  · rcases steps_or_leaves (consistent_of_reachable h)
      (.setReadyState audioState powerState outcomes order) with hsteps | hleaves
    · exact hsteps.readyState_player
    · exact hleaves.readyState_player

end Lawful

/-- The request that waits is completed, and its source is current. -/
theorem setReadyState_effect_iff_deferred : ∃ d d' : Daemon (Option Bool) Unit,
    (system (Option Bool) Unit).Run deferralEvents d ∧
      (system (Option Bool) Unit).step d (.setReadyState 2 2 (fun _ => true) .insertion) =
        some d' ∧
      d'.data.audioPathSwitch.currentSourceId = "source" ∧ d'.queue = [] := by
  obtain ⟨d, hrun, -, hpending, hlookup⟩ := exists_deferred
  have hexec : ((system (Option Bool) Unit).exec (system (Option Bool) Unit).init
      deferralEvents).map (fun d => (readAppliance d.data.applianceState 2 2).1.enableAllowed) =
        some true := by decide +kernel
  obtain ⟨e, hrun', hallowed⟩ := System.exists_run_of_exec hexec
  obtain rfl := hrun.functional hrun'
  obtain ⟨d', hstep, heffect⟩ :=
    (setReadyState_effect_iff hrun.reachable 2 2 (fun _ => true) .insertion).1.mpr
      (.inr (.inr ⟨_, _, hpending ▸ hlookup, rfl⟩))
  have hcompletes := heffect.ready ((Appliance.enableAllowed_iff _).mp hallowed)
  have hsource := hcompletes.source (by rw [hpending]; decide)
  exact ⟨d, d', hrun, hstep, hsource.trans hpending, hcompletes.emptied.queue⟩

/-- The proxy of the pending source is lost when the source registers again and its new proxy
cannot be created. -/
def bereavingEvents : List (Event Unit) :=
  deferralEvents ++
    [.registerSource 0 "source" "Source" "player" "/source" ":1.1", .proxyDone 0 false]

/-- The appliance gets ready then, and the daemon crashes. -/
theorem setReadyState_not_always_effective :
    ¬ ∀ d : Daemon (Option Bool) Unit, (system (Option Bool) Unit).Reachable d →
      ∀ audioState powerState outcomes order,
        d.TakesEffect audioState powerState outcomes order := by
  intro hall
  have hexec : ((system (Option Bool) Unit).exec (system (Option Bool) Unit).init
      bereavingEvents).map (fun d => d.pendingId) = some "source" := by decide +kernel
  have hcrash : ((system (Option Bool) Unit).exec (system (Option Bool) Unit).init
      (bereavingEvents ++ [.setReadyState 2 2 (fun _ => true) .insertion])).isNone = true := by
    decide +kernel
  obtain ⟨d, hrun, -⟩ := System.exists_run_of_exec hexec
  obtain ⟨d', hstep, -⟩ := hall d hrun.reachable 2 2 (fun _ => true) .insertion
  rw [(hrun.snoc hstep).exec_eq] at hcrash
  cases hcrash

end Daemon

end TapSwitch
