import TapSwitch.Draining
import TapSwitch.Queue

set_option autoImplicit false

/-!
# Where request data end up

Each request brings data that players and sources, and in the end the listeners to the
signals, are to get.  For a deferred request they are kept twice: in the pending
activation and in the queue.  This file traces both back to the requests they come from.
-/

namespace TapSwitch

open Library

variable {M V : Type}

/-- All calls pass these data along. -/
def Carries (data : GVariantWrapper V) (es : List (BusEntry V)) : Prop :=
  ∀ call ok, .called call ok ∈ es → call.data = data

theorem SendsOnly.carries {methods : List Method} {data : GVariantWrapper V}
    {es : List (BusEntry V)} (h : SendsOnly methods data es) : Carries data es :=
  fun _ _ hmem => (h _ hmem).2

/-! ## The requests for a source -/

/-- The data a request to select or release something comes with. -/
def Event.requestData? : Event V → Option (GVariantWrapper V)
  | .requestSource _ _ requestData _ => some requestData
  | .releasePath _ _ requestData _ => some requestData
  | _ => none

/-- What waits in the queue for a request for this source. -/
def Event.waiting? (sourceId : String) (invocation : Nat) : Event V → Option (Pending V)
  | .requestSource object id requestData _ =>
      if id = sourceId then some ⟨object, invocation, requestData⟩ else none
  | _ => none

/-- All requests for the source, in order; the events are counted from `start`. -/
def requestsFor (sourceId : String) (start : Nat) (evs : List (Event V)) : List (Pending V) :=
  (evs.zipIdx start).filterMap fun e => e.1.waiting? sourceId e.2

@[simp] theorem requestsFor_cons (sourceId : String) (start : Nat) (e : Event V)
    (evs : List (Event V)) :
    requestsFor sourceId start (e :: evs) =
      (e.waiting? sourceId start).toList ++ requestsFor sourceId (start + 1) evs := by
  cases h : e.waiting? sourceId start <;> simp [requestsFor, List.zipIdx_cons, h]

theorem requestsFor_append (sourceId : String) (start : Nat) (evs more : List (Event V)) :
    requestsFor sourceId start (evs ++ more) =
      requestsFor sourceId start evs ++ requestsFor sourceId (start + evs.length) more := by
  simp [requestsFor, List.zipIdx_append]

variable [MaybeBool M]

variable (M) in
/-- The request that has deferred the source which is pending after these events. -/
structure Deferral (evs : List (Event V)) (sourceId : String) where
  /-- The events before the request. -/
  pre : List (Event V)
  object : Nat
  requestData : GVariantWrapper V
  outcomes : Outcomes
  /-- The events after the request. -/
  post : List (Event V)
  events_eq : evs = pre ++ .requestSource object sourceId requestData outcomes :: post
  /-- The source has not been pending before. -/
  fresh : ∀ d : Daemon M V, (Daemon.system M V).Run pre d → d.pendingId ≠ sourceId
  /-- It has been pending ever since. -/
  since : ∀ (mid : List (Event V)) (d : Daemon M V), mid <+: post →
    (Daemon.system M V).Run (pre ++ .requestSource object sourceId requestData outcomes :: mid)
      d → d.pendingId = sourceId

namespace Deferral

variable {evs : List (Event V)} {e : Event V} {sourceId : String} {d d' : Daemon M V}

/-- The request and all later ones for the same source. -/
def waiting (w : Deferral M evs sourceId) : List (Pending V) :=
  requestsFor sourceId w.pre.length
    (.requestSource w.object sourceId w.requestData w.outcomes :: w.post)

theorem waiting_eq (w : Deferral M evs sourceId) :
    w.waiting = ⟨w.object, w.pre.length, w.requestData⟩ ::
      requestsFor sourceId (w.pre.length + 1) w.post := by
  simp [waiting, Event.waiting?]

/-- One more event leaves the source pending. -/
def extend (w : Deferral M evs sourceId) (hrun : (Daemon.system M V).Run (evs ++ [e]) d')
    (hpending : d'.pendingId = sourceId) : Deferral M (evs ++ [e]) sourceId where
  pre := w.pre
  object := w.object
  requestData := w.requestData
  outcomes := w.outcomes
  post := w.post ++ [e]
  events_eq := (congrArg (· ++ [e]) w.events_eq).trans (List.append_assoc _ _ _)
  fresh := w.fresh
  since mid d₀ hmid hrun₀ := by
    rcases List.prefix_concat_iff.mp hmid with rfl | hmid
    · rw [← List.cons_append, ← List.append_assoc, ← w.events_eq] at hrun₀
      rw [hrun₀.functional hrun, hpending]
    · exact w.since mid d₀ hmid hrun₀

theorem waiting_extend (w : Deferral M evs sourceId)
    (hrun : (Daemon.system M V).Run (evs ++ [e]) d') (hpending : d'.pendingId = sourceId) :
    (w.extend hrun hpending).waiting =
      w.waiting ++ (e.waiting? sourceId evs.length).toList := by
  have hlength := congrArg List.length w.events_eq
  rw [List.length_append, List.length_cons] at hlength
  rw [waiting_eq, waiting_eq]
  simp only [extend, requestsFor_append, List.cons_append]
  rw [requestsFor_cons, show w.pre.length + 1 + w.post.length = evs.length by omega]
  simp [requestsFor]

/-- A request that has just deferred its source. -/
def start {object : Nat} {requestData : GVariantWrapper V} {outcomes : Outcomes}
    (hrun : (Daemon.system M V).Run evs d) (hfresh : d.pendingId ≠ sourceId)
    (hrun' : (Daemon.system M V).Run
      (evs ++ [.requestSource object sourceId requestData outcomes]) d')
    (hpending : d'.pendingId = sourceId) :
    Deferral M (evs ++ [.requestSource object sourceId requestData outcomes]) sourceId where
  pre := evs
  object := object
  requestData := requestData
  outcomes := outcomes
  post := []
  events_eq := rfl
  fresh d₀ hrun₀ := hrun₀.functional hrun ▸ hfresh
  since mid d₀ hmid hrun₀ := by
    rw [List.prefix_nil.mp hmid] at hrun₀
    rw [hrun₀.functional hrun', hpending]

end Deferral

/-! ## What is kept -/

/-- The pending activation keeps the data of the request that has deferred it, and the
queue those of all requests since then. -/
def Traced (evs : List (Event V)) (d : Daemon M V) : Prop :=
  d.pendingId ≠ "" → ∃ w : Deferral M evs d.pendingId,
    d.data.audioPathSwitch.pending.requestData = w.requestData ∧ d.queue = w.waiting

section Step

variable {evs : List (Event V)} {e : Event V} {d d' : Daemon M V}

theorem traced_of_idle (h : d.pendingId = "") : Traced evs d :=
  fun hpending => absurd h hpending

theorem Traced.keep (h : Traced evs d) (hrun : (Daemon.system M V).Run (evs ++ [e]) d')
    (hpending : d'.data.audioPathSwitch.pending = d.data.audioPathSwitch.pending)
    (hqueue : d'.queue = d.queue ++ (e.waiting? d.pendingId evs.length).toList) :
    Traced (evs ++ [e]) d' := by
  intro hne
  have hid : d'.pendingId = d.pendingId := congrArg PendingActivation.sourceId hpending
  obtain ⟨w, hdata, hwaiting⟩ := h (hid ▸ hne)
  rw [hid]
  refine ⟨w.extend hrun hid, (congrArg PendingActivation.requestData hpending).trans hdata, ?_⟩
  rw [Deferral.waiting_extend, hqueue, hwaiting]

/-- Only requests wait. -/
theorem waiting?_of_passive {sourceId : String} {i : Nat} (h : e.Passive) :
    e.waiting? sourceId i = none := by
  cases e with
  | registerPlayer | registerSource | query => rfl
  | proxyDone | requestSource | releasePath | setReadyState => exact absurd h id

theorem waiting?_of_creation {sourceId : String} {i j : Nat} {creation : Creation}
    (h : e.creation j = some creation) : e.waiting? sourceId i = none := by
  cases e with
  | registerPlayer | registerSource => rfl
  | proxyDone | requestSource | releasePath | setReadyState | query =>
      simp [Event.creation] at h

theorem Traced.requested {object : Nat} {sourceId : String} {data : GVariantWrapper V}
    {outcomes : Outcomes} {a : Activation} {switch : Switch V} {es : List (BusEntry V)}
    (h : Traced evs d) (hrun : (Daemon.system M V).Run evs d) (hserved : d.served = evs.length)
    (hin : InStep d) (hsw : Consistent d.data.audioPaths d.data.audioPathSwitch)
    (ha : Activates outcomes d.data.audioPaths d.data.audioPathSwitch data sourceId
      d.data.applianceState.enableAllowed a switch es)
    (hrun' : (Daemon.system M V).Run (evs ++ [.requestSource object sourceId data outcomes])
      (d.next.requested object d.served sourceId data a switch es)) :
    Traced (evs ++ [.requestSource object sourceId data outcomes])
      (d.next.requested object d.served sourceId data a switch es) := by
  cases ha with
  | rejected | playerFailed | sourceFailed => exact traced_of_idle rfl
  | unchanged hempty hcurrent =>
      exact traced_of_idle (hsw.exclusive.resolve_left (hcurrent ▸ hempty))
  | alreadyPending hempty hpending =>
      have hgate : d.data.applianceState.enableAllowed = false :=
        hin.gate fun hnone => hempty (hpending.trans hnone)
      refine h.keep hrun' rfl ?_
      simp [keptCalls, waits, isFinal, hgate, hserved, Event.waiting?, hpending]
  | @switched source player _ _ _ _ hfresh hpath hd =>
      have hid := Paths.id_of_lookupSource (Paths.lookupPath_eq_some.mp hpath).1
      by_cases hnow : d.data.applianceState.enableAllowed = true
      · exact traced_of_idle (by simp [hnow, switchedTo])
      · have hkept : (switchedTo d.data.audioPathSwitch data source player.id
              d.data.applianceState.enableAllowed).pending.sourceId = sourceId ∧
            (switchedTo d.data.audioPathSwitch data source player.id
              d.data.applianceState.enableAllowed).pending.requestData = data := by
          rw [Bool.not_eq_true] at hnow
          rw [hnow]
          exact ⟨hid, rfl⟩
        intro _
        rw [pendingId_requested, hkept.1]
        refine ⟨.start hrun hfresh.not_pending.symm hrun' hkept.1, hkept.2, ?_⟩
        simp [hin.kept_of_deselects hsw hd, waits_activationResult, hnow, hserved,
          Deferral.waiting_eq, Deferral.start, requestsFor]

theorem Traced.step (h : Traced evs d) (hrun : (Daemon.system M V).Run evs d)
    (hserved : d.served = evs.length) (hin : InStep d)
    (hsw : Consistent d.data.audioPaths d.data.audioPathSwitch)
    (hnext : (Daemon.system M V).step d e = some d') (hstep : Steps d e d') :
    Traced (evs ++ [e]) d' := by
  have hrun' := hrun.snoc hnext
  cases hstep with
  | answered hpassive =>
      exact h.keep hrun' rfl
        (by rw [waiting?_of_passive hpassive]; exact (List.append_nil _).symm)
  | creating hcreation =>
      exact h.keep hrun' rfl
        (by rw [waiting?_of_creation hcreation]; exact (List.append_nil _).symm)
  | noCreation | playerRegistered | sourceRegistered | postponed =>
      exact h.keep hrun' rfl (List.append_nil _).symm
  | requested _ ha => exact h.requested hrun hserved hin hsw ha hrun'
  | released _ hr =>
      refine traced_of_idle ?_
      cases hr <;> rfl
  | completed _ _ _ hc => exact traced_of_idle hc.pendingId_eq
  | canceled _ _ _ hc => exact traced_of_idle hc.pendingId_eq

end Step

theorem Daemon.traced_of_run {evs : List (Event V)} {d : Daemon M V}
    (h : (system M V).Run evs d) : Traced evs d := by
  refine System.run_induction (P := Traced) (traced_of_idle rfl) ?_ h
  intro evs d e d' hrun ih hstep
  have hreach := hrun.reachable
  exact ih.step hrun (accounted_of_run hrun).served (inStep_of_reachable hreach)
    (consistent_of_reachable hreach) hstep (steps_of_step hreach hstep)

/-! ## What is passed on -/

section Calls

variable {d d' : Daemon M V} {e : Event V} {data : GVariantWrapper V}

omit [MaybeBool M] in
/-- An event with request data neither asks nor registers anything. -/
theorem active_of_data (hdata : e.requestData? = some data) (invocation : Nat) :
    ¬ e.Passive ∧ e.creation invocation = none := by
  cases e with
  | registerPlayer | registerSource | proxyDone | setReadyState | query => cases hdata
  | requestSource | releasePath => exact ⟨id, rfl⟩

/-- All calls made for a request pass its data along, also if it crashes. -/
theorem carries_request (hsw : Consistent d.data.audioPaths d.data.audioPathSwitch)
    (hdata : e.requestData? = some data) : ∃ es,
    busLog (d.afterwards e).log = busLog d.log ++ es ∧ Carries data es := by
  rcases Daemon.steps_or_leaves hsw e with hsteps | hleaves
  · generalize d.afterwards e = d' at hsteps
    cases hsteps with
    | answered hpassive => exact absurd hpassive (active_of_data hdata 0).1
    | creating hcreation =>
        rw [(active_of_data hdata _).2] at hcreation
        cases hcreation
    | noCreation | playerRegistered | sourceRegistered | completed | canceled | postponed =>
        cases hdata
    | requested _ ha =>
        cases hdata
        exact ⟨_, busLog_requested _ _ _ _ _ _ _ _, ha.sends.carries⟩
    | released _ hr =>
        cases hdata
        exact ⟨_, busLog_released _ _ _ _ _ _ _, hr.sends.carries⟩
  · generalize d.afterwards e = d' at hleaves
    cases hleaves with
    | requesting hc =>
        cases hdata
        exact ⟨_, by simp [Daemon.absorb], hc.sends.carries⟩
    | releasing hc =>
        cases hdata
        exact ⟨_, by simp [Daemon.absorb], hc.sends.carries⟩
    | readying | asking => cases hdata

end Calls

section Signals

theorem emissions_append (log more : List (Entry V)) :
    emissions (log ++ more) = emissions log ++ emissions more :=
  List.filterMap_append

theorem map_snd_emissions (log : List (Entry V)) :
    (emissions log).map Prod.snd = signals log := by
  induction log with
  | nil => rfl
  | cons entry rest ih => cases entry <;> simpa [Entry.emission?] using ih

/-- Without signals, nobody is told anything. -/
theorem emissions_eq_nil {log : List (Entry V)} (h : signals log = []) : emissions log = [] := by
  rw [← map_snd_emissions] at h
  exact List.map_eq_nil_iff.mp h

/-- When the queue is drained, each object is told the data of its first call. -/
theorem told_first (order : IterationOrder V) (reply : Reply) (queue : List (Pending V))
    (after : List (Entry V)) (hafter : signals after = []) (sourceId playerId : String)
    {m : Nat × Signal V}
    (hm : m ∈ emissions (drainEntries order reply false queue after sourceId playerId)) :
    ∃ p, queue.find? (fun p => p.object = m.1) = some p ∧
      m.2 = .pathActivated sourceId playerId p.requestData := by
  have hanswers := emissions_eq_nil (signals_answerEntries reply false [] queue)
  rw [drainEntries, emissions_append, emissions_append, emissions_eq_nil hafter, hanswers,
    emissions_activatedEntries, List.nil_append, List.nil_append] at hm
  obtain ⟨told, htold, rfl⟩ := List.mem_map.mp hm
  have hlookup := lookup_of_mem_nodup (collected_nodup false queue)
    ((order.perm _).mem_iff.mp htold)
  rw [lookup_collected] at hlookup
  obtain ⟨p, hp, hdata⟩ := Option.map_eq_some_iff.mp hlookup
  exact ⟨p, hp, by rw [hdata]⟩

end Signals

/-- The signal says with these data that the source is active, or that none is. -/
def Tells (sourceId : String) (data : GVariantWrapper V) (signal : Signal V) : Prop :=
  ∃ playerId, signal = .pathActivated sourceId playerId data ∨
    signal = .pathActivated "" playerId data

section ReadyState

variable {d d' : Daemon M V} {audioState powerState : UInt8} {outcomes : Outcomes}
  {order : IterationOrder V}

/-- What is passed on when the appliance state changes. -/
structure PassesOn (d d' : Daemon M V) (es : List (BusEntry V)) (ss : List (Nat × Signal V)) :
    Prop where
  calls : busLog d'.log = busLog d.log ++ es
  signals : emissions d'.log = emissions d.log ++ ss
  called : Carries d.data.audioPathSwitch.pending.requestData es
  told : ∀ m ∈ ss, ∃ p, d.queue.find? (fun p => p.object = m.1) = some p ∧
    Tells d.pendingId p.requestData m.2
  idle : d.pendingId = "" → es = [] ∧ ss = []

omit [MaybeBool M] in
/-- The signals emitted when the pending activation has been completed. -/
theorem Completes.told {result : ActivateResult} {switch : Switch V} {es : List (BusEntry V)}
    (hc : Completes outcomes d.data.audioPaths d.data.audioPathSwitch result switch es)
    (hsw : Consistent d.data.audioPaths d.data.audioPathSwitch) {m : Nat × Signal V}
    (hm : m ∈ emissions (completionEntries order d.served d.queue d.pendingId
      switch.currentPlayerId result)) :
    d.pendingId ≠ "" ∧ ∃ p, d.queue.find? (fun p => p.object = m.1) = some p ∧
      Tells d.pendingId p.requestData m.2 := by
  cases hc with
  | nothingPending => cases hm
  | sourceFailed hpending =>
      obtain ⟨p, hp, htold⟩ := told_first order _ _ _ rfl _ _ hm
      exact ⟨hpending, p, hp, _, .inr htold⟩
  | selected hpending =>
      rcases hsw.phaseOne hpending with hphase | hphase
      all_goals
        rw [hphase] at hm
        obtain ⟨p, hp, htold⟩ := told_first order _ _ _ rfl _ _ hm
        exact ⟨hpending, p, hp, _, .inl htold⟩

theorem Steps.passesOn
    (h : Steps d (.setReadyState audioState powerState outcomes order) d')
    (hsw : Consistent d.data.audioPaths d.data.audioPathSwitch) :
    ∃ es ss, PassesOn d d' es ss := by
  cases h with
  | answered hpassive => exact absurd hpassive id
  | creating hcreation => simp [Event.creation] at hcreation
  | @completed _ _ _ _ appliance suspended result switch es _ _ _ hc =>
      refine ⟨es, emissions (completionEntries order d.served d.queue d.pendingId
        switch.currentPlayerId result), ⟨busLog_completed _ _ _ _ _ _ _, ?_, hc.sends.carries,
        fun m hm => (hc.told hsw hm).2, fun hnone => ⟨?_, ?_⟩⟩⟩
      · rw [Daemon.completed, emissions_append, emissions_append,
          emissions_eq_nil (signals_map_bus es)]
        rfl
      · cases hc with
        | nothingPending => rfl
        | sourceFailed hpending => exact absurd hnone hpending
        | selected hpending => exact absurd hnone hpending
      · exact List.eq_nil_iff_forall_not_mem.mpr fun m hm => (hc.told hsw hm).1 hnone
  | @canceled _ _ _ _ appliance sourceId result switch es _ _ _ hc =>
      refine ⟨es, [], ⟨busLog_canceled _ _ _ _ _ _ _, ?_, hc.sends.carries, by simp,
        fun hnone => ⟨?_, rfl⟩⟩⟩
      · rw [Daemon.canceled, emissions_append]
        congr 1
        refine emissions_eq_nil ?_
        split <;> simp [collected_suppressed]
      · cases hc with
        | nothingPending => rfl
        | canceled hpending => exact absurd hnone hpending
  | postponed =>
      exact ⟨[], [], by simp,
        by simp [Daemon.postponed, Daemon.withAppliance, emissions_append, Entry.emission?],
        by simp [Carries], by simp, fun _ => ⟨rfl, rfl⟩⟩

theorem Daemon.Leaves.passesOn
    (h : d.Leaves (.setReadyState audioState powerState outcomes order) d') :
    PassesOn d d' [] [] := by
  cases h with
  | readying =>
      exact ⟨by simp [Daemon.absorb, Daemon.withAppliance],
        by simp [Daemon.absorb, Daemon.withAppliance], by simp [Carries], by simp,
        fun _ => ⟨rfl, rfl⟩⟩

end ReadyState

/-- What is passed on about a deferred activation: the source is called with the data of the
request that has deferred it, and each manager object is told those of the first request
that has come in through it. -/
structure HandsOver {evs : List (Event V)} {sourceId : String} (w : Deferral M evs sourceId)
    (es : List (BusEntry V)) (ss : List (Nat × Signal V)) : Prop where
  called : Carries w.requestData es
  told : ∀ m ∈ ss, ∃ p, w.waiting.find? (fun p => p.object = m.1) = some p ∧
    Tells sourceId p.requestData m.2
  /-- If there is only one manager object, these are the same. -/
  alone : (∀ p ∈ w.waiting, p.object = w.object) → ∀ m ∈ ss, Tells sourceId w.requestData m.2

theorem Deferral.handsOver {evs : List (Event V)} {d d' : Daemon M V}
    (w : Deferral M evs d.pendingId)
    (hdata : d.data.audioPathSwitch.pending.requestData = w.requestData)
    (hqueue : d.queue = w.waiting) {es : List (BusEntry V)} {ss : List (Nat × Signal V)}
    (h : PassesOn d d' es ss) : HandsOver w es ss where
  called := hdata ▸ h.called
  told := hqueue ▸ h.told
  alone hobject m hm := by
    obtain ⟨p, hp, htold⟩ := h.told m hm
    rw [hqueue] at hp
    have hsame : m.1 = w.object := by
      rw [← hobject p (List.mem_of_find?_eq_some hp)]
      exact (by simpa using List.find?_some hp : p.object = m.1).symm
    rw [w.waiting_eq, List.find?_cons_of_pos (by simp [hsame])] at hp
    rw [← Option.some.inj hp] at htold
    exact htold

namespace Daemon

/-- In every run: all calls made for a request pass its data along.  When the appliance state
changes while a source is pending, the source gets the data of the request that has deferred
it, whatever has been requested in between, and each manager object gets the data of the
first queued call that has come in through it; the queued calls are the requests for this
source since then, in order.  While nothing is pending, nobody gets anything. -/
theorem request_data_traced {evs : List (Event V)} {d : Daemon M V}
    (h : (system M V).Run evs d) :
    (∀ e data, e.requestData? = some data → ∃ es,
      busLog (d.afterwards e).log = busLog d.log ++ es ∧ Carries data es) ∧
    (d.pendingId ≠ "" → ∃ w : Deferral M evs d.pendingId, d.queue = w.waiting ∧
      ∀ audioState powerState outcomes order, ∃ es ss,
        let d' := d.afterwards (.setReadyState audioState powerState outcomes order)
        busLog d'.log = busLog d.log ++ es ∧ emissions d'.log = emissions d.log ++ ss ∧
          HandsOver w es ss) ∧
    (d.pendingId = "" → ∀ audioState powerState outcomes order,
      let d' := d.afterwards (.setReadyState audioState powerState outcomes order)
      busLog d'.log = busLog d.log ∧ emissions d'.log = emissions d.log) := by
  have hsw := consistent_of_reachable h.reachable
  have hpasses : ∀ audioState powerState outcomes order, ∃ es ss,
      PassesOn d (d.afterwards (.setReadyState audioState powerState outcomes order)) es ss := by
    intro audioState powerState outcomes order
    rcases steps_or_leaves hsw (.setReadyState audioState powerState outcomes order) with
      hsteps | hleaves
    · exact hsteps.passesOn hsw
    · exact ⟨[], [], hleaves.passesOn⟩
  refine ⟨fun e data hdata => carries_request hsw hdata, fun hpending => ?_, fun hnone => ?_⟩
  · obtain ⟨w, hdata, hqueue⟩ := traced_of_run h hpending
    refine ⟨w, hqueue, fun audioState powerState outcomes order => ?_⟩
    obtain ⟨es, ss, hpass⟩ := hpasses audioState powerState outcomes order
    exact ⟨es, ss, hpass.calls, hpass.signals, w.handsOver hdata hqueue hpass⟩
  · intro audioState powerState outcomes order
    obtain ⟨es, ss, hpass⟩ := hpasses audioState powerState outcomes order
    obtain ⟨rfl, rfl⟩ := hpass.idle hnone
    exact ⟨hpass.calls.trans (List.append_nil _), hpass.signals.trans (List.append_nil _)⟩

/-- The source is requested again through another object and with other data: it is still
called with those of the first request. -/
theorem request_data_traced_again : ∃ d : Daemon (Option Bool) Unit,
    (system (Option Bool) Unit).Run
      (deferralEvents ++ [.requestSource 1 "source" (some ()) fun _ => true]) d ∧
    ∃ w : Deferral (Option Bool)
        (deferralEvents ++ [.requestSource 1 "source" (some ()) fun _ => true]) d.pendingId,
      w.waiting = [⟨0, 5, none⟩, ⟨1, 6, some ()⟩] ∧ ∃ es,
        busLog (d.afterwards (.setReadyState 2 2 (fun _ => true) .insertion)).log =
          busLog d.log ++ es ∧ Carries none es := by
  have hexec : ((system (Option Bool) Unit).exec (system (Option Bool) Unit).init
      (deferralEvents ++ [.requestSource 1 "source" (some ()) fun _ => true])).map
        (fun d => (d.queue, d.pendingId)) =
      some ([⟨0, 5, none⟩, ⟨1, 6, some ()⟩], "source") := by decide +kernel
  obtain ⟨d, hrun, hseen⟩ := System.exists_run_of_exec hexec
  obtain ⟨hqueue, hpending⟩ := Prod.mk.inj hseen
  obtain ⟨w, hwaiting, hchange⟩ := (request_data_traced hrun).2.1 (by rw [hpending]; decide)
  obtain ⟨es, ss, hcalls, -, hhands⟩ := hchange 2 2 (fun _ => true) .insertion
  have hall : w.waiting = [⟨0, 5, none⟩, ⟨1, 6, some ()⟩] := hwaiting.symm.trans hqueue
  have hdata : w.requestData = none := by
    rw [w.waiting_eq, List.cons.injEq, Pending.mk.injEq] at hall
    exact hall.1.2.2
  exact ⟨d, hrun, w, hall, es, hcalls, hdata ▸ hhands.called⟩

end Daemon

end TapSwitch
