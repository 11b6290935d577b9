import TapSwitch.Daemon

set_option autoImplicit false

/-!
# Waiting calls

A `RequestSource` call that is deferred waits in the queue of the handler data, while
the activation it asks for is pending in the switch.  The two are kept in step by
result codes only.  This file proves that they never get out of step, and that no
call is lost on the way or answered twice.
-/

namespace TapSwitch

open Library

variable {M V : Type} [MaybeBool M]

/-- How the queue, the pending activation and the appliance belong together. -/
structure InStep (d : Daemon M V) : Prop where
  waiting : d.queue ≠ [] ↔ d.pendingId ≠ ""
  gate : d.pendingId ≠ "" → d.data.applianceState.enableAllowed = false

theorem InStep.initial : InStep (Daemon.initial : Daemon M V) where
  waiting := by simp [Daemon.initial]
  gate h := absurd rfl h

theorem InStep.queue_eq_nil {d : Daemon M V} (h : InStep d) (hnone : d.pendingId = "") :
    d.queue = [] := by
  by_contra hqueue
  exact h.waiting.mp hqueue hnone

section Switch

variable {d : Daemon M V} {outcomes : Outcomes} {data : GVariantWrapper V}
  {es : List (BusEntry V)}

/-- Deselecting leaves nobody waiting. -/
theorem InStep.kept_of_deselects (h : InStep d)
    (hsw : Consistent d.data.audioPaths d.data.audioPathSwitch)
    {r : DeselectedAudioSourceResult}
    (hd : Deselects outcomes d.data.audioPaths d.data.audioPathSwitch data r es) :
    keptCalls r d.queue = [] := by
  cases hd with
  | nothing _ hpending => exact h.queue_eq_nil hpending
  | active hcurrent =>
      exact h.queue_eq_nil (hsw.exclusive.resolve_left hcurrent)
  | pending => rfl

/-- So does rejecting a request. -/
theorem InStep.kept_of_rejected (h : InStep d) :
    keptCalls (droppedPending d.data.audioPathSwitch) d.queue = [] := by
  unfold droppedPending
  split
  · rfl
  · rename_i hpending
    exact h.queue_eq_nil (by simpa using hpending)

end Switch

theorem isFinal_of_rejects {paths : Paths} {sw : Switch V} {sourceId : String}
    {result : ActivateResult} (h : Rejects paths sw sourceId result) :
    isFinal result = true := by
  cases h <;> rfl

/-- A successful request waits exactly if it has been deferred. -/
theorem waits_activationResult (sw : Switch V) (playerId : String) (now : Bool) :
    waits now (activationResult sw playerId now) = !now := by
  unfold activationResult
  cases now <;> split <;> rfl

theorem InStep.requested {d : Daemon M V} (h : InStep d)
    (hsw : Consistent d.data.audioPaths d.data.audioPathSwitch)
    {object : Nat} {sourceId : String} {data : GVariantWrapper V} {outcomes : Outcomes}
    {a : Activation} {switch : Switch V} {es : List (BusEntry V)}
    (ha : Activates outcomes d.data.audioPaths d.data.audioPathSwitch data sourceId
      d.data.applianceState.enableAllowed a switch es) :
    InStep (d.next.requested object d.served sourceId data a switch es) := by
  cases ha with
  | rejected hrejects =>
      refine ⟨?_, fun hpending => absurd rfl hpending⟩
      simp [h.kept_of_rejected, waits, isFinal_of_rejects hrejects]
  | unchanged =>
      refine ⟨?_, h.gate⟩
      simpa [keptCalls, waits, isFinal] using h.waiting
  | alreadyPending hempty hpending =>
      have hnonempty : d.pendingId ≠ "" := fun hnone => hempty (hpending.trans hnone)
      refine ⟨?_, h.gate⟩
      simp [waits, isFinal, h.gate hnonempty, hnonempty]
  | playerFailed _ _ _ hd =>
      refine ⟨?_, fun hpending => absurd rfl hpending⟩
      simp [h.kept_of_deselects hsw hd, waits, isFinal]
  | sourceFailed _ _ hd =>
      refine ⟨?_, fun hpending => absurd rfl hpending⟩
      simp [h.kept_of_deselects hsw hd, waits, isFinal]
  | switched hfresh hpath hd =>
      have hid := Paths.id_of_lookupSource (Paths.lookupPath_eq_some.mp hpath).1
      cases hnow : d.data.applianceState.enableAllowed with
      | true =>
          refine ⟨?_, fun hpending => absurd rfl hpending⟩
          simp [h.kept_of_deselects hsw hd, hnow, waits_activationResult, switchedTo]
      | false =>
          refine ⟨?_, fun _ => hnow⟩
          simp [hnow, waits_activationResult, switchedTo, hid, hfresh.nonempty]

section Pending

variable {outcomes : Outcomes} {paths : Paths} {sw sw' : Switch V} {es : List (BusEntry V)}
  {result : ActivateResult}

/-- Completing reports an unknown source exactly if nothing was pending. -/
theorem Completes.result_eq (h : Consistent paths sw)
    (hc : Completes outcomes paths sw result sw' es) :
    result = .errorSourceUnknown ↔ sw.pending.sourceId = "" := by
  cases hc with
  | nothingPending hnone => simp [hnone]
  | sourceFailed hpending => simp [hpending]
  | selected hpending =>
      rcases h.phaseOne hpending with hphase | hphase <;> simp [hphase, hpending]

theorem Completes.pendingId_eq (hc : Completes outcomes paths sw result sw' es) :
    sw'.pending.sourceId = "" := by
  cases hc with
  | nothingPending hnone => exact hnone
  | sourceFailed | selected => rfl

/-- So does canceling. -/
theorem Cancels.result_eq (hc : Cancels outcomes paths sw result sw' es) :
    result = .errorSourceUnknown ↔ sw.pending.sourceId = "" := by
  cases hc with
  | nothingPending hnone => simp [hnone]
  | canceled hpending => cases outcomes .deselected <;> simp [hpending]

theorem Cancels.pendingId_eq (hc : Cancels outcomes paths sw result sw' es) :
    sw'.pending.sourceId = "" := by
  cases hc with
  | nothingPending hnone => exact hnone
  | canceled => rfl

end Pending

theorem InStep.step {d d' : Daemon M V} {e : Event V} (h : InStep d)
    (hsw : Consistent d.data.audioPaths d.data.audioPathSwitch) (hstep : Steps d e d') :
    InStep d' := by
  cases hstep with
  | answered | creating | noCreation | playerRegistered | sourceRegistered =>
      exact ⟨h.waiting, h.gate⟩
  | requested _ ha => exact h.requested hsw ha
  | released _ hr =>
      cases hr with
      | kept hd =>
          refine ⟨?_, fun hpending => absurd rfl hpending⟩
          simp [h.kept_of_deselects hsw hd, Switch.deselected]
      | killed hd =>
          refine ⟨?_, fun hpending => absurd rfl hpending⟩
          simp [h.kept_of_deselects hsw hd]
  | completed _ _ _ hc =>
      have hnone := hc.pendingId_eq
      refine ⟨?_, fun hpending => absurd hnone hpending⟩
      simpa [hc.result_eq hsw, hnone] using h.queue_eq_nil
  | canceled _ _ _ hc =>
      have hnone := hc.pendingId_eq
      refine ⟨?_, fun hpending => absurd hnone hpending⟩
      simpa [hc.result_eq, hnone] using h.queue_eq_nil
  | postponed _ hallowed => exact ⟨h.waiting, fun _ => hallowed⟩

namespace Daemon

theorem inStep_of_reachable {d : Daemon M V} (h : (system M V).Reachable d) : InStep d := by
  refine System.reachable_induction (P := InStep) .initial ?_ h
  intro d e d' hreach ih hstep
  exact ih.step (consistent_of_reachable hreach) (steps_of_step hreach hstep)

end Daemon

/-! ## Counting answers -/

/-- How often the invocation has been answered. -/
def answers (log : List (Entry V)) (invocation : Nat) : Nat :=
  ((replies log).map Prod.fst).count invocation

/-- How often the invocation waits in the queue. -/
def waitings (queue : List (Pending V)) (invocation : Nat) : Nat :=
  (queue.map fun p => p.invocation).count invocation

/-- How often the invocation has been accounted for. -/
def tally (d : Daemon M V) (invocation : Nat) : Nat :=
  answers d.log invocation + waitings d.queue invocation

theorem waitings_append (queue more : List (Pending V)) (i : Nat) :
    waitings (queue ++ more) i = waitings queue i + waitings more i := by
  simp [waitings]

/-- Every queued call is either dropped or kept. -/
theorem waitings_dropped_kept (r : DeselectedAudioSourceResult) (queue : List (Pending V))
    (i : Nat) :
    waitings (droppedCalls r queue) i + waitings (keptCalls r queue) i = waitings queue i := by
  unfold droppedCalls keptCalls
  split <;> simp [waitings]

/-- A request is accounted for once for its reply and once for its place in the queue;
everybody else is accounted for as before. -/
theorem tally_requested (d : Daemon M V) (object : Nat) (sourceId : String)
    (data : GVariantWrapper V) (a : Activation) (switch : Switch V)
    (es : List (BusEntry V)) (i : Nat) :
    tally (d.next.requested object d.served sourceId data a switch es) i =
      tally d i +
        if d.served = i then
          (requestReply a).toList.length +
            (waits d.data.applianceState.enableAllowed a.result).toNat
        else 0 := by
  have hkept := waitings_dropped_kept a.deselectedResult d.queue i
  have hlog : answers (d.next.requested object d.served sourceId data a switch es).log i =
      answers d.log i + ((if d.served = i then (requestReply a).toList.length else 0) +
        waitings (droppedCalls a.deselectedResult d.queue) i) := by
    simp [answers, waitings, Function.comp_def, List.count_replicate]
  have hqueue : waitings (d.next.requested object d.served sourceId data a switch es).queue i =
      waitings (keptCalls a.deselectedResult d.queue) i +
        if d.served = i then
          (waits d.data.applianceState.enableAllowed a.result).toNat else 0 := by
    simp only [queue_requested, Daemon.next_data, waitings_append]
    by_cases hwaits : waits d.data.applianceState.enableAllowed a.result = true
    · simp [hwaits, waitings, List.count_singleton]
    · simp [hwaits, waitings]
  unfold tally
  rw [hlog, hqueue]
  split <;> omega

theorem requestReply_of_rejects {paths : Paths} {sw : Switch V} {sourceId : String}
    {result : ActivateResult} (h : Rejects paths sw sourceId result)
    (playerId : Option String) (deselected : DeselectedAudioSourceResult) :
    (requestReply ⟨result, playerId, deselected⟩).toList.length = 1 := by
  cases h <;> rfl

/-- A request is either answered at once or enters the queue. -/
theorem InStep.request_accounted {d : Daemon M V} (h : InStep d) {sourceId : String}
    {data : GVariantWrapper V} {outcomes : Outcomes} {a : Activation} {switch : Switch V}
    {es : List (BusEntry V)}
    (ha : Activates outcomes d.data.audioPaths d.data.audioPathSwitch data sourceId
      d.data.applianceState.enableAllowed a switch es) :
    (requestReply a).toList.length +
      (waits d.data.applianceState.enableAllowed a.result).toNat = 1 := by
  cases ha with
  | rejected hrejects =>
      rw [requestReply_of_rejects hrejects]
      simp [waits, isFinal_of_rejects hrejects]
  | unchanged | playerFailed | sourceFailed => simp [requestReply, waits, isFinal]
  | alreadyPending hempty hpending =>
      have hnonempty : d.pendingId ≠ "" := fun hnone => hempty (hpending.trans hnone)
      simp [requestReply, waits, isFinal, h.gate hnonempty]
  | @switched source player =>
      simp only [waits_activationResult]
      cases d.data.applianceState.enableAllowed <;>
        by_cases hplayer : player.id = d.data.audioPathSwitch.currentPlayerId <;>
        simp [activationResult, requestReply, hplayer]

/-- The invocation that a creation will answer. -/
def Creation.invocation : Creation → Nat
  | .player _ invocation .. => invocation
  | .source _ invocation .. => invocation

/-- A step accounts for its own invocation and for those whose proxy is done, and for no
other differently than before. -/
theorem InStep.tally_step {d d' : Daemon M V} {e : Event V} (h : InStep d)
    (hsw : Consistent d.data.audioPaths d.data.audioPathSwitch) (hstep : Steps d e d')
    {i : Nat} (hother : d.served ≠ i)
    (hcreations : ∀ creation ∈ d.creations, creation.invocation ≠ i) :
    tally d' i = tally d i := by
  have hnone : d.pendingId = "" → waitings d.queue i = 0 := by
    intro hpending
    rw [h.queue_eq_nil hpending]
    rfl
  cases hstep with
  | answered => simp [tally, answers, hother]
  | creating | noCreation => rfl
  | playerRegistered hcreation =>
      have hne := hcreations _ (List.mem_of_getElem? hcreation)
      simp only [Creation.invocation] at hne
      simp [tally, answers, hne]
  | sourceRegistered hcreation =>
      have hne := hcreations _ (List.mem_of_getElem? hcreation)
      simp only [Creation.invocation] at hne
      simp [tally, answers, hne]
  | requested _ ha =>
      rw [tally_requested, if_neg hother, Nat.add_zero]
  | @released object deactivatePlayer data outcomes r switch es hrun hr =>
      have hkept := waitings_dropped_kept r.deselectedResult d.queue i
      simp [tally, answers, waitings, hother, Function.comp_def] at hkept ⊢
      omega
  | @completed audioState powerState outcomes order appliance suspended r switch es _ _ _ hc =>
      cases hc with
      | nothingPending =>
          simp [tally, answers, completionEntries, hother]
      | sourceFailed =>
          simp [tally, answers, waitings, completionEntries, Function.comp_def]
      | selected hpending =>
          rcases hsw.phaseOne hpending with hphase | hphase <;>
            simp [tally, answers, waitings, completionEntries, Function.comp_def, hphase, hother]
  | @canceled audioState powerState outcomes order appliance sourceId r switch es _ _ _ hc =>
      cases hc with
      | nothingPending => simp [tally, answers, hother]
      | canceled =>
          cases outcomes .deselected <;>
            simp [tally, answers, waitings, Function.comp_def, hother]
  | postponed => simp [tally, answers, hother]

/-! ## Who is waiting for what -/

/-- The event number `i` is a request for the source. -/
def Asks (evs : List (Event V)) (i : Nat) (sourceId : String) : Prop :=
  ∃ object data outcomes, evs[i]? = some (.requestSource object sourceId data outcomes)

omit [MaybeBool M] in
theorem asks_concat_of_lt {evs : List (Event V)} {e : Event V} {i : Nat} {sourceId : String}
    (h : i < evs.length) : Asks (evs ++ [e]) i sourceId ↔ Asks evs i sourceId := by
  simp [Asks, List.getElem?_append_left h]

omit [MaybeBool M] in
theorem asks_concat_self {evs : List (Event V)} {e : Event V} {sourceId : String} :
    Asks (evs ++ [e]) evs.length sourceId ↔
      ∃ object data outcomes, e = .requestSource object sourceId data outcomes := by
  simp [Asks]

omit [MaybeBool M] in
theorem Asks.lt {evs : List (Event V)} {i : Nat} {sourceId : String}
    (h : Asks evs i sourceId) : i < evs.length := by
  obtain ⟨object, data, outcomes, hi⟩ := h
  exact (List.getElem?_eq_some_iff.mp hi).1

omit [MaybeBool M] in
/-- An invocation asks for one source only. -/
theorem Asks.unique {evs : List (Event V)} {i : Nat} {s s' : String} (h : Asks evs i s)
    (h' : Asks evs i s') : s = s' := by
  obtain ⟨object, data, outcomes, hi⟩ := h
  obtain ⟨object', data', outcomes', hi'⟩ := h'
  rw [hi, Option.some.injEq, Event.requestSource.injEq] at hi'
  exact hi'.2.1

theorem Steps.served_eq {d d' : Daemon M V} {e : Event V} (h : Steps d e d') :
    d'.served = d.served + 1 := by
  cases h <;> rfl

/-- Creations are only added by registrations. -/
theorem Steps.creations_sub {d d' : Daemon M V} {e : Event V} (h : Steps d e d')
    {creation : Creation} (hmem : creation ∈ d'.creations) :
    creation ∈ d.creations ∨ e.creation d.served = some creation := by
  cases h with
  | creating hcreation =>
      rcases List.mem_append.mp hmem with hold | hnew
      · exact .inl hold
      · rw [List.mem_singleton.mp hnew]
        exact .inr hcreation
  | playerRegistered => exact .inl (List.mem_of_mem_eraseIdx hmem)
  | sourceRegistered => exact .inl (List.mem_of_mem_eraseIdx hmem)
  | answered | noCreation | requested | released | completed | canceled | postponed =>
      exact .inl hmem

/-- Whoever waits after a step has waited for the same activation before, or has just
asked for it. -/
theorem InStep.queue_step {d d' : Daemon M V} {e : Event V} (h : InStep d)
    (hsw : Consistent d.data.audioPaths d.data.audioPathSwitch) (hstep : Steps d e d')
    {p : Pending V} (hp : p ∈ d'.queue) :
    (p ∈ d.queue ∧ d'.pendingId = d.pendingId) ∨
      (p.invocation = d.served ∧
        ∃ object data outcomes, e = .requestSource object d'.pendingId data outcomes) := by
  cases hstep with
  | answered | creating | noCreation | playerRegistered | sourceRegistered | postponed =>
      exact .inl ⟨hp, rfl⟩
  | @requested object sourceId data outcomes a switch es _ ha =>
      rw [queue_requested, Daemon.next_queue, Daemon.next_data] at hp
      cases ha with
      | rejected hrejects =>
          simp [h.kept_of_rejected, waits, isFinal_of_rejects hrejects] at hp
      | unchanged =>
          simp [keptCalls, waits, isFinal] at hp
          exact .inl ⟨hp, rfl⟩
      | alreadyPending _ hpending =>
          rcases List.mem_append.mp hp with hold | hnew
          · exact .inl ⟨hold, rfl⟩
          · refine .inr ?_
            split at hnew
            · rw [List.mem_singleton.mp hnew]
              exact ⟨rfl, object, data, outcomes, by rw [hpending]; rfl⟩
            · simp at hnew
      | playerFailed _ _ _ hd => simp [h.kept_of_deselects hsw hd, waits, isFinal] at hp
      | sourceFailed _ _ hd => simp [h.kept_of_deselects hsw hd, waits, isFinal] at hp
      | @switched source player _ _ _ _ _ hpath hd =>
          have hid := Paths.id_of_lookupSource (Paths.lookupPath_eq_some.mp hpath).1
          rw [h.kept_of_deselects hsw hd, waits_activationResult, List.nil_append] at hp
          cases hnow : d.data.applianceState.enableAllowed with
          | true => simp [hnow] at hp
          | false =>
              simp [hnow] at hp
              refine .inr ⟨by rw [hp], object, data, outcomes, ?_⟩
              simp [switchedTo, hid]
  | released _ hr =>
      cases hr with
      | kept hd => simp [h.kept_of_deselects hsw hd] at hp
      | killed hd => simp [h.kept_of_deselects hsw hd] at hp
  | completed _ _ _ hc =>
      rw [queue_completed] at hp
      split at hp
      · rename_i hnone
        exact .inl ⟨hp, by simp [hc.pendingId_eq, (hc.result_eq hsw).mp hnone]⟩
      · simp at hp
  | canceled _ _ _ hc =>
      rw [queue_canceled] at hp
      split at hp
      · rename_i hnone
        exact .inl ⟨hp, by simp [hc.pendingId_eq, hc.result_eq.mp hnone]⟩
      · simp at hp

/-! ## Runs -/

/-- The account of a run: every request is in it exactly once. -/
structure Accounted (evs : List (Event V)) (d : Daemon M V) : Prop where
  served : d.served = evs.length
  queued : ∀ p ∈ d.queue, Asks evs p.invocation d.pendingId
  /-- No request waits for a proxy. -/
  creations : ∀ creation ∈ d.creations,
    creation.invocation < evs.length ∧ ∀ sourceId, ¬ Asks evs creation.invocation sourceId
  future : ∀ i, evs.length ≤ i → tally d i = 0
  once : ∀ i sourceId, Asks evs i sourceId → tally d i = 1

theorem Accounted.initial : Accounted [] (Daemon.initial : Daemon M V) where
  served := rfl
  queued _ hp := absurd hp List.not_mem_nil
  creations _ hmem := absurd hmem List.not_mem_nil
  future _ _ := rfl
  once i _ h := absurd h.lt (Nat.not_lt_zero i)

omit [MaybeBool M] in
theorem invocation_of_creation {e : Event V} {invocation : Nat} {creation : Creation}
    (h : e.creation invocation = some creation) :
    creation.invocation = invocation ∧
      ¬ ∃ object sourceId data outcomes, e = .requestSource object sourceId data outcomes := by
  cases e with
  | registerPlayer | registerSource =>
      simp only [Event.creation] at h
      split at h
      · simp at h
      · rw [← Option.some.inj h]
        simp [Creation.invocation]
  | proxyDone | requestSource | releasePath | setReadyState | query =>
      simp [Event.creation] at h

theorem Accounted.step {evs : List (Event V)} {d d' : Daemon M V} {e : Event V}
    (h : Accounted evs d) (hin : InStep d)
    (hsw : Consistent d.data.audioPaths d.data.audioPathSwitch) (hstep : Steps d e d') :
    Accounted (evs ++ [e]) d' := by
  have hnew : ∀ sourceId, Asks (evs ++ [e]) d.served sourceId ↔
      ∃ object data outcomes, e = .requestSource object sourceId data outcomes := by
    intro sourceId
    rw [h.served]
    exact asks_concat_self
  refine ⟨by simp [hstep.served_eq, h.served], ?_, ?_, ?_, ?_⟩
  · intro p hp
    rcases hin.queue_step hsw hstep hp with ⟨hold, hsame⟩ | ⟨hinvocation, hask⟩
    · rw [hsame, asks_concat_of_lt (h.queued p hold).lt]
      exact h.queued p hold
    · rw [hinvocation]
      exact (hnew _).mpr hask
  · intro creation hmem
    rw [List.length_append, List.length_singleton]
    rcases hstep.creations_sub hmem with hold | hadded
    · obtain ⟨hlt, hnot⟩ := h.creations creation hold
      refine ⟨by omega, fun sourceId => ?_⟩
      rw [asks_concat_of_lt hlt]
      exact hnot sourceId
    · obtain ⟨hinvocation, hnot⟩ := invocation_of_creation hadded
      rw [hinvocation]
      refine ⟨by rw [h.served]; omega, fun sourceId hasks => hnot ?_⟩
      obtain ⟨object, data, outcomes, he⟩ := (hnew sourceId).mp hasks
      exact ⟨object, sourceId, data, outcomes, he⟩
  · intro i hi
    rw [List.length_append, List.length_singleton] at hi
    rw [hin.tally_step hsw hstep (by rw [h.served]; omega) ?_]
    · exact h.future i (by omega)
    · intro creation hmem
      have hlt := (h.creations creation hmem).1
      omega
  · intro i sourceId hasks
    by_cases hi : i = d.served
    · -- The request just handled: its reply or its place in the queue is new.
      subst hi
      obtain ⟨object, data, outcomes, rfl⟩ := (hnew sourceId).mp hasks
      have hzero : tally d d.served = 0 := h.future _ (by rw [h.served])
      cases hstep with
      | answered hpassive => exact absurd hpassive id
      | creating hcreation => simp [Event.creation] at hcreation
      | requested _ ha =>
          rw [tally_requested, if_pos rfl, hzero, hin.request_accounted ha]
    · -- An earlier request: nobody but itself is answered in its name.
      have hlt : i < evs.length := by
        have := hasks.lt
        rw [List.length_append, List.length_singleton] at this
        have := h.served
        omega
      rw [asks_concat_of_lt hlt] at hasks
      rw [hin.tally_step hsw hstep (fun heq => hi heq.symm) ?_]
      · exact h.once i sourceId hasks
      · intro creation hmem heq
        exact (h.creations creation hmem).2 sourceId (heq ▸ hasks)

namespace Daemon

theorem accounted_of_run {evs : List (Event V)} {d : Daemon M V}
    (h : (system M V).Run evs d) : Accounted evs d := by
  refine System.run_induction (P := Accounted) .initial ?_ h
  intro evs d e d' hrun ih hstep
  have hreach := hrun.reachable
  exact ih.step (inStep_of_reachable hreach) (consistent_of_reachable hreach)
    (steps_of_step hreach hstep)

/-- In every run, each request has either been answered, and then exactly once, or it
waits in the queue, and then at exactly one place.  The queue is in use exactly while an
activation is pending, and holds requests for that source only.  The next event is handled
to its end unless a registered component lacks its proxy. -/
theorem requests_accounted {evs : List (Event V)} {d : Daemon M V}
    (h : (system M V).Run evs d) :
    (∀ i sourceId, Asks evs i sourceId →
      answers d.log i = 1 ∧ waitings d.queue i = 0 ∨
        answers d.log i = 0 ∧ waitings d.queue i = 1) ∧
    (d.queue ≠ [] ↔ d.pendingId ≠ "") ∧
    (∀ p ∈ d.queue, Asks evs p.invocation d.pendingId) ∧
    (Provided d.data.audioPaths → ∀ e, ∃ d', (system M V).step d e = some d') := by
  have haccounted := accounted_of_run h
  refine ⟨?_, (inStep_of_reachable h.reachable).waiting, haccounted.queued,
    fun hprovided e => exists_step h.reachable hprovided e⟩
  intro i sourceId hasks
  have honce := haccounted.once i sourceId hasks
  unfold tally at honce
  omega

/-- A source is requested while the appliance is blocked. -/
def deferralEvents : List (Event Unit) :=
  [.registerPlayer 0 "player" "Player" "/player" ":1.1",
    .registerSource 0 "source" "Source" "player" "/source" ":1.1",
    .proxyDone 0 true, .proxyDone 0 true,
    .setReadyState 1 0 (fun _ => true) .insertion,
    .requestSource 0 "source" none fun _ => true]

theorem exists_deferred : ∃ d : Daemon (Option Bool) Unit,
    (system (Option Bool) Unit).Run deferralEvents d ∧ d.queue = [⟨0, 5, none⟩] ∧
      d.pendingId = "source" ∧ d.data.audioPaths.lookupSource "source" =
        some ⟨"source", "Source", "player", some ⟨1, ":1.1", "/source"⟩⟩ := by
  have hexec : ((system (Option Bool) Unit).exec (system (Option Bool) Unit).init
      deferralEvents).map (fun d =>
        (d.queue, d.pendingId, d.data.audioPaths.lookupSource "source")) =
      some ([⟨0, 5, none⟩], "source",
        some ⟨"source", "Source", "player", some ⟨1, ":1.1", "/source"⟩⟩) := by decide +kernel
  obtain ⟨d, hrun, hseen⟩ := System.exists_run_of_exec hexec
  simp only [Prod.mk.injEq] at hseen
  exact ⟨d, hrun, hseen⟩

theorem requests_accounted_deferred : ∃ d : Daemon (Option Bool) Unit,
    (system (Option Bool) Unit).Run deferralEvents d ∧
      answers d.log 5 = 0 ∧ waitings d.queue 5 = 1 := by
  obtain ⟨d, hrun, hqueue, -⟩ := exists_deferred
  have haccount := (requests_accounted hrun).1 5 "source" ⟨0, none, fun _ => true, rfl⟩
  have hwaiting : waitings d.queue 5 = 1 := by rw [hqueue]; rfl
  exact ⟨d, hrun, by omega, hwaiting⟩

end Daemon

end TapSwitch
