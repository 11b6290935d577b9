import TapSwitch.Queue

set_option autoImplicit false

/-!
# Answering `SetReadyState`

The handler of `SetReadyState` leaves its own reply to the code that answers the
waiting calls.  One branch of that code forgets about it.
-/

namespace TapSwitch

open Library

variable {M V : Type} [MaybeBool M]

namespace Daemon

/-- The event is handled to its end, and its invocation has been answered once. -/
def AnsweredOnce (d : Daemon M V) (e : Event V) : Prop :=
  ∃ d', (system M V).step d e = some d' ∧ answers d'.log d.served = 1

/-- The next invocation has not been mentioned yet. -/
theorem fresh_invocation {d : Daemon M V} (h : (system M V).Reachable d) :
    answers d.log d.served = 0 ∧ waitings d.queue d.served = 0 := by
  obtain ⟨evs, hrun⟩ := h
  have haccounted := accounted_of_run hrun
  have hzero := haccounted.future d.served (by rw [haccounted.served])
  unfold tally at hzero
  omega

/-- An event leads to one state only. -/
theorem answeredOnce_iff_of_step {d d' : Daemon M V} {e : Event V}
    (hstep : (system M V).step d e = some d') :
    d.AnsweredOnce e ↔ answers d'.log d.served = 1 := by
  constructor
  · rintro ⟨d'', hstep', hanswers⟩
    rw [hstep] at hstep'
    exact Option.some.inj hstep' ▸ hanswers
  · exact fun hanswers => ⟨d', hstep, hanswers⟩

/-- A crash needs a pending source without proxy, and a reason to call it. -/
theorem pendingProxyMissing_of_crash {d : Daemon M V} {audioState powerState : UInt8}
    {outcomes : Outcomes} {order : IterationOrder V}
    (h : Crashes d (.setReadyState audioState powerState outcomes order)) :
    PendingProxyMissing d.data.audioPaths d.data.audioPathSwitch ∧
      ¬ ((readAppliance d.data.applianceState audioState powerState).1.enableAllowed = false ∧
        (readAppliance d.data.applianceState audioState powerState).2 = false) := by
  cases h with
  | completing hallowed hmissing => exact ⟨hmissing, by simp [hallowed]⟩
  | canceling _ hsuspended hmissing => exact ⟨hmissing, by simp [hsuspended]⟩

/-- `SetReadyState` is handled to its end if and only if nothing was pending, or the appliance
is not ready and has not just been suspended, or the pending source has a proxy. -/
theorem setReadyState_handled_iff {d : Daemon M V} (h : (system M V).Reachable d)
    (audioState powerState : UInt8) (outcomes : Outcomes) (order : IterationOrder V) :
    (∃ d', (system M V).step d (.setReadyState audioState powerState outcomes order) =
        some d') ↔
      d.pendingId = "" ∨
      ((readAppliance d.data.applianceState audioState powerState).1.enableAllowed = false ∧
        (readAppliance d.data.applianceState audioState powerState).2 = false) ∨
      ∃ source proxy, d.data.audioPaths.lookupSource d.pendingId = some source ∧
        source.dbusProxy = some proxy := by
  rcases listed (consistent_of_reachable h)
    (.setReadyState audioState powerState outcomes order) with
    ⟨d', hsteps, hrun⟩ | ⟨d', hcrash, hrun⟩
  · refine iff_of_true ⟨d', step_eq_some.mpr hrun⟩ ?_
    cases hsteps with
    | answered hpassive => exact absurd hpassive id
    | creating hcreation => simp [Event.creation] at hcreation
    | completed _ _ _ hc =>
        cases hc with
        | nothingPending hnone => exact .inl hnone
        | sourceFailed _ hlookup hproxy | selected _ hlookup hproxy =>
            exact .inr (.inr ⟨_, _, hlookup, hproxy⟩)
    | canceled _ _ _ hc =>
        cases hc with
        | nothingPending hnone => exact .inl hnone
        | canceled _ hlookup hproxy => exact .inr (.inr ⟨_, _, hlookup, hproxy⟩)
    | postponed hread hallowed => exact .inr (.inl (by simp [hread, hallowed]))
  · have hnot : ¬ ∃ d'', (system M V).step d
        (.setReadyState audioState powerState outcomes order) = some d'' := by
      simp [step_of_error hrun]
    refine iff_of_false hnot ?_
    obtain ⟨⟨hpending, source, hnone, hlookup⟩, hnotPostponed⟩ :=
      pendingProxyMissing_of_crash hcrash
    rintro (hempty | hpostponed | ⟨source', proxy, hlookup', hproxy⟩)
    · exact hpending hempty
    · exact hnotPostponed hpostponed
    · rw [hlookup] at hlookup'
      rw [← Option.some.inj hlookup', hnone] at hproxy
      cases hproxy

/-- The invocation of `SetReadyState` is answered exactly once, before the handler
returns, if and only if nothing was pending, or the appliance is not ready and has not
just been suspended, or the call that ends the pending activation can be made and, if it
is the final selection, succeeds. -/
theorem setReadyState_answered_iff {d : Daemon M V} (h : (system M V).Reachable d)
    (audioState powerState : UInt8) (outcomes : Outcomes) (order : IterationOrder V) :
    d.AnsweredOnce (.setReadyState audioState powerState outcomes order) ↔
      d.pendingId = "" ∨
      ((readAppliance d.data.applianceState audioState powerState).1.enableAllowed = false ∧
        (readAppliance d.data.applianceState audioState powerState).2 = false) ∨
      ∃ source proxy, d.data.audioPaths.lookupSource d.pendingId = some source ∧
        source.dbusProxy = some proxy ∧
        ((readAppliance d.data.applianceState audioState powerState).1.enableAllowed = true →
          outcomes .selected = true) := by
  have hsw := consistent_of_reachable h
  obtain ⟨hlog, hqueue⟩ := fresh_invocation h
  simp only [answers, waitings] at hlog hqueue
  rcases listed hsw (.setReadyState audioState powerState outcomes order) with
    ⟨d', hsteps, hrun⟩ | ⟨d', hcrash, hrun⟩
  · rw [answeredOnce_iff_of_step (step_eq_some.mpr hrun)]
    cases hsteps with
    | answered hpassive => exact absurd hpassive id
    | creating hcreation => simp [Event.creation] at hcreation
    | completed hread hallowed _ hc =>
        simp only [hread, hallowed]
        cases hc with
        | nothingPending hnone =>
            simp [hnone, answers, completionEntries, hlog]
        | @sourceFailed source proxy hpending hlookup hproxy hfailed =>
            simp [hpending, answers, completionEntries, hlog, Function.comp_def, hqueue,
              hfailed]
        | @selected source proxy hpending hlookup hproxy hok =>
            rcases hsw.phaseOne hpending with hphase | hphase <;>
              simp [hphase, hpending, answers, completionEntries, hlog, Function.comp_def,
                hqueue, hlookup, hproxy, hok]
    | canceled hread hallowed _ hc =>
        simp only [hread, hallowed]
        cases hc with
        | nothingPending hnone => simp [hnone, answers, hlog]
        | canceled hpending hlookup hproxy =>
            cases outcomes .deselected <;>
              simp [hpending, answers, hlog, Function.comp_def, hqueue, hlookup, hproxy]
    | postponed hread hallowed =>
        simp [hread, hallowed, answers, hlog]
  · have hnot : ¬ ∃ d'', (system M V).step d
        (.setReadyState audioState powerState outcomes order) = some d'' := by
      simp [step_of_error hrun]
    have hunanswered : ¬ d.AnsweredOnce (.setReadyState audioState powerState outcomes order) := by
      intro hanswered
      obtain ⟨d'', hstep, -⟩ := hanswered
      exact hnot ⟨d'', hstep⟩
    refine iff_of_false hunanswered ?_
    rw [setReadyState_handled_iff h] at hnot
    rintro (hempty | hpostponed | ⟨source, proxy, hlookup, hproxy, -⟩)
    · exact hnot (.inl hempty)
    · exact hnot (.inr (.inl hpostponed))
    · exact hnot (.inr (.inr ⟨source, proxy, hlookup, hproxy⟩))

/-- The waiting call gets ready and is completed with success. -/
theorem setReadyState_answered_iff_deferred : ∃ d : Daemon (Option Bool) Unit,
    (system (Option Bool) Unit).Reachable d ∧ d.pendingId = "source" ∧
      d.AnsweredOnce (.setReadyState 2 2 (fun _ => true) .insertion) := by
  obtain ⟨d, hrun, -, hpending, hlookup⟩ := exists_deferred
  have hreach := hrun.reachable
  refine ⟨d, hreach, hpending, (setReadyState_answered_iff hreach 2 2 _ .insertion).mpr ?_⟩
  exact .inr (.inr ⟨_, _, hpending ▸ hlookup, rfl, fun _ => rfl⟩)

/-- The waiting source fails when it is finally selected: `SetReadyState` is never
answered. -/
theorem setReadyState_not_always_answered :
    ¬ ∀ d : Daemon (Option Bool) Unit, (system (Option Bool) Unit).Reachable d →
      ∀ audioState powerState outcomes order,
        d.AnsweredOnce (.setReadyState audioState powerState outcomes order) := by
  intro hall
  have hexec : ((system (Option Bool) Unit).exec (system (Option Bool) Unit).init
      (deferralEvents ++
        [.setReadyState 2 2 (fun method => method != .selected) .insertion])).map
          (fun d => answers d.log 6) = some 0 := by decide +kernel
  obtain ⟨d', hrun', hnone⟩ := System.exists_run_of_exec hexec
  obtain ⟨d, hrun, hstep⟩ := hrun'.unsnoc
  have hserved : d.served = 6 := (accounted_of_run hrun).served
  obtain ⟨d'', hstep', hone⟩ := hall d hrun.reachable 2 2 (fun method => method != .selected)
    .insertion
  rw [hstep] at hstep'
  rw [← Option.some.inj hstep', hserved, hnone] at hone
  exact absurd hone (by decide)

end Daemon

end TapSwitch
