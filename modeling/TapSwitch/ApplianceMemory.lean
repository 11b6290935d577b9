import TapSwitch.Readiness

set_option autoImplicit false

/-!
# What the daemon remembers of the appliance

The appliance reports its audio path and power states as two bytes.  The handler data
keep what these bytes have meant, and change on every report in a way that depends on
what they have held before.  This file shows that nothing but the last report matters
for what `GetState` answers, for whether a requested source starts at once, and for
whether a report suspends the appliance anew.
-/

namespace TapSwitch

open Library

variable {M V : Type} [MaybeBool M]

/-- What a byte says about a state. -/
def reported (state : UInt8) : Option Bool :=
  if state = 1 then some false else if state = 2 then some true else none

/-- How a state is told to others. -/
def stateCode : Option Bool → UInt8
  | some false => 0
  | some true => 1
  | none => 2

/-- The audio and power bytes of an appliance report. -/
def Event.report? : Event V → Option (UInt8 × UInt8)
  | .setReadyState audioState powerState _ _ => some (audioState, powerState)
  | _ => none

/-- The last report of a list of events. -/
def lastReport (evs : List (Event V)) : Option (UInt8 × UInt8) :=
  (evs.filterMap Event.report?).getLast?

theorem lastReport_concat_some {evs : List (Event V)} {e : Event V} {report : UInt8 × UInt8}
    (h : e.report? = some report) : lastReport (evs ++ [e]) = some report := by
  simp [lastReport, h]

theorem lastReport_concat_none {evs : List (Event V)} {e : Event V} (h : e.report? = none) :
    lastReport (evs ++ [e]) = lastReport evs := by
  simp [lastReport, h]

/-- What the audio byte makes of the audio path state. -/
def readAudio (appliance : Appliance M) (audioState : UInt8) : M :=
  match audioState with
  | 1 => (setState appliance.isReadyForPlayback false).1
  | 2 => (setState appliance.isReadyForPlayback true).1
  | _ => MaybeBool.unknown

/-- Any other audio byte means that the audio path state is not known. -/
theorem readAudio_other {appliance : Appliance M} {audioState : UInt8} (hblocked : audioState ≠ 1)
    (hready : audioState ≠ 2) : readAudio appliance audioState = MaybeBool.unknown := by
  unfold readAudio
  split
  · exact absurd rfl hblocked
  · exact absurd rfl hready
  · rfl

/-- The power byte does not touch it. -/
theorem readPower_audio {appliance powered : Appliance M} {powerState : UInt8} {suspended : Bool}
    (h : (match powerState with
      | 1 => appliance.setSuspendMode
      | 2 => (appliance.setUpAndRunning.1, false)
      | _ => (appliance.setPowerStateUnknown, false)) = (powered, suspended)) :
    powered.isReadyForPlayback = appliance.isReadyForPlayback := by
  split at h
  · cases h
    rfl
  · cases h
    rfl
  · cases h
    rfl

/-- The power byte does not matter for it. -/
theorem readAppliance_audio (appliance : Appliance M) (audioState powerState : UInt8) :
    (readAppliance appliance audioState powerState).1.isReadyForPlayback =
      readAudio appliance audioState := by
  unfold readAppliance
  split
  rename_i powered suspended hpower
  have hsame := readPower_audio hpower
  simp only
  split
  · exact congrArg (fun state => (setState state false).1) hsame
  · exact congrArg (fun state => (setState state true).1) hsame
  · rename_i hblocked hready
    exact (readAudio_other hblocked hready).symm

section Lawful

variable [LawfulMaybeBool M]

/-- The appliance state is what the report has said. -/
structure Recalls (appliance : Appliance M) (report : Option (UInt8 × UInt8)) : Prop where
  audio : LawfulMaybeBool.value? appliance.isReadyForPlayback =
    report.bind fun bytes => reported bytes.1
  power : LawfulMaybeBool.value? appliance.isUpAndRunning =
    report.bind fun bytes => reported bytes.2

theorem Recalls.initial : Recalls (Appliance.initial : Appliance M) none where
  audio := LawfulMaybeBool.value?_unknown
  power := LawfulMaybeBool.value?_unknown

theorem value?_readAudio (appliance : Appliance M) (audioState : UInt8) :
    LawfulMaybeBool.value? (readAudio appliance audioState) = reported audioState := by
  unfold readAudio reported
  split
  · exact Appliance.value?_setState _ _
  · exact Appliance.value?_setState _ _
  · rename_i hblocked hready
    rw [if_neg hblocked, if_neg hready]
    exact LawfulMaybeBool.value?_unknown

theorem value?_readPower (appliance : Appliance M) (powerState : UInt8) :
    LawfulMaybeBool.value? (readPower appliance powerState).1 = reported powerState := by
  unfold readPower reported
  split
  · exact Appliance.value?_setState _ _
  · exact Appliance.value?_setState _ _
  · rename_i hsuspend hrun
    rw [if_neg hsuspend, if_neg hrun]
    exact LawfulMaybeBool.value?_unknown

/-- A report leaves nothing of the ones before. -/
theorem recalls_readAppliance (appliance : Appliance M) (audioState powerState : UInt8) :
    Recalls (readAppliance appliance audioState powerState).1 (some (audioState, powerState)) where
  audio := by
    rw [readAppliance_audio]
    exact value?_readAudio appliance audioState
  power := by
    rw [(Prod.mk.inj (readAppliance_power appliance audioState powerState)).1]
    exact value?_readPower appliance powerState

theorem reported_eq_false {state : UInt8} : reported state = some false ↔ state = 1 := by
  unfold reported
  split
  · simp_all
  · split <;> simp_all

theorem Recalls.suspended {appliance : Appliance M} {report : Option (UInt8 × UInt8)}
    (h : Recalls appliance report) :
    appliance.KnownSuspended ↔ ∃ audioState, report = some (audioState, 1) := by
  unfold Appliance.KnownSuspended
  rw [h.power]
  cases report with
  | none => simp
  | some bytes =>
      obtain ⟨audioState, powerState⟩ := bytes
      simp [reported_eq_false]

theorem Recalls.blocked {appliance : Appliance M} {report : Option (UInt8 × UInt8)}
    (h : Recalls appliance report) :
    appliance.KnownBlocked ↔ ∃ powerState, report = some (1, powerState) := by
  unfold Appliance.KnownBlocked
  rw [h.audio]
  cases report with
  | none => simp
  | some bytes =>
      obtain ⟨audioState, powerState⟩ := bytes
      simp [reported_eq_false]

/-- What `GetState` makes of a state. -/
theorem stateCode_value? (m : M) :
    (if MaybeBool.is m false then 0 else if MaybeBool.is m true then 1 else 2 : UInt8) =
      stateCode (LawfulMaybeBool.value? m) := by
  have hfalse := LawfulMaybeBool.is_iff m false
  have htrue := LawfulMaybeBool.is_iff m true
  cases hvalue : LawfulMaybeBool.value? m with
  | none => simp_all [stateCode]
  | some b => cases b <;> simp_all [stateCode]

namespace Daemon

/-- Only a report changes what is known about the appliance. -/
theorem recalls_of_run {evs : List (Event V)} {d : Daemon M V} (h : (system M V).Run evs d) :
    Recalls d.data.applianceState (lastReport evs) := by
  refine System.run_induction
    (P := fun evs d => Recalls d.data.applianceState (lastReport evs)) Recalls.initial ?_ h
  intro evs d e d' hrun ih hstep
  rw [(steps_of_step hrun.reachable hstep).appliance_eq]
  cases e with
  | setReadyState audioState powerState outcomes order =>
      rw [lastReport_concat_some rfl]
      exact recalls_readAppliance _ _ _
  | registerPlayer | registerSource | proxyDone | requestSource | releasePath | query =>
      rw [lastReport_concat_none rfl]
      exact ih

/-- After any run, the last report alone decides what `GetState` answers, whether a requested
source starts at once, and whether the next report suspends the appliance anew. -/
theorem last_report_decides {evs : List (Event V)} {d : Daemon M V}
    (h : (system M V).Run evs d) :
    (∃ d', (system M V).step d (.query .applianceState) = some d' ∧
      d'.data = d.data ∧ d'.creations = d.creations ∧
      d'.log = d.log ++ [.replied d.served (.getState
        (stateCode ((lastReport evs).bind fun bytes => reported bytes.1)))]) ∧
    (d.data.applianceState.enableAllowed = true ↔
      ∀ audioState powerState, lastReport evs = some (audioState, powerState) →
        audioState ≠ 1 ∧ powerState ≠ 1) ∧
    ∀ audioState powerState,
      (readAppliance d.data.applianceState audioState powerState).2 = true ↔
        powerState = 1 ∧ ¬ ∃ audioState', lastReport evs = some (audioState', 1) := by
  have hrecalls := recalls_of_run h
  refine ⟨?_, ?_, ?_⟩
  · refine ⟨_, step_eq_some.mpr rfl, rfl, rfl, ?_⟩
    rw [← hrecalls.audio, ← stateCode_value?]
    rfl
  · rw [Appliance.enableAllowed_iff, hrecalls.suspended, hrecalls.blocked]
    cases lastReport evs with
    | none => simp
    | some bytes =>
        obtain ⟨audioState, powerState⟩ := bytes
        simp [and_comm]
  · intro audioState powerState
    rw [readAppliance_suspended, (recalls_readAppliance _ _ _).suspended, hrecalls.suspended]
    simp

/-- The audio path gets blocked, then the power state becomes unknown. -/
def reportEvents : List (Event Unit) :=
  [.setReadyState 1 2 (fun _ => true) .insertion, .setReadyState 1 0 (fun _ => true) .insertion]

theorem last_report_decides_blocked : ∃ d : Daemon (Option Bool) Unit,
    (system (Option Bool) Unit).Run reportEvents d ∧ d.data.applianceState.enableAllowed = false ∧
      ∃ d', (system (Option Bool) Unit).step d (.query .applianceState) = some d' ∧
        d'.log = d.log ++ [.replied 2 (.getState 0)] := by
  have hexec : ((system (Option Bool) Unit).exec (system (Option Bool) Unit).init
      reportEvents).map (fun d => d.served) = some 2 := rfl
  obtain ⟨d, hrun, hserved⟩ := System.exists_run_of_exec hexec
  obtain ⟨⟨d', hstep, -, -, hlog⟩, hallowed, -⟩ := last_report_decides hrun
  refine ⟨d, hrun, ?_, d', hstep, ?_⟩
  · rw [← Bool.not_eq_true, hallowed]
    intro hnone
    exact (hnone 1 0 rfl).1 rfl
  · rw [hlog, show d.served = 2 from hserved]
    rfl

end Daemon

end Lawful

end TapSwitch
