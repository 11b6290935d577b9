import TapSwitch.Queue
import TapSwitch.Library.Trace

set_option autoImplicit false

/-!
# What a listening client knows

A client that never asks can still follow the current path: the signals tell it which
source and player have been activated.  Whether they tell it the truth depends on where
the handlers take the player from.
-/

namespace TapSwitch

open Library

variable {V : Type}

/-- The path that a client takes for the current one because of this signal, if the
signal tells. -/
def Signal.told : Signal V → Option (Unit × (String × String))
  | .pathActivated sourceId playerId _ => some ((), sourceId, playerId)
  | .pathDeferred _ playerId => some ((), "", playerId)
  | .pathReactivated .. | .playerRegistered .. | .pathAvailable .. => none

/-- The view of a client that has got these signals and nothing else. -/
def view (sent : List (Signal V)) : String × String :=
  latest Signal.told ("", "") sent ()

/-- What `GetCurrentPath` returns. -/
def Switch.path (sw : Switch V) : String × String := (sw.currentSourceId, sw.currentPlayerId)

section View

variable {sent more : List (Signal V)} {path : String × String}

theorem view_append_of_silent (h : ∀ signal ∈ more, signal.told = none) :
    view (sent ++ more) = view sent :=
  congrFun (latest_append_of_silent sent h) ()

theorem view_append_of_all (hall : ∀ signal ∈ more, signal.told = some ((), path))
    (hsome : more ≠ []) : view (sent ++ more) = path := by
  obtain ⟨signal, hsignal⟩ := List.exists_mem_of_ne_nil more hsome
  exact latest_append_of_all sent (fun signal hmem => .inr (hall signal hmem))
    ⟨signal, hsignal, hall signal hsignal⟩

end View

/-! ## Single operations -/

section Operations

variable {paths : Paths} {sent : List (Signal V)} {sw sw' : Switch V}
  {es : List (BusEntry V)} {outcomes : Outcomes} {data : GVariantWrapper V}

/-- The request does not make a player fail: if it needs a new player, then that player
can be activated. -/
def Startable (outcomes : Outcomes) (paths : Paths) (sw : Switch V) (sourceId : String) :
    Prop :=
  Fresh sw sourceId → ∀ source player, paths.lookupPath sourceId = (some source, some player) →
    player.id ≠ sw.currentPlayerId → outcomes .activate = true

theorem startable_of_rejects {sourceId : String} {result : ActivateResult}
    (h : Rejects paths sw sourceId result) : Startable outcomes paths sw sourceId := by
  intro hfresh source player hpath
  obtain ⟨hsource, hplayer⟩ := Paths.lookupPath_eq_some.mp hpath
  cases h with
  | empty hempty => exact absurd hempty hfresh.nonempty
  | sourceUnknown _ hnone =>
      rw [hnone] at hsource
      cases hsource
  | playerUnknown _ hsource' hnone =>
      rw [hsource'] at hsource
      rw [← Option.some.inj hsource, hnone] at hplayer
      cases hplayer

theorem startable_of_switchesTo {sourceId : String} {source : Source} {player : Player}
    (hpath : paths.lookupPath sourceId = (some source, some player))
    (h : SwitchesTo outcomes paths sw data player es) :
    Startable outcomes paths sw sourceId := by
  intro _ source' player' hpath' hchanged
  rw [hpath] at hpath'
  cases hpath'
  cases h with
  | same hsame => exact absurd hsame hchanged
  | changed _ _ _ hok => exact hok

/-- A request keeps the client informed unless the new player fails: then the signal
names that player, but there is none anymore. -/
theorem view_requested_iff (h : view sent = sw.path) (hsw : Consistent paths sw)
    (hnamed : paths.lookupPlayer "" = none) {sourceId : String} {now : Bool}
    {a : Activation} (ha : Activates outcomes paths sw data sourceId now a sw' es) :
    view (sent ++ (requestSignal sourceId data a).toList) = sw'.path ↔
      Startable outcomes paths sw sourceId := by
  cases ha with
  | rejected hrejects =>
      refine iff_of_true ?_ (startable_of_rejects hrejects)
      cases hrejects <;> simpa [requestSignal, Switch.path] using h
  | unchanged _ hcurrent =>
      refine iff_of_true ?_ fun hfresh => absurd hcurrent hfresh.not_current
      rw [view_append_of_silent (by simp [requestSignal, Signal.told])]
      exact h
  | alreadyPending hnonempty hpending =>
      refine iff_of_true ?_ fun hfresh => absurd hpending hfresh.not_pending
      have hcurrent := hsw.exclusive.resolve_right (hpending ▸ hnonempty)
      refine view_append_of_all ?_ (by simp [requestSignal])
      simp [requestSignal, Signal.told, Switch.path, hcurrent]
  | @playerFailed source player _ _ _ _ hfresh hpath hchanged _ _ _ hfailed =>
      refine iff_of_false ?_ ?_
      · intro hview
        have htold : view (sent ++ [.pathActivated "" player.id data]) = ("", player.id) :=
          view_append_of_all (by simp [Signal.told]) (List.cons_ne_nil _ _)
        -- An empty ID cannot have been registered.
        have hempty : player.id = "" := congrArg Prod.snd (htold.symm.trans hview)
        have hplayer := (Paths.lookupPath_eq_some.mp hpath).2
        rw [← Paths.id_of_lookupPlayer hplayer, hempty, hnamed] at hplayer
        cases hplayer
      · intro hstartable
        rw [hstartable hfresh source player hpath hchanged] at hfailed
        cases hfailed
  | sourceFailed _ hpath _ hs =>
      refine iff_of_true ?_ (startable_of_switchesTo hpath hs)
      exact view_append_of_all (by simp [requestSignal, Signal.told, Switch.path])
        (by simp [requestSignal])
  | @switched source player _ _ _ _ _ hpath _ hs =>
      refine iff_of_true ?_ (startable_of_switchesTo hpath hs)
      have hid := Paths.id_of_lookupSource (Paths.lookupPath_eq_some.mp hpath).1
      by_cases hplayer : player.id = sw.currentPlayerId <;> cases now <;>
        refine view_append_of_all ?_ ?_ <;>
        simp [activationResult, hplayer, requestSignal, Signal.told, Switch.path, switchedTo,
          hid]

/-- Releasing the path keeps the client informed. -/
theorem view_released (h : view sent = sw.path) {killPlayer : Bool} {r : Release}
    (hr : Releases outcomes paths sw data killPlayer r sw' es) :
    view (sent ++ if r.result = .unchanged then []
      else [.pathActivated "" (r.playerId.getD "") data]) = sw'.path := by
  by_cases hunchanged : r.result = .unchanged
  · rw [if_pos hunchanged, List.append_nil, h]
    cases hr with
    | kept =>
        have hcurrent : sw.currentSourceId = "" := by
          by_contra hcurrent
          simp [releaseResult, hcurrent] at hunchanged
        simp [Switch.path, Switch.deselected, hcurrent]
    | killed =>
        have hidle : sw.currentSourceId = "" ∧ sw.currentPlayerId = "" := by
          by_cases hcurrent : sw.currentSourceId = "" <;>
            by_cases hplayer : sw.currentPlayerId = "" <;>
            simp_all [releaseResult]
        simp [Switch.path, hidle]
  · rw [if_neg hunchanged]
    refine view_append_of_all ?_ (List.cons_ne_nil _ _)
    cases hr with
    | kept =>
        by_cases hplayer : sw.currentPlayerId = "" <;>
          simp [Signal.told, Switch.path, Switch.deselected, hplayer]
    | killed => simp [Signal.told, Switch.path]

end Operations

/-- The signals emitted after the queue has been drained tell where the source plays,
if anybody has been waiting. -/
theorem view_drained (sent : List (Signal V)) (order : IterationOrder V)
    {objects : ManagerObjects V} (hsome : objects ≠ []) (sourceId playerId : String) :
    view (sent ++ (order.arrange objects).map fun m =>
      .pathActivated sourceId playerId m.2) = (sourceId, playerId) := by
  refine view_append_of_all ?_ ?_
  · intro signal hmem
    obtain ⟨m, -, rfl⟩ := List.mem_map.mp hmem
    rfl
  · intro hnil
    have hperm := order.perm objects
    rw [List.map_eq_nil_iff.mp hnil] at hperm
    exact hsome hperm.nil_eq.symm

/-! ## Runs -/

variable {M : Type} [MaybeBool M]

/-- The event does not make a player fail. -/
def PlayerStarts (d : Daemon M V) (e : Event V) : Prop :=
  ∀ object sourceId data outcomes, e = .requestSource object sourceId data outcomes →
    Startable outcomes d.data.audioPaths d.data.audioPathSwitch sourceId

namespace Daemon

/-- A client that only listens knows the current path. -/
def Informed (d : Daemon M V) : Prop := view (signals d.log) = d.data.audioPathSwitch.path

omit [MaybeBool M] in
theorem Informed.silent {d d' : Daemon M V} (h : d.Informed) (more : List (Signal V))
    (hsignals : signals d'.log = signals d.log ++ more)
    (hsilent : ∀ signal ∈ more, signal.told = none)
    (hpath : d'.data.audioPathSwitch.path = d.data.audioPathSwitch.path) : d'.Informed := by
  rw [Informed, hsignals, view_append_of_silent hsilent, hpath]
  exact h

omit [MaybeBool M] in
theorem informed_completed {d : Daemon M V} (h : d.Informed)
    (hsw : Consistent d.data.audioPaths d.data.audioPathSwitch)
    (hqueue : d.pendingId ≠ "" → d.queue ≠ []) (order : IterationOrder V) (invocation : Nat)
    (appliance : Appliance M) {outcomes : Outcomes} {result : ActivateResult}
    {switch : Switch V} {es : List (BusEntry V)}
    (hc : Completes outcomes d.data.audioPaths d.data.audioPathSwitch result switch es) :
    (d.next.completed order invocation appliance result switch es).Informed := by
  cases hc with
  | nothingPending =>
      exact h.silent [] (by simp [completionEntries]) (by simp) rfl
  | sourceFailed hpending =>
      have hsome := collected_ne_nil (hqueue hpending)
      have hview := view_drained (signals d.log) order hsome ""
        d.data.audioPathSwitch.currentPlayerId
      simpa [Informed, completionEntries, Switch.path] using hview
  | selected hpending =>
      have hsome := collected_ne_nil (hqueue hpending)
      have hview := view_drained (signals d.log) order hsome d.pendingId
        d.data.audioPathSwitch.currentPlayerId
      rcases hsw.phaseOne hpending with hphase | hphase <;>
        simpa [Informed, completionEntries, Switch.path, hphase] using hview

theorem informed_step_iff {d d' : Daemon M V} {e : Event V}
    (hsw : Consistent d.data.audioPaths d.data.audioPathSwitch)
    (hnamed : d.data.audioPaths.lookupPlayer "" = none) (hin : InStep d) (h : d.Informed)
    (hstep : Steps d e d') : d'.Informed ↔ PlayerStarts d e := by
  have hother : (∀ object sourceId data outcomes,
      e ≠ .requestSource object sourceId data outcomes) → PlayerStarts d e :=
    fun hne object sourceId data outcomes he => absurd he (hne _ _ _ _)
  cases hstep with
  | answered hpassive =>
      refine iff_of_true (h.silent [] (by simp) (by simp) rfl) (hother ?_)
      rintro object sourceId data outcomes rfl
      exact hpassive
  | creating hcreation =>
      refine iff_of_true h (hother ?_)
      rintro object sourceId data outcomes rfl
      simp [Event.creation] at hcreation
  | noCreation => exact iff_of_true h (hother (by simp))
  | playerRegistered =>
      refine iff_of_true (h.silent _ (signals_playerRegistered _ _ _ _) ?_ rfl) (hother (by simp))
      intro signal hmem
      rcases List.mem_cons.mp hmem with rfl | hmem
      · rfl
      · obtain ⟨source, -, rfl⟩ := List.mem_map.mp hmem
        rfl
  | sourceRegistered =>
      refine iff_of_true (h.silent _ (signals_sourceRegistered _ _ _ _) ?_ rfl) (hother (by simp))
      intro signal hmem
      split at hmem
      · rw [List.mem_singleton.mp hmem]
        rfl
      · simp at hmem
  | requested _ ha =>
      have hiff := view_requested_iff h hsw hnamed ha
      rw [Informed, signals_requested, switch_requested, next_log, hiff]
      constructor
      · rintro hstarts _ _ _ _ ⟨rfl, rfl, rfl, rfl⟩
        exact hstarts
      · exact fun hstarts => hstarts _ _ _ _ rfl
  | released _ hr =>
      have hview := view_released h hr
      refine iff_of_true ?_ (hother (by simp))
      rw [Informed, signals_released, switch_released]
      exact hview
  | completed _ _ _ hc =>
      exact iff_of_true (informed_completed h hsw hin.waiting.mpr _ _ _ hc) (hother (by simp))
  | canceled _ _ _ hc =>
      refine iff_of_true (h.silent [] (by simp) (by simp) ?_) (hother (by simp))
      cases hc with
      | nothingPending => rfl
      | canceled hpending =>
          simp [Switch.path, hsw.exclusive.resolve_right hpending]
  | postponed =>
      exact iff_of_true (h.silent [] (by simp) (by simp) rfl) (hother (by simp))

/-- All along a run, a client that only listens knows the current path, if and only if
no request makes a player fail. -/
theorem informed_iff_playerStarts {evs : List (Event V)} {d : Daemon M V}
    (h : (system M V).Run evs d) :
    (system M V).StatesAlong evs Informed ↔ (system M V).StepsAlong evs PlayerStarts := by
  have hinit : (initial : Daemon M V).Informed := rfl
  refine System.statesAlong_iff_stepsAlong hinit ?_ h
  intro d e d' hreach hinformed hstep
  exact informed_step_iff (consistent_of_reachable hreach) (named_of_reachable hreach)
    (inStep_of_reachable hreach) hinformed (steps_of_step hreach hstep)

/-- The client has been told that the player is active and the source is not yet. -/
theorem informed_iff_playerStarts_deferred :
    (system (Option Bool) Unit).StatesAlong deferralEvents Informed := by
  obtain ⟨d, hrun, -⟩ := exists_deferred
  refine (informed_iff_playerStarts hrun).mpr (System.stepsAlong_of_forall ?_)
  rintro d e hmem object sourceId data outcomes rfl - source player - -
  simp [deferralEvents] at hmem
  rw [hmem.2.2.2]

/-- The player fails: the client takes it for the current player, but there is none. -/
theorem not_always_informed :
    ¬ ∀ (evs : List (Event Unit)) (d : Daemon (Option Bool) Unit),
      (system (Option Bool) Unit).Run evs d →
        (system (Option Bool) Unit).StatesAlong evs Informed := by
  intro hall
  have hexec : ((system (Option Bool) Unit).exec (system (Option Bool) Unit).init
      (deferralEvents.take 4 ++
        [.requestSource 0 "source" none fun method => method != .activate])).map (fun d =>
          (view (signals d.log), d.data.audioPathSwitch.path)) =
      some (("", "player"), ("", "")) := by decide +kernel
  obtain ⟨d, hrun, hseen⟩ := System.exists_run_of_exec hexec
  obtain ⟨hview, hpath⟩ := Prod.mk.inj hseen
  have hinformed := (hall _ d hrun).last hrun
  rw [Informed, hview, hpath] at hinformed
  exact absurd hinformed (by decide)

end Daemon

end TapSwitch
