import TapSwitch.AudioPathSwitch

set_option autoImplicit false

/-!
# What the operations on the switch can do

For a switch that is consistent with the registry, this file lists every way each
operation can end: its result, the switch it leaves, and exactly the calls it has
made.  Everything proved about the switch afterwards is a case analysis over these
lists; the definitions in `AudioPathSwitch` are not unfolded again.

An operation can still crash, but only on a component without D-Bus proxy; the
calls made up to that point are listed as well.
-/

namespace TapSwitch

open Library

variable {V : Type}

/-- Did the request succeed, now or for later? -/
def ActivateResult.isOk : ActivateResult → Bool
  | .errorSourceUnknown | .errorSourceFailed | .errorPlayerUnknown | .errorPlayerFailed =>
      false
  | _ => true

/-- The switch agrees with itself and with the registry. -/
structure Consistent (paths : Paths) (sw : Switch V) : Prop where
  /-- There is no current source while an activation is pending. -/
  exclusive : sw.currentSourceId = "" ∨ sw.pending.sourceId = ""
  /-- The current source is on a complete path to the current player. -/
  current : sw.currentSourceId ≠ "" → ∃ source player,
    paths.lookupPath sw.currentSourceId = (some source, some player) ∧
      player.id = sw.currentPlayerId
  /-- So is the pending source. -/
  pending : sw.pending.sourceId ≠ "" → ∃ source player,
    paths.lookupPath sw.pending.sourceId = (some source, some player) ∧
      player.id = sw.currentPlayerId
  /-- The current player is registered. -/
  player : sw.currentPlayerId ≠ "" →
    ∃ player, paths.lookupPlayer sw.currentPlayerId = some player
  /-- Nothing is left over from an activation that is not pending anymore. -/
  settled : sw.pending.sourceId = "" → sw.pending = {}
  /-- Phase one of a pending activation has succeeded. -/
  phaseOne : sw.pending.sourceId ≠ "" →
    sw.pending.phaseOneResult = .okPlayerSameSourceDeferred ∨
      sw.pending.phaseOneResult = .okPlayerSwitchedSourceDeferred

/-- A fresh switch is consistent with any registry. -/
theorem Consistent.initial (paths : Paths) : Consistent paths ({} : Switch V) where
  exclusive := .inl rfl
  current h := absurd rfl h
  pending h := absurd rfl h
  player h := absurd rfl h
  settled _ := rfl
  phaseOne h := absurd rfl h

section

variable (outcomes : Outcomes) (paths : Paths) (sw : Switch V) (data : GVariantWrapper V)

/-! ## The helpers -/

/-- What `deselect_source()` returns and sends when it does not crash. -/
inductive Deselects : DeselectedAudioSourceResult → List (BusEntry V) → Prop where
  | nothing : sw.currentSourceId = "" → sw.pending.sourceId = "" → Deselects .none []
  | active {source : Source} {proxy : Proxy} :
      sw.currentSourceId ≠ "" →
      paths.lookupSource sw.currentSourceId = some source →
      source.dbusProxy = some proxy →
      Deselects .deselectedActive
        [.called ⟨.deselected, proxy, sw.currentSourceId, data⟩ (outcomes .deselected)]
  | pending {source : Source} {proxy : Proxy} :
      sw.currentSourceId = "" → sw.pending.sourceId ≠ "" →
      paths.lookupSource sw.pending.sourceId = some source →
      source.dbusProxy = some proxy →
      Deselects .deselectedPending
        [.called ⟨.deselected, proxy, sw.pending.sourceId, data⟩ (outcomes .deselected)]

/-- What `deactivate_player()` sends when it does not crash. -/
inductive Deactivates (playerId : String) : List (BusEntry V) → Prop where
  | nothing : playerId = "" → Deactivates playerId []
  | player {player : Player} {proxy : Proxy} :
      playerId ≠ "" → paths.lookupPlayer playerId = some player →
      player.dbusProxy = some proxy →
      Deactivates playerId
        [.called ⟨.deactivate, proxy, player.id, data⟩ (outcomes .deactivate)]

/-- The source that `deselect_source()` would deselect has no proxy. -/
def HeldProxyMissing : Prop :=
  ∃ source, source.dbusProxy = none ∧
    (sw.currentSourceId ≠ "" ∧ paths.lookupSource sw.currentSourceId = some source ∨
      sw.currentSourceId = "" ∧ sw.pending.sourceId ≠ "" ∧
        paths.lookupSource sw.pending.sourceId = some source)

/-- The player that `deactivate_player()` would deactivate has no proxy. -/
def PlayerProxyMissing (playerId : String) : Prop :=
  ∃ player, player.dbusProxy = none ∧ playerId ≠ "" ∧
    paths.lookupPlayer playerId = some player

/-- The switch with neither a current nor a pending source. -/
def Switch.deselected (sw : Switch V) : Switch V := { currentPlayerId := sw.currentPlayerId }

variable {outcomes paths sw data}

theorem Switch.deselected_of_idle (h : Consistent paths sw)
    (hcurrent : sw.currentSourceId = "") (hpending : sw.pending.sourceId = "") :
    sw.deselected = sw := by
  have hcleared := h.settled hpending
  cases sw
  simp_all [Switch.deselected]

theorem lookupSource_of_path {k playerId : String}
    (h : ∃ source player, paths.lookupPath k = (some source, some player) ∧
      player.id = playerId) :
    ∃ source, paths.lookupSource k = some source := by
  obtain ⟨source, player, hpath, -⟩ := h
  exact ⟨source, (Paths.lookupPath_eq_some.mp hpath).1⟩

theorem Deselects.run (h : Consistent paths sw) {d : DeselectedAudioSourceResult}
    {es : List (BusEntry V)} (hd : Deselects outcomes paths sw data d es)
    (log : List (BusEntry V)) :
    (deselectSource outcomes paths data).run ⟨sw, log⟩ =
      .ok d ⟨sw.deselected, log ++ es⟩ := by
  cases hd with
  | nothing hcurrent hpending =>
      rw [Switch.deselected_of_idle h hcurrent hpending]
      simp [deselectSource, msgBugIf, hcurrent, hpending]
  | active hcurrent hsource hproxy =>
      have hpending : sw.pending.sourceId = "" := h.exclusive.resolve_left hcurrent
      simp [deselectSource, msgBugIf, hcurrent, hpending, hsource, hproxy,
        Source.getDbusProxy, Switch.deselected]
  | pending hcurrent hpending hsource hproxy =>
      simp [deselectSource, msgBugIf, hcurrent, hpending, hsource, hproxy,
        Source.getDbusProxy, Switch.deselected]

theorem deselectSource_run (outcomes : Outcomes) (data : GVariantWrapper V)
    (h : Consistent paths sw) (log : List (BusEntry V)) :
    (∃ d es, Deselects outcomes paths sw data d es ∧
      (deselectSource outcomes paths data).run ⟨sw, log⟩ =
        .ok d ⟨sw.deselected, log ++ es⟩) ∨
    (HeldProxyMissing paths sw ∧
      (deselectSource outcomes paths data).run ⟨sw, log⟩ = .error .nullProxy ⟨sw, log⟩) := by
  have listed : ∀ {d es}, Deselects outcomes paths sw data d es →
      ∃ d es, Deselects outcomes paths sw data d es ∧
        (deselectSource outcomes paths data).run ⟨sw, log⟩ =
          .ok d ⟨sw.deselected, log ++ es⟩ :=
    fun hd => ⟨_, _, hd, hd.run h log⟩
  by_cases hcurrent : sw.currentSourceId = ""
  · by_cases hpending : sw.pending.sourceId = ""
    · exact .inl (listed (.nothing hcurrent hpending))
    · obtain ⟨source, hsource⟩ := lookupSource_of_path (h.pending hpending)
      cases hproxy : source.dbusProxy with
      | none =>
          refine .inr ⟨⟨source, hproxy, .inr ⟨hcurrent, hpending, hsource⟩⟩, ?_⟩
          simp [deselectSource, msgBugIf, hcurrent, hpending, hsource, hproxy,
            Source.getDbusProxy]
      | some proxy => exact .inl (listed (.pending hcurrent hpending hsource hproxy))
  · have hpending : sw.pending.sourceId = "" := h.exclusive.resolve_left hcurrent
    obtain ⟨source, hsource⟩ := lookupSource_of_path (h.current hcurrent)
    cases hproxy : source.dbusProxy with
    | none =>
        refine .inr ⟨⟨source, hproxy, .inl ⟨hcurrent, hsource⟩⟩, ?_⟩
        simp [deselectSource, msgBugIf, hcurrent, hpending, hsource, hproxy,
          Source.getDbusProxy]
    | some proxy => exact .inl (listed (.active hcurrent hsource hproxy))

theorem Deactivates.run {es : List (BusEntry V)}
    (hf : Deactivates outcomes paths data sw.currentPlayerId es) (log : List (BusEntry V)) :
    (deactivatePlayer outcomes paths data).run ⟨sw, log⟩ =
      .ok () ⟨{ sw with currentPlayerId := "" }, log ++ es⟩ := by
  cases hf with
  | nothing hplayer =>
      cases sw
      simp_all [deactivatePlayer]
  | player hplayer hlookup hproxy =>
      simp [deactivatePlayer, hplayer, hlookup, hproxy, Player.getDbusProxy]

theorem deactivatePlayer_run (outcomes : Outcomes) (sw : Switch V)
    (data : GVariantWrapper V)
    (h : sw.currentPlayerId ≠ "" →
      ∃ player, paths.lookupPlayer sw.currentPlayerId = some player)
    (log : List (BusEntry V)) :
    (∃ es, Deactivates outcomes paths data sw.currentPlayerId es ∧
      (deactivatePlayer outcomes paths data).run ⟨sw, log⟩ =
        .ok () ⟨{ sw with currentPlayerId := "" }, log ++ es⟩) ∨
    (PlayerProxyMissing paths sw.currentPlayerId ∧
      (deactivatePlayer outcomes paths data).run ⟨sw, log⟩ =
        .error .nullProxy ⟨sw, log⟩) := by
  by_cases hplayer : sw.currentPlayerId = ""
  · have hf := @Deactivates.nothing V outcomes paths data _ hplayer
    exact .inl ⟨_, hf, hf.run log⟩
  · obtain ⟨player, hlookup⟩ := h hplayer
    cases hproxy : player.dbusProxy with
    | none =>
        refine .inr ⟨⟨player, hproxy, hplayer, hlookup⟩, ?_⟩
        simp [deactivatePlayer, hplayer, hlookup, hproxy, Player.getDbusProxy]
    | some proxy =>
        have hf := @Deactivates.player V outcomes paths data _ _ _ hplayer hlookup hproxy
        exact .inl ⟨_, hf, hf.run log⟩

theorem activatePlayer_run {player : Player} {proxy : Proxy}
    (hproxy : player.dbusProxy = some proxy) (scope : Scope V) :
    (activatePlayer outcomes player data).run scope =
      .ok (outcomes .activate)
        { scope with log := scope.log ++
            [.called ⟨.activate, proxy, player.id, data⟩ (outcomes .activate)] } := by
  simp [activatePlayer, Player.getDbusProxy, hproxy]

theorem activatePlayer_crash {player : Player} (hproxy : player.dbusProxy = none)
    (scope : Scope V) :
    (activatePlayer outcomes player data).run scope = .error .nullProxy scope := by
  simp [activatePlayer, Player.getDbusProxy, hproxy]

/-- The method that selects a source, now or for later. -/
def selectMethod (now : Bool) : Method := if now then .selected else .selectedOnHold

theorem selectSource_run {source : Source} {proxy : Proxy} (now : Bool)
    (hproxy : source.dbusProxy = some proxy) (scope : Scope V) :
    (selectSource outcomes source now data).run scope =
      .ok (outcomes (selectMethod now))
        { scope with log := scope.log ++
            [.called ⟨selectMethod now, proxy, source.id, data⟩
              (outcomes (selectMethod now))] } := by
  cases now <;> simp [selectSource, Source.getDbusProxy, hproxy, selectMethod]

theorem selectSource_crash {source : Source} (now : Bool)
    (hproxy : source.dbusProxy = none) (scope : Scope V) :
    (selectSource outcomes source now data).run scope = .error .nullProxy scope := by
  simp [selectSource, Source.getDbusProxy, hproxy]

end

/-! ## The operations -/

section

variable (outcomes : Outcomes) (paths : Paths) (sw : Switch V) (data : GVariantWrapper V)

/-- The request is for a source that is neither current nor pending. -/
structure Fresh (sw : Switch V) (sourceId : String) : Prop where
  nonempty : sourceId ≠ ""
  not_current : sourceId ≠ sw.currentSourceId
  not_pending : sourceId ≠ sw.pending.sourceId

/-- Why a request is rejected, and with which result. -/
inductive Rejects (sourceId : String) : ActivateResult → Prop where
  | empty : sourceId = "" → Rejects sourceId .errorSourceUnknown
  | sourceUnknown : Fresh sw sourceId → paths.lookupSource sourceId = none →
      Rejects sourceId .errorSourceUnknown
  | playerUnknown {source : Source} : Fresh sw sourceId →
      paths.lookupSource sourceId = some source →
      paths.lookupPlayer source.playerId = none →
      Rejects sourceId .errorPlayerUnknown

/-- What switching over to `player` sends when it succeeds. -/
inductive SwitchesTo (player : Player) : List (BusEntry V) → Prop where
  | same : player.id = sw.currentPlayerId → SwitchesTo player []
  | changed {es : List (BusEntry V)} {proxy : Proxy} :
      player.id ≠ sw.currentPlayerId →
      Deactivates outcomes paths data sw.currentPlayerId es →
      player.dbusProxy = some proxy → outcomes .activate = true →
      SwitchesTo player (es ++ [.called ⟨.activate, proxy, player.id, data⟩ true])

/-- The result of a successful switch to the player `playerId`. -/
def activationResult (sw : Switch V) (playerId : String) (now : Bool) : ActivateResult :=
  if playerId ≠ sw.currentPlayerId then
    if now then .okPlayerSwitched else .okPlayerSwitchedSourceDeferred
  else
    if now then .okPlayerSame else .okPlayerSameSourceDeferred

/-- The switch after `source` of `playerId` has been selected, or put on hold. -/
def switchedTo (sw : Switch V) (data : GVariantWrapper V) (source : Source)
    (playerId : String) (now : Bool) : Switch V :=
  if now then { currentSourceId := source.id, currentPlayerId := playerId }
  else
    { currentPlayerId := playerId
      pending := ⟨source.id, data, activationResult sw playerId now⟩ }

/-- Every way `activate_source()` ends without crashing: what it returns, the switch
it leaves and what it has sent. -/
inductive Activates (sourceId : String) (now : Bool) :
    Activation → Switch V → List (BusEntry V) → Prop where
  | rejected {result : ActivateResult} : Rejects paths sw sourceId result →
      Activates sourceId now ⟨result, none, droppedPending sw⟩ { sw with pending := {} } []
  | unchanged : sourceId ≠ "" → sourceId = sw.currentSourceId →
      Activates sourceId now ⟨.okUnchanged, some sw.currentPlayerId, .none⟩ sw []
  | alreadyPending : sourceId ≠ "" → sourceId = sw.pending.sourceId →
      Activates sourceId now
        ⟨.okPlayerSwitchedSourceDeferred, some sw.currentPlayerId, .none⟩ sw []
  | playerFailed {source : Source} {player : Player} {proxy : Proxy}
      {d : DeselectedAudioSourceResult} {es fs : List (BusEntry V)} :
      Fresh sw sourceId → paths.lookupPath sourceId = (some source, some player) →
      player.id ≠ sw.currentPlayerId →
      Deselects outcomes paths sw data d es → Deactivates outcomes paths data sw.currentPlayerId fs →
      player.dbusProxy = some proxy → outcomes .activate = false →
      Activates sourceId now ⟨.errorPlayerFailed, some player.id, d⟩ {}
        (es ++ fs ++ [.called ⟨.activate, proxy, player.id, data⟩ false])
  | sourceFailed {source : Source} {player : Player} {proxy : Proxy}
      {d : DeselectedAudioSourceResult} {es fs : List (BusEntry V)} :
      Fresh sw sourceId → paths.lookupPath sourceId = (some source, some player) →
      Deselects outcomes paths sw data d es → SwitchesTo outcomes paths sw data player fs →
      source.dbusProxy = some proxy → outcomes (selectMethod now) = false →
      Activates sourceId now ⟨.errorSourceFailed, some player.id, d⟩
        { currentPlayerId := player.id }
        (es ++ fs ++ [.called ⟨selectMethod now, proxy, source.id, data⟩ false])
  | switched {source : Source} {player : Player} {proxy : Proxy}
      {d : DeselectedAudioSourceResult} {es fs : List (BusEntry V)} :
      Fresh sw sourceId → paths.lookupPath sourceId = (some source, some player) →
      Deselects outcomes paths sw data d es → SwitchesTo outcomes paths sw data player fs →
      source.dbusProxy = some proxy → outcomes (selectMethod now) = true →
      Activates sourceId now ⟨activationResult sw player.id now, some player.id, d⟩
        (switchedTo sw data source player.id now)
        (es ++ fs ++ [.called ⟨selectMethod now, proxy, source.id, data⟩ true])

/-- Every way `activate_source()` crashes: what it has sent before. -/
inductive ActivationCrashes (sourceId : String) : List (BusEntry V) → Prop where
  | deselecting : HeldProxyMissing paths sw → ActivationCrashes sourceId []
  | deactivating {d : DeselectedAudioSourceResult} {es : List (BusEntry V)} :
      Deselects outcomes paths sw data d es → PlayerProxyMissing paths sw.currentPlayerId →
      ActivationCrashes sourceId es
  | activating {source : Source} {player : Player}
      {d : DeselectedAudioSourceResult} {es fs : List (BusEntry V)} :
      paths.lookupPath sourceId = (some source, some player) →
      Deselects outcomes paths sw data d es → Deactivates outcomes paths data sw.currentPlayerId fs →
      player.dbusProxy = none → ActivationCrashes sourceId (es ++ fs)
  | selecting {source : Source} {player : Player}
      {d : DeselectedAudioSourceResult} {es fs : List (BusEntry V)} :
      paths.lookupPath sourceId = (some source, some player) →
      Deselects outcomes paths sw data d es → SwitchesTo outcomes paths sw data player fs →
      source.dbusProxy = none → ActivationCrashes sourceId (es ++ fs)

variable {outcomes paths sw data}

theorem switchedTo_currentPlayerId (source : Source) (playerId : String) (now : Bool) :
    (switchedTo sw data source playerId now).currentPlayerId = playerId := by
  cases now <;> rfl

/-- Deactivating the current player after the source has been deselected. -/
theorem Deactivates.run_deselected {es : List (BusEntry V)}
    (hf : Deactivates outcomes paths data sw.currentPlayerId es) (log : List (BusEntry V)) :
    (deactivatePlayer outcomes paths data).run ⟨sw.deselected, log⟩ = .ok () ⟨{}, log ++ es⟩ :=
  @Deactivates.run V outcomes paths sw.deselected data es hf log

/-- Rejecting a request. -/
theorem Rejects.run {sourceId : String} {result : ActivateResult}
    (h : Rejects paths sw sourceId result) (outcomes : Outcomes) (data : GVariantWrapper V)
    (now : Bool) (log : List (BusEntry V)) :
    (activateSource outcomes paths sourceId now data).run ⟨sw, log⟩ =
      .ok ⟨result, none, droppedPending sw⟩ ⟨{ sw with pending := {} }, log⟩ := by
  cases h with
  | empty hempty => simp [activateSource, hempty]
  | sourceUnknown hfresh hsource =>
      obtain ⟨hempty, hcurrent, hpending⟩ := hfresh
      simp [activateSource, hempty, hcurrent, hpending, Paths.lookupPath, hsource]
  | playerUnknown hfresh hsource hplayer =>
      obtain ⟨hempty, hcurrent, hpending⟩ := hfresh
      simp [activateSource, hempty, hcurrent, hpending, Paths.lookupPath, hsource, hplayer]

/-- Everything listed really happens. -/
theorem Activates.run (h : Consistent paths sw) {sourceId : String} {now : Bool}
    {a : Activation} {sw' : Switch V} {es : List (BusEntry V)}
    (ha : Activates outcomes paths sw data sourceId now a sw' es) (log : List (BusEntry V)) :
    (activateSource outcomes paths sourceId now data).run ⟨sw, log⟩ =
      .ok a ⟨sw', log ++ es⟩ := by
  have hcurrentPlayer : sw.deselected.currentPlayerId = sw.currentPlayerId := rfl
  cases ha with
  | rejected hrejects =>
      rw [hrejects.run, List.append_nil]
  | unchanged hempty hcurrent =>
      have hnone : sw.pending.sourceId = "" := h.exclusive.resolve_left (hcurrent ▸ hempty)
      simp [activateSource, hempty, ← hcurrent, hnone, msgLogAssert]
  | alreadyPending hempty hpending =>
      have hcurrent : sw.currentSourceId = "" := h.exclusive.resolve_right (hpending ▸ hempty)
      simp [activateSource, hempty, hcurrent, ← hpending]
  | playerFailed hfresh hpath hchanged hd hf hplayer hact =>
      obtain ⟨hempty, hcurrent, hpending⟩ := hfresh
      simp [activateSource, hempty, hcurrent, hpending, hpath, msgLogAssert, hd.run h,
        hcurrentPlayer, hchanged, hf.run_deselected, activatePlayer_run hplayer, hact]
  | sourceFailed hfresh hpath hd hs hproxy hok =>
      obtain ⟨hempty, hcurrent, hpending⟩ := hfresh
      cases hs with
      | same hsame =>
          simp [activateSource, hempty, hcurrent, hpending, hpath, msgLogAssert, hd.run h,
            hsame, Switch.deselected, selectSource_run _ hproxy, hok]
      | changed hchanged hf hplayer hact =>
          simp [activateSource, hempty, hcurrent, hpending, hpath, msgLogAssert, hd.run h,
            hcurrentPlayer, hchanged, hf.run_deselected, activatePlayer_run hplayer, hact,
            selectSource_run _ hproxy, hok]
  | switched hfresh hpath hd hs hproxy hok =>
      obtain ⟨hempty, hcurrent, hpending⟩ := hfresh
      cases hs with
      | same hsame =>
          cases now <;>
            simp [activateSource, hempty, hcurrent, hpending, hpath, msgLogAssert, hd.run h,
              hsame, Switch.deselected, selectSource_run _ hproxy, hok, switchedTo,
              activationResult, PendingActivation.set]
      | changed hchanged hf hplayer hact =>
          cases now <;>
            simp [activateSource, hempty, hcurrent, hpending, hpath, msgLogAssert, hd.run h,
              hcurrentPlayer, hchanged, hf.run_deselected, activatePlayer_run hplayer, hact,
              selectSource_run _ hproxy, hok, switchedTo, activationResult,
              PendingActivation.set]

/-- The goal of the lemmas below: `activate_source()` ends in one of the listed ways. -/
def ActivationListed (outcomes : Outcomes) (paths : Paths) (sw : Switch V)
    (data : GVariantWrapper V) (sourceId : String) (now : Bool)
    (log : List (BusEntry V)) : Prop :=
  (∃ a sw' es, Activates outcomes paths sw data sourceId now a sw' es ∧
    (activateSource outcomes paths sourceId now data).run ⟨sw, log⟩ =
      .ok a ⟨sw', log ++ es⟩) ∨
  (∃ sw' es, ActivationCrashes outcomes paths sw data sourceId es ∧
    (activateSource outcomes paths sourceId now data).run ⟨sw, log⟩ =
      .error .nullProxy ⟨sw', log ++ es⟩)

theorem Activates.listed (h : Consistent paths sw) {sourceId : String} {now : Bool}
    {a : Activation} {sw' : Switch V} {es : List (BusEntry V)}
    (ha : Activates outcomes paths sw data sourceId now a sw' es) (log : List (BusEntry V)) :
    ActivationListed outcomes paths sw data sourceId now log :=
  .inl ⟨a, sw', es, ha, ha.run h log⟩

section Path

variable {sourceId : String} {source : Source} {player : Player}
  {d : DeselectedAudioSourceResult} {es : List (BusEntry V)}

/-- The player stays: only the source is exchanged. -/
theorem activateSource_same (h : Consistent paths sw) (hfresh : Fresh sw sourceId)
    (hpath : paths.lookupPath sourceId = (some source, some player))
    (hd : Deselects outcomes paths sw data d es)
    (hsame : player.id = sw.currentPlayerId) (now : Bool) (log : List (BusEntry V)) :
    ActivationListed outcomes paths sw data sourceId now log := by
  have ⟨hempty, hcurrent, hpending⟩ := hfresh
  have hs : SwitchesTo outcomes paths sw data player [] := .same hsame
  cases hproxy : source.dbusProxy with
  | none =>
      refine .inr ⟨sw.deselected, es ++ [], .selecting hpath hd hs hproxy, ?_⟩
      simp [activateSource, hempty, hcurrent, hpending, hpath, msgLogAssert, hd.run h,
        hsame, Switch.deselected, selectSource_crash _ hproxy]
  | some proxy =>
      cases hok : outcomes (selectMethod now) with
      | false => exact Activates.listed h (.sourceFailed hfresh hpath hd hs hproxy hok) log
      | true => exact Activates.listed h (.switched hfresh hpath hd hs hproxy hok) log

/-- The player changes, and the current one can be deactivated. -/
theorem activateSource_changed {fs : List (BusEntry V)} (h : Consistent paths sw)
    (hfresh : Fresh sw sourceId)
    (hpath : paths.lookupPath sourceId = (some source, some player))
    (hd : Deselects outcomes paths sw data d es)
    (hchanged : player.id ≠ sw.currentPlayerId)
    (hf : Deactivates outcomes paths data sw.currentPlayerId fs)
    (now : Bool) (log : List (BusEntry V)) :
    ActivationListed outcomes paths sw data sourceId now log := by
  have ⟨hempty, hcurrent, hpending⟩ := hfresh
  have hcurrentPlayer : sw.deselected.currentPlayerId = sw.currentPlayerId := rfl
  cases hplayer : player.dbusProxy with
  | none =>
      refine .inr ⟨{}, es ++ fs, .activating hpath hd hf hplayer, ?_⟩
      simp [activateSource, hempty, hcurrent, hpending, hpath, msgLogAssert, hd.run h,
        hcurrentPlayer, hchanged, hf.run_deselected, activatePlayer_crash hplayer]
  | some proxy =>
      cases hact : outcomes .activate with
      | false =>
          exact Activates.listed h (.playerFailed hfresh hpath hchanged hd hf hplayer hact) log
      | true =>
          have hs := SwitchesTo.changed hchanged hf hplayer hact
          cases hproxy : source.dbusProxy with
          | none =>
              refine .inr ⟨{ currentPlayerId := player.id }, _,
                .selecting hpath hd hs hproxy, ?_⟩
              simp [activateSource, hempty, hcurrent, hpending, hpath, msgLogAssert,
                hd.run h, hcurrentPlayer, hchanged, hf.run_deselected,
                activatePlayer_run hplayer, hact, selectSource_crash _ hproxy]
          | some proxy' =>
              cases hok : outcomes (selectMethod now) with
              | false =>
                  exact Activates.listed h (.sourceFailed hfresh hpath hd hs hproxy hok) log
              | true => exact Activates.listed h (.switched hfresh hpath hd hs hproxy hok) log

/-- Past its early returns, `activate_source()` is one of the two cases above unless
it crashes before it has looked at the new player. -/
theorem activateSource_path (outcomes : Outcomes) (data : GVariantWrapper V)
    (h : Consistent paths sw) (hfresh : Fresh sw sourceId)
    (hpath : paths.lookupPath sourceId = (some source, some player)) (now : Bool)
    (log : List (BusEntry V)) :
    ActivationListed outcomes paths sw data sourceId now log := by
  have ⟨hempty, hcurrent, hpending⟩ := hfresh
  rcases deselectSource_run outcomes data h log with
    ⟨d, es, hd, hrun⟩ | ⟨hmissing, hrun⟩
  · by_cases hsame : player.id = sw.currentPlayerId
    · exact activateSource_same h hfresh hpath hd hsame now log
    · have hcurrentPlayer : sw.deselected.currentPlayerId = sw.currentPlayerId := rfl
      rcases deactivatePlayer_run outcomes sw.deselected data h.player (log ++ es) with
        ⟨fs, hf, -⟩ | ⟨hmissing, hdeact⟩
      · exact activateSource_changed h hfresh hpath hd hsame hf now log
      · refine .inr ⟨sw.deselected, es, .deactivating hd hmissing, ?_⟩
        simp [activateSource, hempty, hcurrent, hpending, hpath, msgLogAssert, hrun,
          hcurrentPlayer, hsame, hdeact]
  · refine .inr ⟨sw, [], .deselecting hmissing, ?_⟩
    simp [activateSource, hempty, hcurrent, hpending, hpath, msgLogAssert, hrun]

end Path

/-- `activate_source()` ends in one of the listed ways. -/
theorem activateSource_run (outcomes : Outcomes) (data : GVariantWrapper V)
    (h : Consistent paths sw) (sourceId : String) (now : Bool)
    (log : List (BusEntry V)) :
    ActivationListed outcomes paths sw data sourceId now log := by
  by_cases hempty : sourceId = ""
  · exact Activates.listed h (.rejected (.empty hempty)) log
  by_cases hcurrent : sourceId = sw.currentSourceId
  · exact Activates.listed h (.unchanged hempty hcurrent) log
  by_cases hpending : sourceId = sw.pending.sourceId
  · exact Activates.listed h (.alreadyPending hempty hpending) log
  have hfresh : Fresh sw sourceId := ⟨hempty, hcurrent, hpending⟩
  cases hsource : paths.lookupSource sourceId with
  | none => exact Activates.listed h (.rejected (.sourceUnknown hfresh hsource)) log
  | some source =>
      cases hplayer : paths.lookupPlayer source.playerId with
      | none =>
          exact Activates.listed h (.rejected (.playerUnknown hfresh hsource hplayer)) log
      | some player =>
          exact activateSource_path outcomes data h hfresh
            (Paths.lookupPath_eq_some.mpr ⟨hsource, hplayer⟩) now log

end

section

variable (outcomes : Outcomes) (paths : Paths) (sw : Switch V)

/-- Every way `complete_pending_source_activation()` ends without crashing. -/
inductive Completes :
    ActivateResult → Switch V → List (BusEntry V) → Prop where
  | nothingPending : sw.pending.sourceId = "" → Completes .errorSourceUnknown sw []
  | sourceFailed {source : Source} {proxy : Proxy} :
      sw.pending.sourceId ≠ "" → paths.lookupSource sw.pending.sourceId = some source →
      source.dbusProxy = some proxy → outcomes .selected = false →
      Completes .errorSourceFailed { currentPlayerId := sw.currentPlayerId }
        [.called ⟨.selected, proxy, sw.pending.sourceId, sw.pending.requestData⟩ false]
  | selected {source : Source} {proxy : Proxy} :
      sw.pending.sourceId ≠ "" → paths.lookupSource sw.pending.sourceId = some source →
      source.dbusProxy = some proxy → outcomes .selected = true →
      Completes sw.pending.phaseOneResult
        { currentSourceId := sw.pending.sourceId, currentPlayerId := sw.currentPlayerId }
        [.called ⟨.selected, proxy, sw.pending.sourceId, sw.pending.requestData⟩ true]

/-- Every way `cancel_pending_source_activation()` ends without crashing. -/
inductive Cancels :
    ActivateResult → Switch V → List (BusEntry V) → Prop where
  | nothingPending : sw.pending.sourceId = "" → Cancels .errorSourceUnknown sw []
  | canceled {source : Source} {proxy : Proxy} :
      sw.pending.sourceId ≠ "" → paths.lookupSource sw.pending.sourceId = some source →
      source.dbusProxy = some proxy →
      Cancels (if outcomes .deselected then .okPlayerSwitched else .errorSourceFailed)
        { currentPlayerId := sw.currentPlayerId }
        [.called ⟨.deselected, proxy, sw.pending.sourceId, sw.pending.requestData⟩
          (outcomes .deselected)]

/-- The proxy of the pending source is missing. -/
def PendingProxyMissing : Prop :=
  sw.pending.sourceId ≠ "" ∧ ∃ source, source.dbusProxy = none ∧
    paths.lookupSource sw.pending.sourceId = some source

/-- What `complete_pending_source_activation()` leaves in its output parameter, if
there is one. -/
def takenSourceId (dest : Option String) : Option String :=
  if sw.pending.sourceId = "" then dest else dest.map fun _ => sw.pending.sourceId

variable {outcomes paths sw}

/-- `complete_pending_source_activation()` ends in one of the listed ways, or it
crashes on the pending source before it has sent anything. -/
theorem completePendingSourceActivation_run (outcomes : Outcomes)
    (h : Consistent paths sw) (dest : Option String) (log : List (BusEntry V)) :
    (∃ r sw' es, Completes outcomes paths sw r sw' es ∧
      (completePendingSourceActivation outcomes paths dest).run ⟨sw, log⟩ =
        .ok (r, takenSourceId sw dest) ⟨sw', log ++ es⟩) ∨
    (PendingProxyMissing paths sw ∧
      (completePendingSourceActivation outcomes paths dest).run ⟨sw, log⟩ =
        .error .nullProxy ⟨sw.deselected, log⟩) := by
  by_cases hpending : sw.pending.sourceId = ""
  · refine .inl ⟨_, _, _, .nothingPending hpending, ?_⟩
    simp [completePendingSourceActivation, hpending, takenSourceId]
  obtain ⟨source, player, hpath, -⟩ := h.pending hpending
  obtain ⟨hsource, -⟩ := Paths.lookupPath_eq_some.mp hpath
  have hid : source.id = sw.pending.sourceId := Paths.id_of_lookupSource hsource
  have hcurrent : sw.currentSourceId = "" := h.exclusive.resolve_right hpending
  have hdeselected : { sw with pending := {} } = sw.deselected := by
    simp [Switch.deselected, hcurrent]
  have hcleared : ∀ log, (modifySwitch fun sw : Switch V => { sw with pending := {} }).run
      ⟨sw, log⟩ = .ok () ⟨sw.deselected, log⟩ := by
    intro log
    rw [modifySwitch_run, hdeselected]
  cases hproxy : source.dbusProxy with
  | none =>
      refine .inr ⟨⟨hpending, source, hproxy, hsource⟩, ?_⟩
      cases dest <;>
        simp [completePendingSourceActivation, hpending, hpath,
          PendingActivation.takeAudioSourceId, PendingActivation.clear, hdeselected,
          selectSource_crash _ hproxy]
  | some proxy =>
      cases hok : outcomes .selected with
      | false =>
          refine .inl ⟨_, _, _, .sourceFailed hpending hsource hproxy hok, ?_⟩
          cases dest <;>
            simp [completePendingSourceActivation, hpending, hpath,
              PendingActivation.takeAudioSourceId, PendingActivation.clear, hdeselected,
              selectSource_run _ hproxy, selectMethod, hok, takenSourceId,
              Switch.deselected, hid]
      | true =>
          refine .inl ⟨_, _, _, .selected hpending hsource hproxy hok, ?_⟩
          cases dest <;>
            simp [completePendingSourceActivation, hpending, hpath,
              PendingActivation.takeAudioSourceId, PendingActivation.clear, hdeselected,
              selectSource_run _ hproxy, selectMethod, hok, takenSourceId,
              Switch.deselected, hid]

/-- `cancel_pending_source_activation()` ends in one of the listed ways, or it
crashes on the pending source before it has sent anything. -/
theorem cancelPendingSourceActivation_run (outcomes : Outcomes)
    (h : Consistent paths sw) (dest : String) (log : List (BusEntry V)) :
    (∃ r sw' es, Cancels outcomes paths sw r sw' es ∧
      (cancelPendingSourceActivation outcomes paths dest).run ⟨sw, log⟩ =
        .ok (r, if sw.pending.sourceId = "" then dest else sw.pending.sourceId)
          ⟨sw', log ++ es⟩) ∨
    (PendingProxyMissing paths sw ∧
      (cancelPendingSourceActivation outcomes paths dest).run ⟨sw, log⟩ =
        .error .nullProxy ⟨sw.deselected, log⟩) := by
  by_cases hpending : sw.pending.sourceId = ""
  · refine .inl ⟨_, _, _, .nothingPending hpending, ?_⟩
    simp [cancelPendingSourceActivation, hpending]
  obtain ⟨source, hsource⟩ := lookupSource_of_path (h.pending hpending)
  have hcurrent : sw.currentSourceId = "" := h.exclusive.resolve_right hpending
  cases hproxy : source.dbusProxy with
  | none =>
      refine .inr ⟨⟨hpending, source, hproxy, hsource⟩, ?_⟩
      simp [cancelPendingSourceActivation, hpending, hsource,
        PendingActivation.takeAudioSourceId, PendingActivation.clear, hcurrent,
        Switch.deselected, Source.getDbusProxy, hproxy]
  | some proxy =>
      refine .inl ⟨_, _, _, .canceled hpending hsource hproxy, ?_⟩
      cases hok : outcomes .deselected <;>
        simp [cancelPendingSourceActivation, hpending, hsource,
          PendingActivation.takeAudioSourceId, PendingActivation.clear,
          Source.getDbusProxy, hproxy, hok]

end

section

variable (outcomes : Outcomes) (paths : Paths) (sw : Switch V) (data : GVariantWrapper V)

/-- The result code of `release_path()`. -/
def releaseResult (killPlayer : Bool) : ReleaseResult :=
  if sw.currentSourceId ≠ "" then
    if killPlayer ∧ sw.currentPlayerId ≠ "" then .completeRelease else .sourceDeselected
  else
    if killPlayer ∧ sw.currentPlayerId ≠ "" then .playerDeactivated else .unchanged

/-- Every way `release_path()` ends without crashing. -/
inductive Releases : Bool → Release → Switch V → List (BusEntry V) → Prop where
  | kept {d : DeselectedAudioSourceResult} {es : List (BusEntry V)} :
      Deselects outcomes paths sw data d es →
      Releases false
        ⟨releaseResult sw false,
          if sw.currentPlayerId = "" then none else some sw.currentPlayerId, d⟩
        sw.deselected es
  | killed {d : DeselectedAudioSourceResult} {es fs : List (BusEntry V)} :
      Deselects outcomes paths sw data d es →
      Deactivates outcomes paths data sw.currentPlayerId fs →
      Releases true ⟨releaseResult sw true, none, d⟩ {} (es ++ fs)

/-- Every way `release_path()` crashes: what it has sent before. -/
inductive ReleaseCrashes : List (BusEntry V) → Prop where
  | deselecting : HeldProxyMissing paths sw → ReleaseCrashes []
  | deactivating {d : DeselectedAudioSourceResult} {es : List (BusEntry V)} :
      Deselects outcomes paths sw data d es →
      PlayerProxyMissing paths sw.currentPlayerId → ReleaseCrashes es

variable {outcomes paths sw data}

/-- `release_path()` ends in one of the listed ways. -/
theorem releasePath_run (outcomes : Outcomes) (data : GVariantWrapper V)
    (h : Consistent paths sw) (killPlayer : Bool) (log : List (BusEntry V)) :
    (∃ r sw' es, Releases outcomes paths sw data killPlayer r sw' es ∧
      (releasePath outcomes paths killPlayer data).run ⟨sw, log⟩ =
        .ok r ⟨sw', log ++ es⟩) ∨
    (∃ sw' es, ReleaseCrashes outcomes paths sw data es ∧
      (releasePath outcomes paths killPlayer data).run ⟨sw, log⟩ =
        .error .nullProxy ⟨sw', log ++ es⟩) := by
  have hcurrentPlayer : sw.deselected.currentPlayerId = sw.currentPlayerId := rfl
  rcases deselectSource_run outcomes data h log with
    ⟨d, es, hd, hrun⟩ | ⟨hmissing, hrun⟩
  · cases killPlayer with
    | false =>
        refine .inl ⟨_, _, _, .kept hd, ?_⟩
        simp [releasePath, hrun, hcurrentPlayer, releaseResult]
    | true =>
        by_cases hplayer : sw.currentPlayerId = ""
        · refine .inl ⟨_, _, es ++ [], .killed hd (.nothing hplayer), ?_⟩
          simp [releasePath, hrun, hplayer, releaseResult, Switch.deselected]
        · rcases deactivatePlayer_run outcomes sw.deselected data h.player (log ++ es) with
            ⟨fs, hf, hdeact⟩ | ⟨hmissing, hdeact⟩
          · refine .inl ⟨_, _, _, .killed hd hf, ?_⟩
            have hempty : { sw.deselected with currentPlayerId := "" } = ({} : Switch V) := rfl
            simp [releasePath, hrun, hplayer, hdeact, hempty, releaseResult]
          · refine .inr ⟨sw.deselected, es, .deactivating hd hmissing, ?_⟩
            simp [releasePath, hrun, hplayer, hdeact]
  · refine .inr ⟨sw, [], .deselecting hmissing, ?_⟩
    simp [releasePath, hrun]

end

/-! ## Which calls are made -/

/-- The entry is a call of one of the methods, made with these data. -/
def BusEntry.Sends (methods : List Method) (data : GVariantWrapper V) : BusEntry V → Prop
  | .called call _ => call.method ∈ methods ∧ call.data = data
  | .bug | .assertionFailed => False

/-- The entries are calls of some of the methods, all made with these data. -/
def SendsOnly (methods : List Method) (data : GVariantWrapper V) (es : List (BusEntry V)) :
    Prop :=
  ∀ e ∈ es, e.Sends methods data

section

variable {outcomes : Outcomes} {paths : Paths} {sw sw' : Switch V} {data : GVariantWrapper V}
  {es fs : List (BusEntry V)} {methods more : List Method}

@[simp] theorem sendsOnly_nil : SendsOnly methods data ([] : List (BusEntry V)) := by
  intro e he
  cases he

@[simp] theorem sendsOnly_append :
    SendsOnly methods data (es ++ fs) ↔ SendsOnly methods data es ∧ SendsOnly methods data fs := by
  simp [SendsOnly, or_imp, forall_and]

@[simp] theorem sendsOnly_singleton {call : Call V} {ok : Bool} :
    SendsOnly methods data [.called call ok] ↔ call.method ∈ methods ∧ call.data = data := by
  simp [SendsOnly, BusEntry.Sends]

theorem SendsOnly.mono (h : SendsOnly methods data es) (hsub : methods ⊆ more) :
    SendsOnly more data es := by
  intro e he
  have hsends := h e he
  cases e with
  | called call ok => exact ⟨hsub hsends.1, hsends.2⟩
  | bug | assertionFailed => exact hsends

/-- A method that is not among them has not been called. -/
theorem SendsOnly.not_mem (h : SendsOnly methods data es) {call : Call V} {ok : Bool}
    (hmethod : call.method ∉ methods) : .called call ok ∉ es :=
  fun hmem => hmethod (h _ hmem).1

theorem Deselects.sends {d : DeselectedAudioSourceResult}
    (h : Deselects outcomes paths sw data d es) : SendsOnly [.deselected] data es := by
  cases h <;> simp

theorem Deactivates.sends {playerId : String}
    (h : Deactivates outcomes paths data playerId es) : SendsOnly [.deactivate] data es := by
  cases h <;> simp

theorem SwitchesTo.sends {player : Player}
    (h : SwitchesTo outcomes paths sw data player es) :
    SendsOnly [.deactivate, .activate] data es := by
  cases h with
  | same => simp
  | changed _ hf => simpa using hf.sends.mono (by simp)

/-- What goes out before a source is selected. -/
theorem sends_preparation {player : Player} {d : DeselectedAudioSourceResult}
    (hd : Deselects outcomes paths sw data d es)
    (hs : SwitchesTo outcomes paths sw data player fs) :
    SendsOnly [.deselected, .deactivate, .activate] data (es ++ fs) :=
  sendsOnly_append.mpr ⟨hd.sends.mono (by simp), hs.sends.mono (by simp)⟩

/-- What goes out before a player is activated, or when a path is released. -/
theorem sends_release {playerId : String} {d : DeselectedAudioSourceResult}
    (hd : Deselects outcomes paths sw data d es)
    (hf : Deactivates outcomes paths data playerId fs) :
    SendsOnly [.deselected, .deactivate] data (es ++ fs) :=
  sendsOnly_append.mpr ⟨hd.sends.mono (by simp), hf.sends.mono (by simp)⟩

theorem Activates.sends {sourceId : String} {now : Bool} {a : Activation}
    (h : Activates outcomes paths sw data sourceId now a sw' es) :
    SendsOnly [.deselected, .deactivate, .activate, selectMethod now] data es := by
  cases h with
  | rejected => simp
  | unchanged => simp
  | alreadyPending => simp
  | playerFailed _ _ _ hd hf => simpa using (sends_release hd hf).mono (by simp)
  | sourceFailed _ _ hd hs => simpa using (sends_preparation hd hs).mono (by simp)
  | switched _ _ hd hs => simpa using (sends_preparation hd hs).mono (by simp)

/-- A request that crashes has not selected anything. -/
theorem ActivationCrashes.sends {sourceId : String}
    (h : ActivationCrashes outcomes paths sw data sourceId es) :
    SendsOnly [.deselected, .deactivate, .activate] data es := by
  cases h with
  | deselecting => simp
  | deactivating hd => exact hd.sends.mono (by simp)
  | activating _ hd hf => exact (sends_release hd hf).mono (by simp)
  | selecting _ hd hs => exact sends_preparation hd hs

theorem Completes.sends {r : ActivateResult} (h : Completes outcomes paths sw r sw' es) :
    SendsOnly [.selected] sw.pending.requestData es := by
  cases h <;> simp

theorem Cancels.sends {r : ActivateResult} (h : Cancels outcomes paths sw r sw' es) :
    SendsOnly [.deselected] sw.pending.requestData es := by
  cases h <;> simp

theorem Releases.sends {killPlayer : Bool} {r : Release}
    (h : Releases outcomes paths sw data killPlayer r sw' es) :
    SendsOnly [.deselected, .deactivate] data es := by
  cases h with
  | kept hd => exact hd.sends.mono (by simp)
  | killed hd hf => exact sends_release hd hf

theorem ReleaseCrashes.sends (h : ReleaseCrashes outcomes paths sw data es) :
    SendsOnly [.deselected] data es := by
  cases h with
  | deselecting => simp
  | deactivating hd => exact hd.sends

/-- Nothing but calls has been recorded. -/
theorem SendsOnly.calls (h : SendsOnly methods data es) : ∀ e ∈ es, e.IsCall := by
  intro e he
  have hsends := h e he
  cases e with
  | called => trivial
  | bug | assertionFailed => exact hsends

end

end TapSwitch
