import TapSwitch.Library.Trace
import TapSwitch.Reports

set_option autoImplicit false

/-!
# Players that restart

The switch knows the active player by its ID.  A player that registers again gets
another proxy under the same ID, behind which there may be a process that has never
been told anything.  This file relates the proxies to which `Activate` and `Deactivate`
have been sent to those that are registered when a source is selected.
-/

namespace TapSwitch

open Library

variable {V : Type}

/-- What a call means for the right of the process behind a proxy to use the device. -/
def instanceGrant : BusEntry V → Option (Proxy × Bool)
  | .called ⟨.activate, proxy, _, _⟩ true => some (proxy, true)
  | .called ⟨.deactivate, proxy, _, _⟩ _ => some (proxy, false)
  | _ => none

/-- `Activate` has succeeded on the proxy, and no `Deactivate` has been sent since. -/
def Told (past : List (BusEntry V)) (proxy : Proxy) : Prop :=
  latest instanceGrant false past proxy = true

/-- The proxy of a successful activation. -/
def activation : BusEntry V → Option (Unit × Option Proxy)
  | .called ⟨.activate, proxy, _, _⟩ true => some ((), some proxy)
  | _ => none

/-- Where the latest successful `Activate` has gone to. -/
def lastActivated (past : List (BusEntry V)) : Option Proxy :=
  latest activation none past ()

/-- The player is registered with this proxy. -/
def HasProxy (paths : Paths) (playerId : String) (proxy : Proxy) : Prop :=
  ∃ player, paths.lookupPlayer playerId = some player ∧ player.dbusProxy = some proxy

/-- Nothing has changed about who has been told what. -/
structure DeviceUnchanged (past later : List (BusEntry V)) : Prop where
  told : ∀ proxy, Told later proxy ↔ Told past proxy
  last : lastActivated later = lastActivated past

variable {paths : Paths} {past es : List (BusEntry V)} {proxy : Proxy}

theorem HasProxy.unique {playerId : String} {proxy' : Proxy} (h : HasProxy paths playerId proxy)
    (h' : HasProxy paths playerId proxy') : proxy = proxy' := by
  obtain ⟨player, hlookup, hproxy⟩ := h
  obtain ⟨player', hlookup', hproxy'⟩ := h'
  rw [hlookup, Option.some.injEq] at hlookup'
  rw [← hlookup', hproxy, Option.some.injEq] at hproxy'
  exact hproxy'

/-- A registration is for the player given, and replaces its proxy. -/
theorem hasProxy_addPlayer {player : Player} {playerId : String} :
    HasProxy (paths.addPlayer player).1 playerId proxy ↔
      if player.id = playerId then player.dbusProxy = some proxy
      else HasProxy paths playerId proxy := by
  split
  · rename_i hid
    subst hid
    obtain ⟨stored, hlookup, hstored⟩ := paths.addPlayer_dbusProxy player
    simp [HasProxy, hlookup, hstored]
  · rename_i hid
    simp [HasProxy, Paths.addPlayer_lookupPlayer, hid]

theorem DeviceUnchanged.refl (past : List (BusEntry V)) : DeviceUnchanged past past where
  told _ := .rfl
  last := rfl

theorem DeviceUnchanged.trans {later later' : List (BusEntry V)}
    (h : DeviceUnchanged past later) (h' : DeviceUnchanged later later') :
    DeviceUnchanged past later' where
  told p := (h'.told p).trans (h.told p)
  last := h'.last.trans h.last

/-! ## Single calls -/

theorem told_activated {id : String} {data : GVariantWrapper V} {p : Proxy} :
    Told (past ++ [.called ⟨.activate, proxy, id, data⟩ true]) p ↔ p = proxy ∨ Told past p :=
  lease_granted rfl

theorem lastActivated_activated {id : String} {data : GVariantWrapper V} :
    lastActivated (past ++ [.called ⟨.activate, proxy, id, data⟩ true]) = some proxy := by
  simp [lastActivated, latest_concat, activation]

theorem told_deactivated {id : String} {data : GVariantWrapper V} {ok : Bool} {p : Proxy} :
    Told (past ++ [.called ⟨.deactivate, proxy, id, data⟩ ok]) p ↔ p ≠ proxy ∧ Told past p :=
  lease_revoked rfl

theorem deviceUnchanged_append (hgrant : ∀ e ∈ es, instanceGrant e = none)
    (hactivation : ∀ e ∈ es, activation e = none) : DeviceUnchanged past (past ++ es) where
  told p := by rw [Told, latest_append_of_silent past hgrant, Told]
  last := by rw [lastActivated, latest_append_of_silent past hactivation, lastActivated]

/-- Only `Activate` and `Deactivate` matter. -/
theorem SendsOnly.deviceUnchanged {methods : List Method} {data : GVariantWrapper V}
    (h : SendsOnly methods data es) (hactivate : .activate ∉ methods)
    (hdeactivate : .deactivate ∉ methods) : DeviceUnchanged past (past ++ es) := by
  have hsilent : ∀ e ∈ es, instanceGrant e = none ∧ activation e = none := by
    intro e he
    have hsends := h e he
    match e with
    | .called ⟨.activate, _, _, _⟩ _ => exact absurd hsends.1 hactivate
    | .called ⟨.deactivate, _, _, _⟩ _ => exact absurd hsends.1 hdeactivate
    | .called ⟨.selected, _, _, _⟩ _ | .called ⟨.selectedOnHold, _, _, _⟩ _
    | .called ⟨.deselected, _, _, _⟩ _ => exact ⟨rfl, rfl⟩
    | .bug | .assertionFailed => exact hsends.elim
  exact deviceUnchanged_append (fun e he => (hsilent e he).1) fun e he => (hsilent e he).2

/-! ## Who may use the device afterwards -/

/-- What an operation means for the device: which player is current afterwards, and which
processes may believe they have the device. -/
inductive MovesDevice (paths : Paths) (playerId : String) (past later : List (BusEntry V)) :
    String → Prop where
  | kept : DeviceUnchanged past later → MovesDevice paths playerId past later playerId
  | taken : (∀ p, Told later p → Told past p ∧ ¬ HasProxy paths playerId p) →
      MovesDevice paths playerId past later ""
  | given {newId : String} {proxy : Proxy} : HasProxy paths newId proxy →
      lastActivated later = some proxy → Told later proxy →
      (∀ p, Told later p → p = proxy ∨ Told past p ∧ ¬ HasProxy paths playerId p) →
      MovesDevice paths playerId past later newId

section

variable {outcomes : Outcomes} {sw sw' : Switch V} {data : GVariantWrapper V}
  {later : List (BusEntry V)} {playerId newId : String}

theorem MovesDevice.after {past' : List (BusEntry V)}
    (h : MovesDevice paths playerId past' later newId) (hsame : DeviceUnchanged past past') :
    MovesDevice paths playerId past later newId := by
  cases h with
  | kept hkept => exact .kept (hsame.trans hkept)
  | taken htaken => exact .taken fun p hp => (htaken p hp).imp_left (hsame.told p).mp
  | given hproxy hlast htold hothers =>
      exact .given hproxy hlast htold fun p hp =>
        (hothers p hp).imp_right (And.imp_left (hsame.told p).mp)

theorem MovesDevice.before {later' : List (BusEntry V)}
    (h : MovesDevice paths playerId past later newId) (hsame : DeviceUnchanged later later') :
    MovesDevice paths playerId past later' newId := by
  cases h with
  | kept hkept => exact .kept (hkept.trans hsame)
  | taken htaken => exact .taken fun p hp => htaken p ((hsame.told p).mp hp)
  | given hproxy hlast htold hothers =>
      exact .given hproxy (hsame.last.trans hlast) ((hsame.told _).mpr htold) fun p hp =>
        hothers p ((hsame.told p).mp hp)

theorem Deselects.deviceUnchanged {d : DeselectedAudioSourceResult}
    (hd : Deselects outcomes paths sw data d es) : DeviceUnchanged past (past ++ es) :=
  hd.sends.deviceUnchanged (by simp) (by simp)

/-- `deactivate_player()` sends to the proxy that is registered now. -/
theorem Deactivates.taken (hnamed : paths.lookupPlayer "" = none)
    (hf : Deactivates outcomes paths data playerId es) :
    ∀ p, Told (past ++ es) p → Told past p ∧ ¬ HasProxy paths playerId p := by
  intro p hp
  cases hf with
  | nothing hempty =>
      rw [List.append_nil] at hp
      refine ⟨hp, ?_⟩
      rintro ⟨player, hlookup, -⟩
      rw [hempty, hnamed] at hlookup
      cases hlookup
  | player _ hlookup hproxy =>
      obtain ⟨hother, htold⟩ := told_deactivated.mp hp
      exact ⟨htold, fun hregistered => hother (hregistered.unique ⟨_, hlookup, hproxy⟩)⟩

theorem SwitchesTo.movesDevice {player : Player} (hnamed : paths.lookupPlayer "" = none)
    (hlookup : paths.lookupPlayer player.id = some player)
    (hs : SwitchesTo outcomes paths sw data player es) :
    MovesDevice paths sw.currentPlayerId past (past ++ es) player.id := by
  cases hs with
  | same hsame =>
      rw [hsame, List.append_nil]
      exact .kept (.refl past)
  | changed _ hf hproxy =>
      rw [← List.append_assoc]
      refine .given ⟨player, hlookup, hproxy⟩ lastActivated_activated
        (told_activated.mpr (.inl rfl)) fun p hp => ?_
      exact (told_activated.mp hp).imp_right fun htold => hf.taken hnamed p htold

/-- The player of a path is current before its source is selected. -/
theorem movesDevice_preparation {k : String} {source : Source} {player : Player}
    {d : DeselectedAudioSourceResult} {fs : List (BusEntry V)}
    (hnamed : paths.lookupPlayer "" = none)
    (hpath : paths.lookupPath k = (some source, some player))
    (hd : Deselects outcomes paths sw data d es)
    (hs : SwitchesTo outcomes paths sw data player fs) :
    MovesDevice paths sw.currentPlayerId past (past ++ (es ++ fs)) player.id := by
  rw [← List.append_assoc]
  exact (hs.movesDevice hnamed (lookupPlayer_of_path hpath)).after hd.deviceUnchanged

theorem sends_select (now : Bool) (proxy : Proxy) (id : String) (data : GVariantWrapper V)
    (ok : Bool) : SendsOnly [selectMethod now] data
      [.called ⟨selectMethod now, proxy, id, data⟩ ok] := by
  simp

/-- Selecting a source tells no player anything. -/
theorem deviceUnchanged_select (now : Bool) (proxy : Proxy) (id : String)
    (data : GVariantWrapper V) (ok : Bool) :
    DeviceUnchanged past (past ++ [.called ⟨selectMethod now, proxy, id, data⟩ ok]) :=
  (sends_select now proxy id data ok).deviceUnchanged (by cases now <;> simp [selectMethod])
    (by cases now <;> simp [selectMethod])

theorem Activates.movesDevice {sourceId : String} {now : Bool} {a : Activation}
    (hnamed : paths.lookupPlayer "" = none)
    (ha : Activates outcomes paths sw data sourceId now a sw' es) :
    MovesDevice paths sw.currentPlayerId past (past ++ es) sw'.currentPlayerId := by
  cases ha with
  | rejected | unchanged | alreadyPending =>
      rw [List.append_nil]
      exact .kept (.refl past)
  | @playerFailed source player proxy d es fs _ _ _ hd hf =>
      have hfailed : DeviceUnchanged (past ++ (es ++ fs))
          (past ++ (es ++ fs) ++ [.called ⟨.activate, proxy, player.id, data⟩ false]) :=
        deviceUnchanged_append (by simp [instanceGrant]) (by simp [activation])
      have htaken : MovesDevice paths sw.currentPlayerId (past ++ es) (past ++ es ++ fs) "" :=
        .taken (hf.taken hnamed)
      rw [List.append_assoc] at htaken
      rw [← List.append_assoc past]
      exact (htaken.after hd.deviceUnchanged).before hfailed
  | sourceFailed _ hpath hd hs =>
      rw [← List.append_assoc]
      exact (movesDevice_preparation hnamed hpath hd hs).before (deviceUnchanged_select _ _ _ _ _)
  | switched _ hpath hd hs =>
      rw [← List.append_assoc, switchedTo_currentPlayerId]
      exact (movesDevice_preparation hnamed hpath hd hs).before (deviceUnchanged_select _ _ _ _ _)

theorem Completes.movesDevice {r : ActivateResult}
    (hc : Completes outcomes paths sw r sw' es) :
    MovesDevice paths sw.currentPlayerId past (past ++ es) sw'.currentPlayerId := by
  have hkept : MovesDevice paths sw.currentPlayerId past (past ++ es) sw.currentPlayerId :=
    .kept (hc.sends.deviceUnchanged (by simp) (by simp))
  cases hc <;> exact hkept

theorem Cancels.movesDevice {r : ActivateResult} (hc : Cancels outcomes paths sw r sw' es) :
    MovesDevice paths sw.currentPlayerId past (past ++ es) sw'.currentPlayerId := by
  have hkept : MovesDevice paths sw.currentPlayerId past (past ++ es) sw.currentPlayerId :=
    .kept (hc.sends.deviceUnchanged (by simp) (by simp))
  cases hc <;> exact hkept

theorem Releases.movesDevice {killPlayer : Bool} {r : Release}
    (hnamed : paths.lookupPlayer "" = none)
    (hr : Releases outcomes paths sw data killPlayer r sw' es) :
    MovesDevice paths sw.currentPlayerId past (past ++ es) sw'.currentPlayerId := by
  cases hr with
  | kept hd => exact .kept hd.deviceUnchanged
  | killed hd hf =>
      rw [← List.append_assoc]
      exact (MovesDevice.taken (hf.taken hnamed)).after hd.deviceUnchanged

end

/-- The proxy a registration brings with it. -/
def Operation.brings : Operation V → Option Proxy
  | .addPlayer player => player.dbusProxy
  | _ => none

/-- All proxies players have been registered with. -/
def brought (ops : List (Operation V)) : List Proxy := ops.filterMap Operation.brings

theorem brought_concat (ops : List (Operation V)) (op : Operation V) :
    brought (ops ++ [op]) = brought ops ++ op.brings.toList := by
  cases h : op.brings <;> simp [brought, h]

namespace Session

variable {s s' : Session V} {op : Operation V} {ops : List (Operation V)} {id : String}

/-! ## Invariants -/

theorem movesDevice_step (h : s.Sound) (hstep : s.perform op = .ok () s') :
    MovesDevice s.paths s.switch.currentPlayerId s.log s'.log s'.switch.currentPlayerId := by
  have hp := performs h.consistent op
  rw [hstep] at hp
  cases hp with
  | registered => exact .kept (.refl _)
  | activated ha => exact ha.movesDevice h.named
  | completed hc => exact hc.movesDevice
  | canceled hc => exact hc.movesDevice
  | released hr => exact hr.movesDevice h.named

/-- While there is a current player, whoever has been activated last may use the device. -/
def HeldBySomeone (s : Session V) : Prop :=
  s.switch.currentPlayerId ≠ "" → ∃ p, lastActivated s.log = some p ∧ Told s.log p

theorem HeldBySomeone.step (h : s.HeldBySomeone) (hsound : s.Sound)
    (hstep : s.perform op = .ok () s') : s'.HeldBySomeone := by
  have hmoves := movesDevice_step hsound hstep
  intro hplayer
  generalize s'.switch.currentPlayerId = newId at hmoves hplayer
  cases hmoves with
  | kept hsame =>
      obtain ⟨p, hlast, htold⟩ := h hplayer
      exact ⟨p, hsame.last.trans hlast, (hsame.told p).mpr htold⟩
  | taken => exact absurd rfl hplayer
  | given _ hlast htold => exact ⟨_, hlast, htold⟩

theorem heldBySomeone_of_reachable (h : (system V).Reachable s) : s.HeldBySomeone := by
  refine System.reachable_induction (fun hplayer => absurd rfl hplayer) ?_ h
  intro s op s' hreach ih hstep
  exact ih.step (sound_of_reachable hreach) (step_eq_some.mp hstep)

/-- An operation of the switch registers nothing. -/
theorem paths_of_ending {α : Type} {action : SwitchM V α}
    (h : ending (s.carryOut action) = .ok () s') : s'.paths = s.paths := by
  unfold carryOut at h
  split at h <;> cases h
  rfl

/-- A proxy that has not been registered before comes with the registration of its player. -/
theorem hasProxy_step (hstep : s.perform op = .ok () s')
    (hregistered : HasProxy s'.paths id proxy) :
    HasProxy s.paths id proxy ∨
      ∃ player, op = .addPlayer player ∧ player.id = id ∧ player.dbusProxy = some proxy := by
  cases op with
  | addPlayer player =>
      simp only [perform] at hstep
      cases hstep
      split at hregistered
      · exact .inl hregistered
      · rw [hasProxy_addPlayer] at hregistered
        split at hregistered
        · rename_i hid
          exact .inr ⟨player, rfl, hid, hregistered⟩
        · exact .inl hregistered
  | addSource source =>
      simp only [perform] at hstep
      cases hstep
      split at hregistered <;> exact .inl hregistered
  | activateSource | completePending | cancelPending | releasePath =>
      rw [paths_of_ending hstep] at hregistered
      exact .inl hregistered

/-- What is known about proxies as long as no two registrations bring the same one. -/
structure Instances (ops : List (Operation V)) (s : Session V) : Prop where
  registered : ∀ {id p}, HasProxy s.paths id p → p ∈ brought ops
  told : ∀ {p}, Told s.log p → p ∈ brought ops
  unique : ∀ {id id' p}, HasProxy s.paths id p → HasProxy s.paths id' p → id = id'
  /-- A registered proxy that may use the device is that of the current player, and the one
  activated last. -/
  held : ∀ {id p}, HasProxy s.paths id p → Told s.log p →
    id = s.switch.currentPlayerId ∧ lastActivated s.log = some p

theorem Instances.initial : Instances [] (initial : Session V) where
  registered := by simp [HasProxy, Session.initial]
  told := by simp [Told, Session.initial]
  unique := by simp [HasProxy, Session.initial]
  held := by simp [HasProxy, Session.initial]

/-- An operation tells nothing to a proxy that has not been brought before. -/
theorem Instances.told_step (h : Instances ops s) (hsound : s.Sound)
    (hstep : s.perform op = .ok () s') {p : Proxy} (htold : Told s'.log p) :
    p ∈ brought ops := by
  have hmoves := movesDevice_step hsound hstep
  generalize s'.switch.currentPlayerId = newId at hmoves
  cases hmoves with
  | kept hsame => exact h.told ((hsame.told p).mp htold)
  | taken htaken => exact h.told (htaken p htold).1
  | given hproxy _ _ hothers =>
      rcases hothers p htold with rfl | ⟨hbefore, -⟩
      · exact h.registered hproxy
      · exact h.told hbefore

theorem Instances.held_step (h : Instances ops s) (hsound : s.Sound)
    (hstep : s.perform op = .ok () s') {p : Proxy} (hregistered : HasProxy s.paths id p)
    (htold : Told s'.log p) :
    id = s'.switch.currentPlayerId ∧ lastActivated s'.log = some p := by
  have hmoves := movesDevice_step hsound hstep
  -- The proxy of the player that has been current has been told to let go.
  have hreleased : Told s.log p → ¬ ¬ HasProxy s.paths s.switch.currentPlayerId p := by
    intro hbefore hgone
    obtain ⟨rfl, -⟩ := h.held hregistered hbefore
    exact hgone hregistered
  generalize s'.switch.currentPlayerId = newId at hmoves
  cases hmoves with
  | kept hsame =>
      obtain ⟨hid, hlast⟩ := h.held hregistered ((hsame.told p).mp htold)
      exact ⟨hid, hsame.last.trans hlast⟩
  | taken htaken =>
      obtain ⟨hbefore, hgone⟩ := htaken p htold
      exact absurd hgone (hreleased hbefore)
  | given hproxy hlast _ hothers =>
      rcases hothers p htold with rfl | ⟨hbefore, hgone⟩
      · exact ⟨h.unique hregistered hproxy, hlast⟩
      · exact absurd hgone (hreleased hbefore)

theorem Instances.step (h : Instances ops s) (hsound : s.Sound)
    (hdistinct : (brought (ops ++ [op])).Nodup) (hstep : s.perform op = .ok () s') :
    Instances (ops ++ [op]) s' := by
  rw [brought_concat] at hdistinct
  obtain ⟨-, -, hdisjoint⟩ := List.nodup_append.mp hdistinct
  have hfresh : ∀ {p}, op.brings = some p → p ∉ brought ops := by
    intro p hbrings hmem
    exact hdisjoint p hmem p (by simp [hbrings]) rfl
  exact {
    registered := fun {id p} hregistered => by
      rw [brought_concat, List.mem_append, Option.mem_toList]
      rcases hasProxy_step hstep hregistered with hbefore | ⟨player, rfl, -, hproxy⟩
      · exact .inl (h.registered hbefore)
      · exact .inr hproxy
    told := fun htold => by
      rw [brought_concat]
      exact List.mem_append_left _ (h.told_step hsound hstep htold)
    unique := fun {id id' p} hid hid' => by
      rcases hasProxy_step hstep hid with hbefore | ⟨player, rfl, hplayer, hproxy⟩
      · rcases hasProxy_step hstep hid' with hbefore' | ⟨player', rfl, -, hproxy'⟩
        · exact h.unique hbefore hbefore'
        · exact absurd (h.registered hbefore) (hfresh hproxy')
      · rcases hasProxy_step hstep hid' with hbefore' | ⟨player', hsame, hplayer', -⟩
        · exact absurd (h.registered hbefore') (hfresh hproxy)
        · cases hsame
          exact hplayer.symm.trans hplayer'
    held := fun {id p} hregistered htold => by
      rcases hasProxy_step hstep hregistered with hbefore | ⟨player, rfl, -, hproxy⟩
      · exact h.held_step hsound hstep hbefore htold
      · exact absurd (h.told_step hsound hstep htold) (hfresh hproxy) }

theorem instances_of_run (h : (system V).Run ops s) (hdistinct : (brought ops).Nodup) :
    Instances ops s := by
  revert hdistinct
  refine System.run_induction (P := fun ops s => (brought ops).Nodup → Instances ops s)
    (fun _ => .initial) ?_ h
  intro ops s op s' hrun ih hnext hdistinct
  have hbefore : (brought ops).Nodup := by
    rw [brought_concat] at hdistinct
    exact (List.nodup_append.mp hdistinct).1
  exact (ih hbefore).step (sound_of_reachable hrun.reachable) hdistinct (step_eq_some.mp hnext)

/-! ## Selecting -/

/-- Every source that is selected or put on hold by the calls `es` belongs to a player whose
proxy, as it is registered, has been told before that it may use the device. -/
def ToldBefore (paths : Paths) (past es : List (BusEntry V)) : Prop :=
  ∀ pre call ok post, es = pre ++ .called call ok :: post →
    call.method = .selected ∨ call.method = .selectedOnHold →
    ∃ source proxy, paths.lookupSource call.id = some source ∧
      HasProxy paths source.playerId proxy ∧ Told (past ++ pre) proxy

/-- So it is for the calls of this operation, whether it returns or crashes. -/
def SelectsTold (s : Session V) (op : Operation V) : Prop :=
  ∃ es, (s.afterwards op).log = s.log ++ es ∧ ToldBefore s.paths s.log es

/-- The operation selects a source of the player that is current already, or puts it on
hold. -/
def SelectsForCurrent (s : Session V) : Operation V → Prop
  | .activateSource sourceId _ _ _ =>
      Fresh s.switch sourceId ∧ ¬ HeldProxyMissing s.paths s.switch ∧
        ∃ source player, s.paths.lookupPath sourceId = (some source, some player) ∧
          player.id = s.switch.currentPlayerId ∧ source.dbusProxy ≠ none
  | .completePending _ _ =>
      s.switch.pending.sourceId ≠ "" ∧ ¬ PendingProxyMissing s.paths s.switch
  | _ => False

/-- If the operation does so, then the proxy that is registered for the current player is the
one through which it has been activated. -/
def KeepsInstance (s : Session V) (op : Operation V) : Prop :=
  SelectsForCurrent s op → ∃ proxy, HasProxy s.paths s.switch.currentPlayerId proxy ∧
    lastActivated s.log = some proxy

section

variable {outcomes : Outcomes} {data : GVariantWrapper V} {es fs : List (BusEntry V)}

/-- Whether the player has been switched or not, its proxy has been told before its source
is selected. -/
theorem told_before_select {sourceId : String} {source : Source} {player : Player}
    {d : DeselectedAudioSourceResult} (hheld : s.HeldBySomeone) (hsound : s.Sound)
    (hpath : s.paths.lookupPath sourceId = (some source, some player))
    (hd : Deselects outcomes s.paths s.switch data d es)
    (hs : SwitchesTo outcomes s.paths s.switch data player fs)
    (hkeeps : player.id = s.switch.currentPlayerId →
      ∃ proxy, HasProxy s.paths s.switch.currentPlayerId proxy ∧
        lastActivated s.log = some proxy) :
    ∃ proxy, HasProxy s.paths source.playerId proxy ∧ Told (s.log ++ (es ++ fs)) proxy := by
  obtain ⟨-, hlookup⟩ := Paths.lookupPath_eq_some.mp hpath
  cases hs with
  | same hsame =>
      have hplayer : s.switch.currentPlayerId ≠ "" := hsame ▸ player_named hsound.named hpath
      obtain ⟨proxy, hproxy, hactivated⟩ := hkeeps hsame
      obtain ⟨p, hlast, htold⟩ := hheld hplayer
      rw [hactivated, Option.some.injEq] at hlast
      rw [← Paths.id_of_lookupPlayer hlookup, hsame, List.append_nil]
      exact ⟨proxy, hproxy, (hd.deviceUnchanged.told proxy).mpr (hlast ▸ htold)⟩
  | @changed _ proxy _ _ hproxy =>
      refine ⟨proxy, ⟨player, hlookup, hproxy⟩, ?_⟩
      rw [← List.append_assoc, ← List.append_assoc]
      exact told_activated.mpr (.inl rfl)

/-- Calls of other methods select nothing. -/
theorem ToldBefore.of_sends {methods : List Method} (hes : SendsOnly methods data es)
    (hselected : .selected ∉ methods) (honHold : .selectedOnHold ∉ methods) :
    ToldBefore s.paths s.log es := by
  intro pre call ok post heq hmethod
  have hmem : .called call ok ∈ es := by simp [heq]
  rcases hmethod with hcall | hcall
  · exact absurd hmem (hes.not_mem (hcall ▸ hselected))
  · exact absurd hmem (hes.not_mem (hcall ▸ honHold))

/-- If only the last call selects, then only its source matters. -/
theorem ToldBefore.of_last {methods : List Method} {call : Call V} {ok : Bool}
    {source : Source} (hes : SendsOnly methods data es) (hselected : .selected ∉ methods)
    (honHold : .selectedOnHold ∉ methods)
    (hsource : s.paths.lookupSource call.id = some source)
    (htold : ∃ proxy, HasProxy s.paths source.playerId proxy ∧ Told (s.log ++ es) proxy) :
    ToldBefore s.paths s.log (es ++ [.called call ok]) := by
  intro pre call' ok' post heq hmethod
  rcases List.eq_nil_or_concat post with rfl | ⟨rest, e, rfl⟩
  · obtain ⟨rfl, hlast⟩ := List.append_inj' heq rfl
    cases hlast
    obtain ⟨proxy, hproxy, hbefore⟩ := htold
    exact ⟨source, proxy, hsource, hproxy, hbefore⟩
  · rw [List.concat_eq_append, ← List.cons_append, ← List.append_assoc] at heq
    obtain ⟨hbefore, -⟩ := List.append_inj' heq rfl
    exact ToldBefore.of_sends hes hselected honHold pre call' ok' rest hbefore hmethod

theorem ToldBefore.nil : ToldBefore paths past [] := by
  intro pre call ok post heq
  cases pre <;> cases heq

theorem ToldBefore.select {sourceId : String} {now ok : Bool} {source : Source}
    {player : Player} {d : DeselectedAudioSourceResult} (hheld : s.HeldBySomeone)
    (hsound : s.Sound) (hkeeps : KeepsInstance s (.activateSource sourceId now data outcomes))
    (hfresh : Fresh s.switch sourceId)
    (hpath : s.paths.lookupPath sourceId = (some source, some player))
    (hd : Deselects outcomes s.paths s.switch data d es)
    (hs : SwitchesTo outcomes s.paths s.switch data player fs)
    (hproxy : source.dbusProxy = some proxy) :
    ToldBefore s.paths s.log
      (es ++ fs ++ [.called ⟨selectMethod now, proxy, source.id, data⟩ ok]) := by
  obtain ⟨hsource, -⟩ := Paths.lookupPath_eq_some.mp hpath
  have hid : source.id = sourceId := Paths.id_of_lookupSource hsource
  refine .of_last (sends_preparation hd hs) (by simp) (by simp) (hid ▸ hsource) ?_
  exact told_before_select hheld hsound hpath hd hs fun hsame =>
    hkeeps ⟨hfresh, hd.not_missing, source, player, hpath, hsame, by simp [hproxy]⟩

theorem ToldBefore.activates {sourceId : String} {now : Bool} {a : Activation}
    {switch : Switch V} (hheld : s.HeldBySomeone) (hsound : s.Sound)
    (hkeeps : KeepsInstance s (.activateSource sourceId now data outcomes))
    (ha : Activates outcomes s.paths s.switch data sourceId now a switch es) :
    ToldBefore s.paths s.log es := by
  cases ha with
  | rejected | unchanged | alreadyPending => exact .nil
  | @playerFailed source player proxy d es fs _ _ _ hd hf =>
      have hsends : SendsOnly [.deselected, .deactivate, .activate] data
          (es ++ fs ++ [.called ⟨.activate, proxy, player.id, data⟩ false]) :=
        sendsOnly_append.mpr ⟨(sends_release hd hf).mono (by simp), by simp⟩
      exact .of_sends hsends (by simp) (by simp)
  | sourceFailed hfresh hpath hd hs hproxy =>
      exact .select hheld hsound hkeeps hfresh hpath hd hs hproxy
  | switched hfresh hpath hd hs hproxy =>
      exact .select hheld hsound hkeeps hfresh hpath hd hs hproxy

/-- The pending source belongs to the current player. -/
theorem ToldBefore.complete {dest : Option String} {source : Source} {ok : Bool}
    (hheld : s.HeldBySomeone) (hsound : s.Sound)
    (hkeeps : KeepsInstance s (.completePending dest outcomes))
    (hpending : s.switch.pending.sourceId ≠ "")
    (hpresent : ¬ PendingProxyMissing s.paths s.switch)
    (hlookup : s.paths.lookupSource s.switch.pending.sourceId = some source) :
    ToldBefore s.paths s.log
      [.called ⟨.selected, proxy, s.switch.pending.sourceId, data⟩ ok] := by
  have hplayer := hsound.consistent.player_ne hsound.named (.inr hpending)
  have hplayed : source.playerId = s.switch.currentPlayerId := by
    obtain ⟨source', hsource', hid⟩ := playerId_of_path (hsound.consistent.pending hpending)
    rw [hlookup, Option.some.injEq] at hsource'
    rw [hsource', hid]
  obtain ⟨proxy, hproxy, hactivated⟩ := hkeeps ⟨hpending, hpresent⟩
  obtain ⟨p, hlast, htold⟩ := hheld hplayer
  rw [hactivated, Option.some.injEq] at hlast
  subst hlast
  have hnone : SendsOnly [] data ([] : List (BusEntry V)) := sendsOnly_nil
  refine .of_last hnone (by simp) (by simp) hlookup ?_
  rw [hplayed, List.append_nil]
  exact ⟨proxy, hproxy, htold⟩

/-- An operation that meets the condition selects only what may be selected. -/
theorem selectsTold_of_keeps (h : (system V).Reachable s) (hkeeps : KeepsInstance s op) :
    SelectsTold s op := by
  have hsound := sound_of_reachable h
  have hheld := heldBySomeone_of_reachable h
  have hp := performs hsound.consistent op
  have hnone : s.log = s.log ++ [] := (List.append_nil _).symm
  unfold SelectsTold afterwards
  cases hres : s.perform op with
  | ok _ s' =>
      rw [hres] at hp
      cases hp with
      | registered => exact ⟨[], hnone, .nil⟩
      | activated ha => exact ⟨_, rfl, .activates hheld hsound hkeeps ha⟩
      | completed hc =>
          refine ⟨_, rfl, ?_⟩
          have hpresent := hc.not_missing
          cases hc with
          | nothingPending => exact .nil
          | sourceFailed hpending hlookup | selected hpending hlookup =>
              exact .complete hheld hsound hkeeps hpending hpresent hlookup
      | canceled hc => exact ⟨_, rfl, .of_sends hc.sends (by simp) (by simp)⟩
      | released hr => exact ⟨_, rfl, .of_sends hr.sends (by simp) (by simp)⟩
  | error fault s' =>
      rw [hres] at hp
      cases hp with
      | activationCrashed hc => exact ⟨_, rfl, .of_sends hc.sends (by simp) (by simp)⟩
      | pendingCrashed => exact ⟨[], hnone, .nil⟩
      | releaseCrashed hc => exact ⟨_, rfl, .of_sends hc.sends (by simp) (by simp)⟩

/-- Nothing is told to anybody before a source of the current player is selected. -/
structure SelectsNext (s : Session V) (op : Operation V) (call : Call V) (ok : Bool)
    (es : List (BusEntry V)) : Prop where
  log : (s.afterwards op).log = s.log ++ (es ++ [.called call ok])
  method : call.method = .selected ∨ call.method = .selectedOnHold
  unchanged : DeviceUnchanged s.log (s.log ++ es)
  played : PlayedBy s.paths call.id s.switch.currentPlayerId

theorem selectMethod_cases (now : Bool) :
    selectMethod now = .selected ∨ selectMethod now = .selectedOnHold := by
  cases now <;> simp [selectMethod]

/-- A fresh request for another source of the current player selects it. -/
theorem selectsNext_activate {sourceId : String} {now : Bool} {source : Source}
    {player : Player} (hsw : Consistent s.paths s.switch) (hfresh : Fresh s.switch sourceId)
    (hpresent : ¬ HeldProxyMissing s.paths s.switch)
    (hpath : s.paths.lookupPath sourceId = (some source, some player))
    (hsame : player.id = s.switch.currentPlayerId) (hproxy : source.dbusProxy = some proxy) :
    ∃ call ok es, SelectsNext s (.activateSource sourceId now data outcomes) call ok es := by
  have hid : source.id = sourceId :=
    Paths.id_of_lookupSource (Paths.lookupPath_eq_some.mp hpath).1
  rcases deselectSource_run outcomes data hsw [] with ⟨d, es, hd, -⟩ | ⟨hmissing, -⟩
  · have hs : SwitchesTo outcomes s.paths s.switch data player [] := .same hsame
    have hplayed : PlayedBy s.paths source.id s.switch.currentPlayerId :=
      hid ▸ hsame ▸ playedBy_of_path hpath
    refine ⟨⟨selectMethod now, proxy, source.id, data⟩, outcomes (selectMethod now), es, ?_,
      selectMethod_cases now, hd.deviceUnchanged, hplayed⟩
    cases hok : outcomes (selectMethod now) with
    | false =>
        have hrun := (Activates.sourceFailed hfresh hpath hd hs hproxy hok).run hsw []
        simp [afterwards, perform, carryOut, hrun, update, ending]
    | true =>
        have hrun := (Activates.switched hfresh hpath hd hs hproxy hok).run hsw []
        simp [afterwards, perform, carryOut, hrun, update, ending]
  · exact absurd hmissing hpresent

theorem selectsNext_complete {dest : Option String} (hsw : Consistent s.paths s.switch)
    (hpending : s.switch.pending.sourceId ≠ "")
    (hpresent : ¬ PendingProxyMissing s.paths s.switch) :
    ∃ call ok es, SelectsNext s (.completePending dest outcomes) call ok es := by
  have hplayed := playerId_of_path (hsw.pending hpending)
  rcases completePendingSourceActivation_run outcomes hsw dest [] with
    ⟨r, sw', es, hc, hrun⟩ | ⟨hmissing, -⟩
  · have hlog : (s.afterwards (.completePending dest outcomes)).log = s.log ++ es := by
      simp [afterwards, perform, carryOut, hrun, update, ending]
    cases hc with
    | nothingPending hidle => exact absurd hidle hpending
    | sourceFailed | selected =>
        refine ⟨_, _, [], hlog, .inl rfl, ?_, hplayed⟩
        rw [List.append_nil]
        exact .refl s.log
  · exact absurd hmissing hpresent

theorem exists_selectsNext (hsw : Consistent s.paths s.switch)
    (hselects : SelectsForCurrent s op) :
    ∃ call ok es, SelectsNext s op call ok es := by
  cases op with
  | activateSource =>
      obtain ⟨hfresh, hpresent, source, player, hpath, hsame, hproxy⟩ := hselects
      obtain ⟨proxy, hproxy⟩ := Option.ne_none_iff_exists'.mp hproxy
      exact selectsNext_activate hsw hfresh hpresent hpath hsame hproxy
  | completePending => exact selectsNext_complete hsw hselects.1 hselects.2
  | addPlayer | addSource | cancelPending | releasePath => exact hselects.elim

/-- If no two registrations bring the same proxy, then there is no other way. -/
theorem keeps_of_selectsTold (hsw : Consistent s.paths s.switch) (hinst : Instances ops s)
    (htold : SelectsTold s op) : KeepsInstance s op := by
  intro hselects
  obtain ⟨call, ok, es, hnext⟩ := exists_selectsNext hsw hselects
  obtain ⟨sent, hlog, htold⟩ := htold
  rw [hnext.log, List.append_cancel_left_eq] at hlog
  obtain ⟨source, proxy, hsource, hproxy, hbefore⟩ :=
    htold es call ok [] hlog.symm hnext.method
  obtain ⟨source', hsource', hplayed⟩ := hnext.played
  rw [hsource, Option.some.injEq] at hsource'
  rw [hsource', hplayed] at hproxy
  exact ⟨proxy, hproxy, (hinst.held hproxy ((hnext.unchanged.told proxy).mp hbefore)).2⟩

end

/-! ## Runs -/

theorem selectsTold_iff (h : (system V).Run ops s) (hdistinct : (brought ops).Nodup)
    (op : Operation V) : SelectsTold s op ↔ KeepsInstance s op :=
  ⟨keeps_of_selectsTold (sound_of_reachable h.reachable).consistent
    (instances_of_run h hdistinct), selectsTold_of_keeps h.reachable⟩

/-- In every run whose operations all meet the condition, sources are selected only on players
that have been told, and the same goes for a further operation.  As long as no two
registrations bring the same proxy, the condition is exact. -/
theorem instances_told (h : (system V).Run ops s) :
    ((system V).StepsAlong ops KeepsInstance → (system V).StepsAlong ops SelectsTold) ∧
    (∀ op, KeepsInstance s op → SelectsTold s op) ∧
    ((brought ops).Nodup →
      ((system V).StepsAlong ops SelectsTold ↔ (system V).StepsAlong ops KeepsInstance) ∧
      ∀ op, SelectsTold s op ↔ KeepsInstance s op) := by
  have hsufficient : (system V).StepsAlong ops KeepsInstance →
      (system V).StepsAlong ops SelectsTold := by
    intro hall pre op s' hpre hrun
    exact selectsTold_of_keeps hrun.reachable (hall pre op s' hpre hrun)
  refine ⟨hsufficient, fun op => selectsTold_of_keeps h.reachable, fun hdistinct => ⟨⟨?_,
    hsufficient⟩, selectsTold_iff h hdistinct⟩⟩
  intro hall pre op s' hpre hrun
  have hsub : (brought pre).Sublist (brought ops) :=
    ((List.prefix_append pre [op]).trans hpre).sublist.filterMap _
  exact (selectsTold_iff hrun (hdistinct.sublist hsub) op).mp (hall pre op s' hpre hrun)

/-- A second source of the player of `requestOperations`. -/
def otherSource : Operation Unit :=
  .addSource ⟨"other", "Other", "player", some ⟨2, ":1.1", "/other"⟩⟩

/-- It is requested while the player is current already, which has not restarted. -/
theorem instances_told_other : ∃ s : Session Unit,
    (system Unit).Run (requestOperations ++ [otherSource]) s ∧
    SelectsTold s (.activateSource "other" true none fun _ => true) := by
  have hexec : ∃ s, (system Unit).exec (system Unit).init
        (requestOperations ++ [otherSource]) = some s ∧
      HasProxy s.paths s.switch.currentPlayerId ⟨0, ":1.1", "/player"⟩ ∧
      lastActivated s.log = some ⟨0, ":1.1", "/player"⟩ :=
    ⟨_, rfl, ⟨_, rfl, rfl⟩, rfl⟩
  obtain ⟨s, hs, hproxy, hlast⟩ := hexec
  have hrun := System.run_of_exec hs
  exact ⟨s, hrun, (instances_told hrun).2.1 _ fun _ => ⟨_, hproxy, hlast⟩⟩

/-- The player restarts while it is current: its other source is selected, but nobody has
told the new instance that it may use the device. -/
theorem not_always_told :
    ¬ ∀ (ops : List (Operation Unit)) s, (system Unit).Run ops s → ∀ op, SelectsTold s op := by
  intro hall
  have hexec : ∃ s, (system Unit).exec (system Unit).init (requestOperations ++
        [otherSource, .addPlayer ⟨"player", "Player", some ⟨3, ":1.2", "/player"⟩⟩]) = some s ∧
      (s.afterwards (.activateSource "other" true none fun _ => true)).log = s.log ++
        [.called ⟨.deselected, ⟨1, ":1.1", "/source"⟩, "source", none⟩ true,
          .called ⟨.selected, ⟨2, ":1.1", "/other"⟩, "other", none⟩ true] ∧
      PlayedBy s.paths "other" "player" ∧ HasProxy s.paths "player" ⟨3, ":1.2", "/player"⟩ ∧
      latest instanceGrant false
        (s.log ++ [.called ⟨.deselected, ⟨1, ":1.1", "/source"⟩, "source", none⟩ true])
        ⟨3, ":1.2", "/player"⟩ = false :=
    ⟨_, rfl, rfl, ⟨_, rfl, rfl⟩, ⟨_, rfl, rfl⟩, rfl⟩
  obtain ⟨s, hs, hlog, ⟨source', hsource', hplayed⟩, hregistered, hnever⟩ := hexec
  obtain ⟨es, hes, htold⟩ := hall _ s (System.run_of_exec hs) _
  rw [hlog, List.append_cancel_left_eq] at hes
  obtain ⟨source, proxy, hsource, hproxy, htold⟩ := htold [_] _ _ [] hes.symm (.inl rfl)
  rw [hsource', Option.some.injEq] at hsource
  rw [← hsource, hplayed] at hproxy
  rw [hproxy.unique hregistered, Told, hnever] at htold
  cases htold

end Session

end TapSwitch
