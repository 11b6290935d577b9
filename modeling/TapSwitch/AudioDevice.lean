import TapSwitch.Library.Trace
import TapSwitch.Session

set_option autoImplicit false

/-!
# The audio device is never shared

Players need exclusive access to the sound device.  A player may use it from the
moment an `Activate` call to it succeeds until a `Deactivate` call is sent to it.
The log of a session shows at any point which players these are; the switch knows
only the ID in `current_player_id_`.  This file proves that the two agree between
operations, and that not even in the middle of an operation two players may use the
device.
-/

namespace TapSwitch

open Library

variable {V : Type}

/-- What a call means for the right of a player to use the device. -/
def deviceGrant : BusEntry V → Option (String × Bool)
  | .called ⟨.activate, _, id, _⟩ true => some (id, true)
  | .called ⟨.deactivate, _, id, _⟩ _ => some (id, false)
  | _ => none

/-- The player has been activated with success and not been sent `Deactivate` since. -/
def Active (past : List (BusEntry V)) (playerId : String) : Prop :=
  latest deviceGrant false past playerId = true

/-- What must be true of the past when a call goes out: `Activate` is only sent while
no player is active, a source is only selected while its player is. -/
def DeviceRule (paths : Paths) (past : List (BusEntry V)) : BusEntry V → Prop
  | .called ⟨.activate, _, _, _⟩ _ => ∀ playerId, ¬ Active past playerId
  | .called ⟨.selected, _, id, _⟩ _ | .called ⟨.selectedOnHold, _, id, _⟩ _ =>
      ∃ source, paths.lookupSource id = some source ∧ Active past source.playerId
  | _ => True

/-- Exactly the player `playerId` is active, or none if that ID is empty. -/
def ActiveIs (past : List (BusEntry V)) (playerId : String) : Prop :=
  ∀ p, Active past p ↔ p ≠ "" ∧ p = playerId

/-- The rule has been followed so far, and the active player is `playerId`. -/
structure DeviceOk (paths : Paths) (past : List (BusEntry V)) (playerId : String) :
    Prop where
  rule : ForEachEvent (DeviceRule paths) past
  active : ActiveIs past playerId

variable {paths : Paths} {past : List (BusEntry V)} {playerId : String}

theorem DeviceOk.initial : DeviceOk paths ([] : List (BusEntry V)) "" where
  rule := forEachEvent_nil
  active p := by simp [Active]

/-! ## Single calls -/

theorem active_deactivate {proxy : Proxy} {id p : String} {data : GVariantWrapper V}
    {ok : Bool} :
    Active (past ++ [.called ⟨.deactivate, proxy, id, data⟩ ok]) p ↔
      p ≠ id ∧ Active past p :=
  lease_revoked rfl

theorem active_activate {proxy : Proxy} {id p : String} {data : GVariantWrapper V} :
    Active (past ++ [.called ⟨.activate, proxy, id, data⟩ true]) p ↔
      p = id ∨ Active past p :=
  lease_granted rfl

/-- Any other entry leaves the active players alone. -/
theorem active_silent {e : BusEntry V} {p : String} (he : deviceGrant e = none) :
    Active (past ++ [e]) p ↔ Active past p := by
  rw [Active, latest_concat_none he, Active]

theorem ActiveIs.nobody (h : ActiveIs past "") (p : String) : ¬ Active past p := by
  rw [h p]
  simp

theorem ActiveIs.silent {e : BusEntry V} (h : ActiveIs past playerId)
    (he : deviceGrant e = none) : ActiveIs (past ++ [e]) playerId :=
  fun p => (active_silent he).trans (h p)

theorem DeviceOk.deselected (h : DeviceOk paths past playerId) (proxy : Proxy)
    (id : String) (data : GVariantWrapper V) (ok : Bool) :
    DeviceOk paths (past ++ [.called ⟨.deselected, proxy, id, data⟩ ok]) playerId where
  rule := forEachEvent_concat.mpr ⟨h.rule, trivial⟩
  active := h.active.silent rfl

theorem DeviceOk.deactivated (h : DeviceOk paths past playerId) (proxy : Proxy)
    (data : GVariantWrapper V) (ok : Bool) :
    DeviceOk paths (past ++ [.called ⟨.deactivate, proxy, playerId, data⟩ ok]) "" where
  rule := forEachEvent_concat.mpr ⟨h.rule, trivial⟩
  active p := by
    rw [active_deactivate, h.active p]
    constructor
    · rintro ⟨hne, -, heq⟩
      exact absurd heq hne
    · rintro ⟨hne, heq⟩
      exact absurd heq hne

theorem DeviceOk.activated (h : DeviceOk paths past "") (proxy : Proxy)
    (hplayer : playerId ≠ "") (data : GVariantWrapper V) :
    DeviceOk paths (past ++ [.called ⟨.activate, proxy, playerId, data⟩ true]) playerId where
  rule := forEachEvent_concat.mpr ⟨h.rule, h.active.nobody⟩
  active p := by
    rw [active_activate, or_iff_left (h.active.nobody p)]
    constructor
    · rintro rfl
      exact ⟨hplayer, rfl⟩
    · exact And.right

theorem DeviceOk.activationFailed (h : DeviceOk paths past "") (proxy : Proxy)
    (id : String) (data : GVariantWrapper V) :
    DeviceOk paths (past ++ [.called ⟨.activate, proxy, id, data⟩ false]) "" where
  rule := forEachEvent_concat.mpr ⟨h.rule, h.active.nobody⟩
  active := h.active.silent rfl

theorem DeviceOk.selected (h : DeviceOk paths past playerId) (hplayer : playerId ≠ "")
    {id : String} {source : Source} (hsource : paths.lookupSource id = some source)
    (hid : source.playerId = playerId) (now : Bool) (proxy : Proxy)
    (data : GVariantWrapper V) (ok : Bool) :
    DeviceOk paths (past ++ [.called ⟨selectMethod now, proxy, id, data⟩ ok]) playerId := by
  have hactive : Active past source.playerId :=
    (h.active source.playerId).mpr ⟨hid ▸ hplayer, hid⟩
  cases now with
  | true =>
      exact ⟨forEachEvent_concat.mpr ⟨h.rule, source, hsource, hactive⟩,
        h.active.silent rfl⟩
  | false =>
      exact ⟨forEachEvent_concat.mpr ⟨h.rule, source, hsource, hactive⟩,
        h.active.silent rfl⟩

/-! ## Whole operations -/

section

variable {outcomes : Outcomes} {sw sw' : Switch V} {data : GVariantWrapper V}
  {es : List (BusEntry V)}

theorem DeviceOk.deselects {d : DeselectedAudioSourceResult}
    (h : DeviceOk paths past playerId) (hd : Deselects outcomes paths sw data d es) :
    DeviceOk paths (past ++ es) playerId := by
  cases hd with
  | nothing => simpa using h
  | active => exact h.deselected _ _ _ _
  | pending => exact h.deselected _ _ _ _

theorem DeviceOk.deactivates (h : DeviceOk paths past playerId)
    (hf : Deactivates outcomes paths data playerId es) :
    DeviceOk paths (past ++ es) "" := by
  cases hf with
  | nothing hnone => simpa [hnone] using h
  | player _ hlookup _ =>
      rw [Paths.id_of_lookupPlayer hlookup]
      exact h.deactivated _ _ _

theorem DeviceOk.switchesTo {player : Player}
    (h : DeviceOk paths past sw.currentPlayerId) (hplayer : player.id ≠ "")
    (hs : SwitchesTo outcomes paths sw data player es) :
    DeviceOk paths (past ++ es) player.id := by
  cases hs with
  | same hsame => simpa [hsame] using h
  | changed _ hf =>
      rw [← List.append_assoc]
      exact (h.deactivates hf).activated _ hplayer _

theorem DeviceOk.selects {k : String} {source : Source} {player : Player}
    (h : DeviceOk paths past player.id) (hplayer : player.id ≠ "")
    (hpath : paths.lookupPath k = (some source, some player)) (now : Bool)
    (proxy : Proxy) (ok : Bool) :
    DeviceOk paths (past ++ [.called ⟨selectMethod now, proxy, source.id, data⟩ ok])
      player.id := by
  obtain ⟨hsource, hlookup⟩ := Paths.lookupPath_eq_some.mp hpath
  have hid : source.id = k := Paths.id_of_lookupSource hsource
  exact h.selected hplayer (hid ▸ hsource) (Paths.id_of_lookupPlayer hlookup).symm
    now proxy data ok

theorem DeviceOk.activates {sourceId : String} {now : Bool} {a : Activation}
    (h : DeviceOk paths past sw.currentPlayerId) (hnamed : paths.lookupPlayer "" = none)
    (ha : Activates outcomes paths sw data sourceId now a sw' es) :
    DeviceOk paths (past ++ es) sw'.currentPlayerId := by
  cases ha with
  | rejected => simpa using h
  | unchanged => simpa using h
  | alreadyPending => simpa using h
  | playerFailed _ _ _ hd hf =>
      simp only [← List.append_assoc]
      exact ((h.deselects hd).deactivates hf).activationFailed _ _ _
  | sourceFailed _ hpath hd hs =>
      have hplayer := player_named hnamed hpath
      simp only [← List.append_assoc]
      exact ((h.deselects hd).switchesTo hplayer hs).selects hplayer hpath now _ _
  | switched _ hpath hd hs =>
      have hplayer := player_named hnamed hpath
      rw [switchedTo_currentPlayerId]
      simp only [← List.append_assoc]
      exact ((h.deselects hd).switchesTo hplayer hs).selects hplayer hpath now _ _

theorem DeviceOk.activationCrashes {sourceId : String}
    (h : DeviceOk paths past sw.currentPlayerId) (hnamed : paths.lookupPlayer "" = none)
    (hc : ActivationCrashes outcomes paths sw data sourceId es) :
    ForEachEvent (DeviceRule paths) (past ++ es) := by
  cases hc with
  | deselecting => simpa using h.rule
  | deactivating hd => exact (h.deselects hd).rule
  | activating _ hd hf =>
      rw [← List.append_assoc]
      exact ((h.deselects hd).deactivates hf).rule
  | selecting hpath hd hs =>
      rw [← List.append_assoc]
      exact ((h.deselects hd).switchesTo (player_named hnamed hpath) hs).rule

/-- The pending source is selected while its player is active. -/
theorem DeviceOk.completes {r : ActivateResult}
    (h : DeviceOk paths past sw.currentPlayerId) (hnamed : paths.lookupPlayer "" = none)
    (hsw : Consistent paths sw) (hc : Completes outcomes paths sw r sw' es) :
    DeviceOk paths (past ++ es) sw'.currentPlayerId := by
  have hselect : sw.pending.sourceId ≠ "" → ∀ proxy data ok,
      DeviceOk paths (past ++ [.called ⟨.selected, proxy, sw.pending.sourceId, data⟩ ok])
        sw.currentPlayerId := by
    intro hpending proxy data ok
    obtain ⟨source, player, hpath, hid⟩ := hsw.pending hpending
    have hplayer := player_named hnamed hpath
    rw [← hid, ← Paths.id_of_lookupSource (Paths.lookupPath_eq_some.mp hpath).1]
    exact DeviceOk.selects (hid ▸ h) hplayer hpath true proxy ok
  cases hc with
  | nothingPending => simpa using h
  | sourceFailed hpending => exact hselect hpending _ _ _
  | selected hpending => exact hselect hpending _ _ _

theorem DeviceOk.cancels {r : ActivateResult} (h : DeviceOk paths past sw.currentPlayerId)
    (hc : Cancels outcomes paths sw r sw' es) :
    DeviceOk paths (past ++ es) sw'.currentPlayerId := by
  cases hc with
  | nothingPending => simpa using h
  | canceled => exact h.deselected _ _ _ _

theorem DeviceOk.releases {killPlayer : Bool} {r : Release}
    (h : DeviceOk paths past sw.currentPlayerId)
    (hr : Releases outcomes paths sw data killPlayer r sw' es) :
    DeviceOk paths (past ++ es) sw'.currentPlayerId := by
  cases hr with
  | kept hd => exact h.deselects hd
  | killed hd hf =>
      rw [← List.append_assoc]
      exact (h.deselects hd).deactivates hf

theorem DeviceOk.releaseCrashes (h : DeviceOk paths past sw.currentPlayerId)
    (hc : ReleaseCrashes outcomes paths sw data es) :
    ForEachEvent (DeviceRule paths) (past ++ es) := by
  cases hc with
  | deselecting => simpa using h.rule
  | deactivating hd => exact (h.deselects hd).rule

end

/-! ## Runs -/

/-- Nothing is granted while anybody is active. -/
theorem DeviceRule.guarded {e : BusEntry V} (h : DeviceRule paths past e) :
    ∀ k, deviceGrant e = some (k, true) → ∀ k', latest deviceGrant false past k' = false := by
  intro k hgrant k'
  unfold deviceGrant at hgrant
  split at hgrant
  · exact eq_false_of_ne_true (h k')
  · simp at hgrant
  · simp at hgrant

/-- Registrations do not move a source to another player. -/
theorem DeviceRule.mono {old new : Paths} (hext : old.Extends new)
    {e : BusEntry V} (h : DeviceRule old past e) : DeviceRule new past e := by
  unfold DeviceRule at h ⊢
  split <;> simp only at h ⊢
  · exact h
  all_goals first
    | trivial
    | obtain ⟨source, hsource, hactive⟩ := h
      obtain ⟨stored, hstored, hsame⟩ := hext.source hsource
      exact ⟨stored, hstored, hsame ▸ hactive⟩

theorem DeviceOk.mono {old new : Paths} (hext : old.Extends new)
    (h : DeviceOk old past playerId) : DeviceOk new past playerId where
  rule := h.rule.imp fun _ _ => DeviceRule.mono hext
  active := h.active

namespace Session

variable {s s' : Session V}

theorem deviceOk_step {op : Operation V} (hsound : s.Sound)
    (h : DeviceOk s.paths s.log s.switch.currentPlayerId)
    (hstep : s.perform op = .ok () s') :
    DeviceOk s'.paths s'.log s'.switch.currentPlayerId := by
  have hp := performs hsound.consistent op
  rw [hstep] at hp
  cases hp with
  | registered hext => exact h.mono hext
  | activated ha => exact h.activates hsound.named ha
  | completed hc => exact h.completes hsound.named hsound.consistent hc
  | canceled hc => exact h.cancels hc
  | released hr => exact h.releases hr

theorem deviceOk_of_reachable (h : (system V).Reachable s) :
    DeviceOk s.paths s.log s.switch.currentPlayerId := by
  refine System.reachable_induction
    (P := fun s : Session V => DeviceOk s.paths s.log s.switch.currentPlayerId)
    .initial ?_ h
  intro s op s' hreach ih hstep
  exact deviceOk_step (sound_of_reachable hreach) ih (step_eq_some.mp hstep)

/-- Also an operation that crashes has followed the rule up to then. -/
theorem rule_afterwards (h : (system V).Reachable s) (op : Operation V) :
    ForEachEvent (DeviceRule (s.afterwards op).paths) (s.afterwards op).log := by
  have hsound := sound_of_reachable h
  have hok := deviceOk_of_reachable h
  have hp := performs hsound.consistent op
  unfold afterwards
  cases hres : s.perform op with
  | ok _ s' => exact (deviceOk_step hsound hok hres).rule
  | error fault s' =>
      rw [hres] at hp
      cases hp with
      | activationCrashed hc => exact hok.activationCrashes hsound.named hc
      | pendingCrashed => exact hok.rule
      | releaseCrashed hc => exact hok.releaseCrashes hc

/-- Between operations, exactly the current player is active.  At every point of the
calls made so far, those of a further operation included, at most one player is
active; `Activate` is only sent while none is, and a source is only selected or put on
hold while the player it is registered for is active. -/
theorem exclusive_audio_device (h : (system V).Reachable s) :
    (∀ p, Active s.log p ↔ p ≠ "" ∧ p = s.switch.currentPlayerId) ∧
    ∀ op,
      AtEveryPoint (fun past => ∀ p q, Active past p → Active past q → p = q)
        (s.afterwards op).log ∧
      ForEachEvent (DeviceRule (s.afterwards op).paths) (s.afterwards op).log := by
  refine ⟨(deviceOk_of_reachable h).active, fun op => ?_⟩
  have hrule := rule_afterwards h op
  exact ⟨atMostOne_of_guarded (hrule.imp fun _ _ => DeviceRule.guarded), hrule⟩

theorem exclusive_audio_device_requested : ∃ s : Session Unit,
    (system Unit).Reachable s ∧ ∀ p, Active s.log p ↔ p ≠ "" ∧ p = "player" := by
  obtain ⟨s, hreach, hswitch⟩ := exists_requested
  have hactive := (exclusive_audio_device hreach).1
  rw [hswitch] at hactive
  exact ⟨s, hreach, hactive⟩

end Session

end TapSwitch
