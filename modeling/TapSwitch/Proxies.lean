import TapSwitch.Queue

set_option autoImplicit false

/-!
# Proxies that could not be created

When the creation of a proxy fails, the registration goes on with a null pointer.  The
component is registered nevertheless, and whoever calls it later crashes the daemon.
-/

namespace TapSwitch

open Library

/-! ## The registry -/

namespace Paths

/-- Every component without a proxy in `new` has been without one in `old` already. -/
structure NoProxyLost (old new : Paths) : Prop where
  player : ∀ {k : String} {player : Player}, new.lookupPlayer k = some player →
    player.dbusProxy = none → ∃ before, old.lookupPlayer k = some before ∧
      before.dbusProxy = none
  source : ∀ {k : String} {source : Source}, new.lookupSource k = some source →
    source.dbusProxy = none → ∃ before, old.lookupSource k = some before ∧
      before.dbusProxy = none

theorem NoProxyLost.refl (paths : Paths) : paths.NoProxyLost paths where
  player h hnone := ⟨_, h, hnone⟩
  source h hnone := ⟨_, h, hnone⟩

end Paths

namespace Daemon

theorem Provided.empty : Provided .empty where
  player h := by simp at h
  source h := by simp at h

/-- Registering a player keeps every component provided exactly if it brings a proxy. -/
theorem Provided.addPlayer_iff {paths : Paths} (h : Provided paths) (player : Player) :
    Provided (paths.addPlayer player).1 ↔ player.dbusProxy ≠ none := by
  obtain ⟨stored, hstored, hproxy⟩ := paths.addPlayer_dbusProxy player
  constructor
  · intro hprovided
    rw [← hproxy]
    exact hprovided.player hstored
  · intro hsome
    refine ⟨?_, fun hsource => h.source hsource⟩
    intro k found hfound
    by_cases hk : player.id = k
    · subst hk
      rw [hstored] at hfound
      rw [← Option.some.inj hfound, hproxy]
      exact hsome
    · rw [Paths.addPlayer_lookupPlayer, if_neg hk] at hfound
      exact h.player hfound

/-- Registering a source keeps every component provided exactly if it brings a proxy. -/
theorem Provided.addSource_iff {paths : Paths} (h : Provided paths) (source : Source) :
    Provided (paths.addSource source).1 ↔ source.dbusProxy ≠ none := by
  obtain ⟨stored, hstored, hproxy⟩ := paths.addSource_dbusProxy source
  constructor
  · intro hprovided
    rw [← hproxy]
    exact hprovided.source hstored
  · intro hsome
    refine ⟨fun hplayer => h.player hplayer, ?_⟩
    intro k found hfound
    by_cases hk : source.id = k
    · subst hk
      rw [hstored] at hfound
      rw [← Option.some.inj hfound, hproxy]
      exact hsome
    · rw [Paths.addSource_lookupSource, if_neg hk] at hfound
      exact h.source hfound

/-! ## Runs -/

variable {M V : Type} [MaybeBool M]

theorem newProxy_ne_none {success : Bool} {invocation : Nat} {dest path : String} :
    newProxy success invocation dest path ≠ none ↔ success = true := by
  cases success <;> simp [newProxy]

/-- If the event completes the creation of a proxy, then with success. -/
def ProxyCreated (d : Daemon M V) (e : Event V) : Prop :=
  ∀ i success, e = .proxyDone i success → d.creations[i]? ≠ none → success = true

/-- If the event is that a proxy could not be created, then no component loses its proxy
and none is added without one. -/
def FailureHarmless (d : Daemon M V) (e : Event V) : Prop :=
  ∀ i d', e = .proxyDone i false → (system M V).step d e = some d' →
    d.data.audioPaths.NoProxyLost d'.data.audioPaths

omit [MaybeBool M] in
theorem proxyCreated_proxyDone {d : Daemon M V} {i : Nat} {success : Bool}
    {creation : Creation} (h : d.creations[i]? = some creation) :
    d.ProxyCreated (.proxyDone i success) ↔ success = true := by
  constructor
  · exact fun hcreated => hcreated i success rfl (by simp [h])
  · rintro rfl _ _ ⟨rfl, rfl⟩ -
    rfl

theorem provided_step_iff {d d' : Daemon M V} {e : Event V}
    (h : Provided d.data.audioPaths) (hstep : Steps d e d') :
    Provided d'.data.audioPaths ↔ d.ProxyCreated e := by
  have hother : (∀ i success, e ≠ .proxyDone i success) → d.ProxyCreated e :=
    fun hne i success he => absurd he (hne i success)
  cases hstep with
  | playerRegistered hcreation =>
      rw [proxyCreated_proxyDone hcreation, ← newProxy_ne_none]
      exact h.addPlayer_iff _
  | sourceRegistered hcreation =>
      rw [proxyCreated_proxyDone hcreation, ← newProxy_ne_none]
      exact h.addSource_iff _
  | noCreation hnone =>
      refine iff_of_true h ?_
      rintro _ _ ⟨rfl, rfl⟩ hsome
      exact absurd hnone hsome
  | answered hpassive =>
      refine iff_of_true h (hother ?_)
      rintro i success rfl
      exact hpassive
  | creating hcreation =>
      refine iff_of_true h (hother ?_)
      rintro i success rfl
      simp [Event.creation] at hcreation
  | requested | released | completed | canceled | postponed =>
      exact iff_of_true h (hother (by simp))

/-- Without a creation to complete, nothing is registered. -/
theorem failureHarmless_of_proxyCreated {d : Daemon M V} {e : Event V}
    (hreach : (system M V).Reachable d) (h : d.ProxyCreated e) : d.FailureHarmless e := by
  rintro i d' rfl hstep
  cases steps_of_step hreach hstep with
  | noCreation => exact .refl _
  | playerRegistered hcreation =>
      rw [proxyCreated_proxyDone hcreation] at h
      cases h
  | sourceRegistered hcreation =>
      rw [proxyCreated_proxyDone hcreation] at h
      cases h
  | answered hpassive => exact hpassive.elim
  | creating hcreation => simp [Event.creation] at hcreation

/-- All along a run, every component has a proxy, no event crashes the daemon, and a
proxy that could not be created does no harm, if and only if every proxy that is waited
for can be created. -/
theorem provided_iff_proxyCreated {evs : List (Event V)} {d : Daemon M V}
    (h : (system M V).Run evs d) :
    ((system M V).StatesAlong evs (fun d => Provided d.data.audioPaths ∧
        ∀ e, ∃ d', (system M V).step d e = some d') ∧
      (system M V).StepsAlong evs FailureHarmless) ↔
    (system M V).StepsAlong evs ProxyCreated := by
  have hprovided : (system M V).StatesAlong evs (fun d => Provided d.data.audioPaths) ↔
      (system M V).StepsAlong evs ProxyCreated := by
    refine System.statesAlong_iff_stepsAlong Provided.empty ?_ h
    intro d e d' hreach hprovided hstep
    exact provided_step_iff hprovided (steps_of_step hreach hstep)
  rw [← hprovided]
  constructor
  · exact fun hall pre s hpre hrun => (hall.1 pre s hpre hrun).1
  · intro hall
    refine ⟨?_, ?_⟩
    · intro pre s hpre hrun
      have hp := hall pre s hpre hrun
      exact ⟨hp, fun e => exists_step hrun.reachable hp e⟩
    · intro pre e s hpre hrun
      exact failureHarmless_of_proxyCreated hrun.reachable
        (hprovided.mp hall pre e s hpre hrun)

/-- Both proxies can be created. -/
theorem provided_iff_proxyCreated_deferred :
    (system (Option Bool) Unit).StatesAlong deferralEvents
      (fun d => Provided d.data.audioPaths ∧
        ∀ e, ∃ d', (system (Option Bool) Unit).step d e = some d') := by
  obtain ⟨d, hrun, -⟩ := exists_deferred
  refine ((provided_iff_proxyCreated hrun).mpr (System.stepsAlong_of_forall ?_)).1
  rintro d e hmem i success rfl -
  simp [deferralEvents] at hmem
  exact hmem.2

/-- The proxy of the player cannot be created, and asking for the player is fatal. -/
theorem not_always_provided :
    ¬ ∀ (evs : List (Event Unit)) (d : Daemon (Option Bool) Unit),
      (system (Option Bool) Unit).Run evs d →
        Provided d.data.audioPaths ∧
          ∀ e, ∃ d', (system (Option Bool) Unit).step d e = some d' := by
  intro hall
  have hexec : ((system (Option Bool) Unit).exec (system (Option Bool) Unit).init
      [.registerPlayer 0 "player" "Player" "/player" ":1.1", .proxyDone 0 false]).map (fun d =>
        ((system (Option Bool) Unit).step d (.query (.playerInfo "player"))).isSome) =
      some false := by decide +kernel
  obtain ⟨d, hrun, hcrash⟩ := System.exists_run_of_exec hexec
  obtain ⟨d', hstep⟩ := (hall _ d hrun).2 (.query (.playerInfo "player"))
  rw [hstep] at hcrash
  cases hcrash

end Daemon

end TapSwitch
