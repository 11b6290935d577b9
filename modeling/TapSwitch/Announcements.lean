import TapSwitch.Queue

set_option autoImplicit false

/-!
# Announcing paths

A registration may complete paths, and each of them is announced by a signal.  The
registration of a player looks the paths up in the registry, that of a source takes
what the caller has said.
-/

namespace TapSwitch

open Library

/-! ## Paths in the registry -/

namespace Paths

/-- The registry has a complete path from the source `sourceId` to the player
`playerId`. -/
def HasPath (paths : Paths) (sourceId playerId : String) : Prop :=
  ∃ source player, paths.lookupPath sourceId = (some source, some player) ∧
    source.id = sourceId ∧ player.id = playerId

theorem hasPath_iff {paths : Paths} {sourceId playerId : String} :
    paths.HasPath sourceId playerId ↔ ∃ source, paths.lookupSource sourceId = some source ∧
      source.playerId = playerId ∧ (paths.lookupPlayer playerId).isSome := by
  constructor
  · rintro ⟨source, player, hpath, -, rfl⟩
    obtain ⟨hsource, hplayer⟩ := lookupPath_eq_some.mp hpath
    have hid := id_of_lookupPlayer hplayer
    exact ⟨source, hsource, hid.symm, by rw [hid, hplayer]; rfl⟩
  · rintro ⟨source, hsource, rfl, hsome⟩
    obtain ⟨player, hplayer⟩ := Option.isSome_iff_exists.mp hsome
    exact ⟨source, player, lookupPath_eq_some.mpr ⟨hsource, hplayer⟩,
      id_of_lookupSource hsource, id_of_lookupPlayer hplayer⟩

theorem addSource_storedSource (paths : Paths) (source : Source) :
    (paths.addSource source).1.lookupSource source.id = some (paths.storedSource source) := by
  rw [addSource_lookupSource, if_pos rfl]
  rfl

/-- A source that is registered again stays with its player. -/
theorem storedSource_playerId {paths : Paths} {source old : Source}
    (h : paths.lookupSource source.id = some old) :
    (paths.storedSource source).playerId = old.playerId := by
  rw [storedSource, h]
  rfl

theorem storedSource_of_none {paths : Paths} {source : Source}
    (h : paths.lookupSource source.id = none) : paths.storedSource source = source := by
  rw [storedSource, h]
  rfl

/-- The paths there are after a player has been registered. -/
theorem hasPath_addPlayer {paths : Paths} {player : Player} {sourceId playerId : String}
    (h : (paths.addPlayer player).1.HasPath sourceId playerId) :
    paths.HasPath sourceId playerId ∨ ∃ source,
      paths.lookupSource sourceId = some source ∧ source.playerId = player.id ∧
        player.id = playerId := by
  obtain ⟨source, hsource, hplayerId, hsome⟩ := hasPath_iff.mp h
  rw [addPlayer_lookupSource] at hsource
  by_cases hid : player.id = playerId
  · exact .inr ⟨source, hsource, hplayerId.trans hid.symm, hid⟩
  · rw [addPlayer_lookupPlayer, if_neg hid] at hsome
    exact .inl (hasPath_iff.mpr ⟨source, hsource, hplayerId, hsome⟩)

/-- The paths there are after a source has been registered. -/
theorem hasPath_addSource {paths : Paths} {source : Source} {sourceId playerId : String}
    (h : (paths.addSource source).1.HasPath sourceId playerId) :
    paths.HasPath sourceId playerId ∨
      source.id = sourceId ∧ source.playerId = playerId ∧
        (paths.addSource source).2.havePath := by
  obtain ⟨stored, hstored, hplayerId, hsome⟩ := hasPath_iff.mp h
  rw [addSource_lookupPlayer] at hsome
  by_cases hid : source.id = sourceId
  · subst hid
    rw [addSource_storedSource] at hstored
    rw [← Option.some.inj hstored] at hplayerId
    cases hold : paths.lookupSource source.id with
    | some old =>
        rw [storedSource_playerId hold] at hplayerId
        exact .inl (hasPath_iff.mpr ⟨old, hold, hplayerId, hsome⟩)
    | none =>
        have hsame := storedSource_of_none hold
        rw [addSource_havePath, hplayerId]
        rw [hsame] at hplayerId
        exact .inr ⟨rfl, hplayerId, hsome⟩
  · rw [addSource_lookupSource, if_neg hid] at hstored
    exact .inl (hasPath_iff.mpr ⟨stored, hstored, hplayerId, hsome⟩)

end Paths

/-! ## Soundness -/

variable {M V : Type}

/-- What the registration of a player announces is there. -/
theorem hasPath_of_announced {paths : Paths} {player : Player} {sourceId playerId : String}
    (h : (.pathAvailable sourceId playerId : Signal V) ∈
      announcements (paths.addPlayer player).1 player.id) :
    (paths.addPlayer player).1.HasPath sourceId playerId := by
  obtain ⟨source, hmem, heq⟩ := List.mem_map.mp h
  obtain ⟨hmem, hplayer⟩ := List.mem_filter.mp hmem
  obtain ⟨rfl, rfl⟩ := Signal.pathAvailable.inj heq
  refine Paths.hasPath_iff.mpr ⟨source, KeyedMap.mem_toList_iff.mp hmem, by simpa using hplayer,
    ?_⟩
  rw [Paths.addPlayer_lookupPlayer, if_pos rfl]
  rfl

/-- What the registration of a source announces is there exactly if the caller has
named the player that the source is stored with. -/
theorem hasPath_addSource_iff {paths : Paths} {source : Source}
    (h : (paths.addSource source).2.havePath) :
    (paths.addSource source).1.HasPath source.id source.playerId ↔
      (paths.storedSource source).playerId = source.playerId := by
  rw [Paths.addSource_havePath] at h
  rw [Paths.hasPath_iff]
  constructor
  · rintro ⟨stored, hstored, hplayerId, -⟩
    rw [Paths.addSource_storedSource] at hstored
    rw [Option.some.inj hstored, hplayerId]
  · intro hsame
    refine ⟨_, Paths.addSource_storedSource paths source, hsame, ?_⟩
    rw [Paths.addSource_lookupPlayer, ← hsame]
    exact h

variable [MaybeBool M]

namespace Daemon

/-- Every path announced while the event is handled is in the registry. -/
def Truthful (d : Daemon M V) (e : Event V) : Prop :=
  ∀ d' sent, (system M V).step d e = some d' → signals d'.log = signals d.log ++ sent →
    ∀ sourceId playerId, .pathAvailable sourceId playerId ∈ sent →
      d'.data.audioPaths.HasPath sourceId playerId

/-- If the event completes the registration of a source that is registered already, and
whose player is registered, then the caller has named this player. -/
def KeepsPlayer (d : Daemon M V) (e : Event V) : Prop :=
  ∀ i success object invocation sourceId sourceName playerId dest path source,
    e = .proxyDone i success →
    d.creations[i]? =
      some (.source object invocation sourceId sourceName playerId dest path) →
    d.data.audioPaths.lookupSource sourceId = some source →
    (d.data.audioPaths.lookupPlayer source.playerId).isSome →
    source.playerId = playerId

/-- The signals sent decide whether an event is truthful. -/
theorem truthful_iff_of_sent {d d' : Daemon M V} {e : Event V}
    (hstep : (system M V).step d e = some d') {sent : List (Signal V)}
    (hsignals : signals d'.log = signals d.log ++ sent) :
    d.Truthful e ↔ ∀ sourceId playerId, .pathAvailable sourceId playerId ∈ sent →
      d'.data.audioPaths.HasPath sourceId playerId := by
  constructor
  · exact fun htruthful => htruthful d' sent hstep hsignals
  · intro hall d'' sent' hstep' hsignals'
    rw [hstep] at hstep'
    obtain rfl := Option.some.inj hstep'
    rw [hsignals, List.append_cancel_left_eq] at hsignals'
    exact hsignals' ▸ hall

/-- An event that sends no `PathAvailable` is truthful. -/
theorem truthful_of_silent {d d' : Daemon M V} {e : Event V}
    (hstep : (system M V).step d e = some d') (sent : List (Signal V))
    (hsignals : signals d'.log = signals d.log ++ sent)
    (hnone : ∀ sourceId playerId, .pathAvailable sourceId playerId ∉ sent) :
    d.Truthful e :=
  (truthful_iff_of_sent hstep hsignals).mpr fun sourceId playerId hmem =>
    absurd hmem (hnone sourceId playerId)

omit [MaybeBool M] in
theorem keepsPlayer_of_ne {d : Daemon M V} {e : Event V}
    (h : ∀ i success, e ≠ .proxyDone i success) : d.KeepsPlayer e :=
  fun i success _ _ _ _ _ _ _ _ he => absurd he (h i success)

omit [MaybeBool M] in
/-- A registration keeps the player of the source exactly if the source is stored with
the player that the caller has named, or with one that is not registered. -/
theorem keepsPlayer_iff {d : Daemon M V} {i : Nat} {success : Bool} {object invocation : Nat}
    {dest path : String} (source : Source)
    (hcreation : d.creations[i]? =
      some (.source object invocation source.id source.name source.playerId dest path)) :
    d.KeepsPlayer (.proxyDone i success) ↔
      ((d.data.audioPaths.addSource source).2.havePath →
        (d.data.audioPaths.storedSource source).playerId = source.playerId) := by
  rw [Paths.addSource_havePath]
  constructor
  · intro hkeeps hsome
    cases hold : d.data.audioPaths.lookupSource source.id with
    | none => rw [Paths.storedSource_of_none hold]
    | some old =>
        have hsame := Paths.storedSource_playerId hold
        rw [hsame] at hsome ⊢
        exact hkeeps _ _ _ _ _ _ _ _ _ old rfl hcreation hold hsome
  · rintro hstored _ _ _ _ _ _ _ _ _ old ⟨rfl, rfl⟩ hcreation' hold hsome
    rw [hcreation] at hcreation'
    cases hcreation'
    rw [Paths.storedSource_playerId hold] at hstored
    exact hstored hsome

theorem truthful_iff {d d' : Daemon M V} {e : Event V} (hreach : (system M V).Reachable d)
    (hstep : (system M V).step d e = some d') : d.Truthful e ↔ d.KeepsPlayer e := by
  have hsilent := @truthful_of_silent _ _ _ _ _ _ hstep
  have hsteps := steps_of_step hreach hstep
  cases hsteps with
  | playerRegistered hcreation =>
      refine iff_of_true ?_ ?_
      · rw [truthful_iff_of_sent hstep (signals_playerRegistered _ _ _ _)]
        intro sourceId playerId hmem
        rcases List.mem_cons.mp hmem with heq | hmem
        · cases heq
        · exact hasPath_of_announced hmem
      · rintro _ _ _ _ _ _ _ _ _ _ ⟨rfl, rfl⟩ hcreation'
        rw [hcreation] at hcreation'
        cases hcreation'
  | @sourceRegistered i success _ invocation sourceId sourceName playerId dest path hcreation =>
      rw [keepsPlayer_iff ⟨sourceId, sourceName, playerId,
          newProxy success invocation dest path⟩ hcreation,
        truthful_iff_of_sent hstep (signals_sourceRegistered _ _ _ _)]
      constructor
      · intro htruthful havePath
        refine (hasPath_addSource_iff havePath).mp (htruthful _ _ ?_)
        exact (if_pos havePath).symm ▸ List.mem_singleton_self _
      · intro hstored sourceId playerId hmem
        split at hmem
        · rename_i havePath
          obtain ⟨rfl, rfl⟩ := Signal.pathAvailable.inj (List.mem_singleton.mp hmem)
          exact (hasPath_addSource_iff havePath).mpr (hstored havePath)
        · exact absurd hmem List.not_mem_nil
  | noCreation hnone =>
      refine iff_of_true (hsilent [] (by simp) (by simp)) ?_
      rintro _ _ _ _ _ _ _ _ _ _ ⟨rfl, rfl⟩ hcreation
      rw [hnone] at hcreation
      cases hcreation
  | answered hpassive =>
      refine iff_of_true (hsilent [] (by simp) (by simp)) (keepsPlayer_of_ne ?_)
      rintro i success rfl
      exact hpassive
  | creating hcreation =>
      refine iff_of_true (hsilent [] (by simp) (by simp)) (keepsPlayer_of_ne ?_)
      rintro i success rfl
      simp [Event.creation] at hcreation
  | @requested object sourceId data outcomes a switch es =>
      refine iff_of_true (hsilent _ (signals_requested _ _ _ _ _ _ _ _) ?_)
        (keepsPlayer_of_ne (by simp))
      cases hresult : a.result <;> simp [requestSignal, hresult]
  | @released object deactivatePlayer data outcomes r switch es =>
      refine iff_of_true (hsilent _ (signals_released _ _ _ _ _ _ _) ?_)
        (keepsPlayer_of_ne (by simp))
      split <;> simp
  | @completed audioState powerState outcomes order appliance suspended result switch es =>
      refine iff_of_true (hsilent _ (signals_completed _ _ _ _ _ _ _) ?_)
        (keepsPlayer_of_ne (by simp))
      cases result <;> simp [completionEntries]
  | canceled =>
      refine iff_of_true (hsilent [] (by simp) (by simp)) (keepsPlayer_of_ne (by simp))
  | postponed =>
      refine iff_of_true (hsilent [] (by simp) (by simp)) (keepsPlayer_of_ne (by simp))

/-! ## Completeness -/

/-- Every complete path has been announced. -/
def Announced (d : Daemon M V) : Prop :=
  ∀ sourceId playerId, d.data.audioPaths.HasPath sourceId playerId →
    .pathAvailable sourceId playerId ∈ signals d.log

omit [MaybeBool M] in
/-- Nothing has to be announced when the registry stays as it is. -/
theorem Announced.congr {d d' : Daemon M V} (h : d.Announced) (sent : List (Signal V))
    (hsignals : signals d'.log = signals d.log ++ sent)
    (hpaths : d'.data.audioPaths = d.data.audioPaths) : d'.Announced := by
  intro sourceId playerId hpath
  rw [hsignals]
  exact List.mem_append_left _ (h sourceId playerId (hpaths ▸ hpath))

omit [MaybeBool M] in
theorem Announced.playerRegistered {d : Daemon M V} (h : d.Announced)
    (object invocation : Nat) (player : Player) :
    (d.playerRegistered object invocation player).Announced := by
  intro sourceId playerId hpath
  rw [signals_playerRegistered]
  rcases Paths.hasPath_addPlayer hpath with hold | ⟨source, hsource, hplayer, rfl⟩
  · exact List.mem_append_left _ (h sourceId playerId hold)
  · refine List.mem_append_right _ (List.mem_cons_of_mem _ (List.mem_map.mpr ⟨source, ?_, ?_⟩))
    · have hid := Paths.id_of_lookupSource hsource
      rw [List.mem_filter]
      exact ⟨KeyedMap.mem_toList_iff.mpr (hid ▸ hsource), by simpa using hplayer⟩
    · rw [Paths.id_of_lookupSource hsource]

omit [MaybeBool M] in
theorem Announced.sourceRegistered {d : Daemon M V} (h : d.Announced)
    (object invocation : Nat) (source : Source) :
    (d.sourceRegistered object invocation source).Announced := by
  intro sourceId playerId hpath
  rw [signals_sourceRegistered]
  rcases Paths.hasPath_addSource hpath with hold | ⟨rfl, rfl, havePath⟩
  · exact List.mem_append_left _ (h sourceId playerId hold)
  · rw [if_pos havePath]
    exact List.mem_append_right _ (List.mem_singleton_self _)

theorem Announced.step {d d' : Daemon M V} {e : Event V} (h : d.Announced)
    (hstep : Steps d e d') : d'.Announced := by
  cases hstep with
  | answered => exact h.congr [] (by simp) rfl
  | creating | noCreation => exact h.congr [] (List.append_nil _).symm rfl
  | playerRegistered => exact Announced.playerRegistered h _ _ _
  | sourceRegistered => exact Announced.sourceRegistered h _ _ _
  | requested => exact h.congr _ (signals_requested _ _ _ _ _ _ _ _) rfl
  | released => exact h.congr _ (signals_released _ _ _ _ _ _ _) rfl
  | completed => exact h.congr _ (signals_completed _ _ _ _ _ _ _) rfl
  | canceled => exact h.congr [] (by simp) rfl
  | postponed => exact h.congr [] (by simp) rfl

theorem announced_of_reachable {d : Daemon M V} (h : (system M V).Reachable d) :
    d.Announced := by
  refine System.reachable_induction (P := Announced) ?_ ?_ h
  · intro sourceId playerId hpath
    obtain ⟨source, hsource, -⟩ := Paths.hasPath_iff.mp hpath
    simp [system, initial] at hsource
  · intro d e d' hreach hannounced hstep
    exact hannounced.step (steps_of_step hreach hstep)

/-- All along a run, every complete path has been announced; and all paths announced
are in the registry at that moment if and only if no source on a complete path is
registered again with another player. -/
theorem announcements_iff_keepsPlayer {evs : List (Event V)} {d : Daemon M V}
    (h : (system M V).Run evs d) :
    ((system M V).StepsAlong evs Truthful ∧ (system M V).StatesAlong evs Announced) ↔
      (system M V).StepsAlong evs KeepsPlayer := by
  have hsound : (system M V).StepsAlong evs Truthful ↔ (system M V).StepsAlong evs KeepsPlayer :=
    System.stepsAlong_congr (fun _ _ _ hreach hstep => truthful_iff hreach hstep) h
  have hcomplete : (system M V).StatesAlong evs Announced :=
    fun pre d' _ hrun => announced_of_reachable hrun.reachable
  rw [hsound]
  exact and_iff_left hcomplete

/-- Each component is registered once. -/
theorem announcements_iff_keepsPlayer_once :
    (system (Option Bool) Unit).StepsAlong (deferralEvents.take 4) Truthful := by
  have hexec₂ : ((system (Option Bool) Unit).exec (system (Option Bool) Unit).init
      (deferralEvents.take 2)).map (fun d => d.creations[0]?) =
      some (some (.player 0 0 "player" "Player" ":1.1" "/player")) := by decide +kernel
  have hexec₃ : ((system (Option Bool) Unit).exec (system (Option Bool) Unit).init
      (deferralEvents.take 3)).map (fun d =>
        (d.creations[0]?, d.data.audioPaths.lookupSource "source")) =
      some (some (.source 0 1 "source" "Source" "player" ":1.1" "/source"), none) := by
    decide +kernel
  have hexec₄ : ((system (Option Bool) Unit).exec (system (Option Bool) Unit).init
      (deferralEvents.take 4)).map (fun _ => ()) = some () := by decide +kernel
  obtain ⟨d₂, hrun₂, hplayer⟩ := System.exists_run_of_exec hexec₂
  obtain ⟨d₃, hrun₃, hseen₃⟩ := System.exists_run_of_exec hexec₃
  obtain ⟨d₄, hrun₄, -⟩ := System.exists_run_of_exec hexec₄
  obtain ⟨hsource, hnone⟩ := Prod.mk.inj hseen₃
  refine ((announcements_iff_keepsPlayer hrun₄).mpr ?_).1
  have hlast₄ : deferralEvents.take 4 = deferralEvents.take 3 ++ [.proxyDone 0 true] := rfl
  have hlast₃ : deferralEvents.take 3 = deferralEvents.take 2 ++ [.proxyDone 0 true] := rfl
  rw [hlast₄, System.stepsAlong_concat hrun₃, hlast₃, System.stepsAlong_concat hrun₂]
  refine ⟨⟨System.stepsAlong_of_forall ?_, ?_⟩, ?_⟩
  · intro d e hmem
    refine keepsPlayer_of_ne ?_
    rintro i success rfl
    simp [deferralEvents] at hmem
  · rintro _ _ _ _ _ _ _ _ _ _ ⟨rfl, rfl⟩ hcreation
    rw [hplayer] at hcreation
    cases hcreation
  · rintro _ _ _ _ _ _ _ _ _ _ ⟨rfl, rfl⟩ hcreation hlookup
    rw [hsource] at hcreation
    cases hcreation
    rw [hnone] at hlookup
    cases hlookup

/-- The source is registered once more, for another player: a path is announced that
does not exist. -/
theorem not_always_truthful :
    ¬ ∀ (evs : List (Event Unit)) (d : Daemon (Option Bool) Unit),
      (system (Option Bool) Unit).Run evs d →
        (system (Option Bool) Unit).StepsAlong evs Truthful := by
  intro hall
  have hbefore : ((system (Option Bool) Unit).exec (system (Option Bool) Unit).init
      (deferralEvents.take 4 ++
        [.registerSource 0 "source" "Source" "other" "/source" ":1.1"])).map
          (fun d => signals d.log) =
      some [.playerRegistered "player" "Player", .pathAvailable "source" "player"] := by
    decide +kernel
  have hafter : ((system (Option Bool) Unit).exec (system (Option Bool) Unit).init
      (deferralEvents.take 4 ++
        [.registerSource 0 "source" "Source" "other" "/source" ":1.1"] ++
        [.proxyDone 0 true])).map
          (fun d => (signals d.log, d.data.audioPaths.lookupPlayer "other")) =
      some ([.playerRegistered "player" "Player", .pathAvailable "source" "player",
        .pathAvailable "source" "other"], none) := by decide +kernel
  obtain ⟨d, hrun, hsignals⟩ := System.exists_run_of_exec hbefore
  obtain ⟨d', hrun', hseen⟩ := System.exists_run_of_exec hafter
  obtain ⟨mid, hmid, hstep⟩ := hrun'.unsnoc
  obtain rfl := hmid.functional hrun
  obtain ⟨hsignals', hnone⟩ := Prod.mk.inj hseen
  have hsent : signals d'.log = signals mid.log ++ [.pathAvailable "source" "other"] := by
    rw [hsignals, hsignals']
    rfl
  have htruthful := hall _ d' hrun' _ _ mid (List.prefix_refl _) hmid
  obtain ⟨source, -, -, hsome⟩ := Paths.hasPath_iff.mp
    (htruthful d' _ hstep hsent "source" "other" (List.mem_singleton_self _))
  rw [hnone] at hsome
  cases hsome

end Daemon

end TapSwitch
