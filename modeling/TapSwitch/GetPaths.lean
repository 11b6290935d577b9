import TapSwitch.Queue

set_option autoImplicit false

/-!
# What `GetPaths` returns

The handler sorts the paths that `for_each()` visits into usable and incomplete ones.
Both lists are complete and without duplicates, because the enumeration is.
-/

namespace TapSwitch

open Library

variable {M V : Type}

namespace Paths

variable {paths : Paths}

/-- Each registered source is visited once, on its path. -/
theorem forEach_any_source {k : String} {source : Source}
    (h : paths.lookupSource k = some source) :
    (paths.forEach .any).countP (fun path => path.1 = some source) = 1 ∧
      paths.lookupPath k ∈ paths.forEach .any := by
  have hmem : source ∈ paths.sources.toList :=
    mem_sources_iff.mpr (id_of_lookupSource h ▸ h)
  have hlone : paths.lonePaths.countP (fun path => path.1 = some source) = 0 := by
    rw [List.countP_eq_zero]
    intro path hpath
    obtain ⟨_, _, -, -, rfl⟩ := mem_lonePaths_iff.mp hpath
    simp
  refine ⟨?_, mem_forEach_any_iff.mpr (.inl ⟨k, source, h, rfl⟩)⟩
  rw [forEach_any, List.countP_append, hlone, List.countP_map]
  have hcount := List.count_eq_one_of_mem paths.sources.toList_nodup hmem
  simpa [List.count, Function.comp_def, pathOf, beq_eq_decide] using hcount

/-- Every player is on some path. -/
theorem exists_path_of_player {k : String} {player : Player}
    (h : paths.lookupPlayer k = some player) :
    ∃ path ∈ paths.forEach .any, path.2 = some player := by
  have hid : player.id = k := id_of_lookupPlayer h
  cases hlone : paths.unconnected player with
  | true =>
      refine ⟨(none, some player), mem_forEach_any_iff.mpr (.inr ?_), rfl⟩
      exact ⟨k, player, h, unconnected_iff.mp hlone, rfl⟩
  | false =>
      obtain ⟨source, hsource, hplayer⟩ : ∃ source ∈ paths.sources.toList,
          source.playerId = player.id := by
        simpa [unconnected] using hlone
      have hpath : (paths.pathOf source).2 = some player := by
        rw [pathOf, hplayer, hid, h]
      refine ⟨_, mem_forEach_any_iff.mpr (.inl ?_), hpath⟩
      have hlookup := mem_sources_iff.mp hsource
      exact ⟨source.id, source, hlookup, (lookupPath_of_lookupSource hlookup).symm⟩

theorem forEach_incompletePaths :
    paths.forEach .incompletePaths =
      paths.forEach .unconnectedSources ++ paths.forEach .unconnectedPlayers := by
  have hsources := flatMap_forEachSource paths .incompletePaths paths.sources.toList
  have hsources' := flatMap_forEachSource paths .unconnectedSources paths.sources.toList
  have hsame : (paths.sources.toList.map paths.pathOf).filter ForEach.incompletePaths.wants =
      (paths.sources.toList.map paths.pathOf).filter ForEach.unconnectedSources.wants := by
    refine List.filter_congr ?_
    intro path hpath
    obtain ⟨source, -, rfl⟩ := List.mem_map.mp hpath
    rfl
  simp only [forEach, hsources, hsources', hsame]
  simp

/-- A path is either complete or not. -/
theorem wants_incompletePaths (path : Path) :
    ForEach.incompletePaths.wants path = !ForEach.completePaths.wants path := by
  rcases path with ⟨_ | _, _ | _⟩ <;> rfl

theorem forEach_partition (paths : Paths) :
    (paths.forEach .any).Perm
        (paths.forEach .completePaths ++ paths.forEach .incompletePaths) ∧
      (paths.forEach .completePaths).Disjoint (paths.forEach .incompletePaths) := by
  rw [forEach_eq_filter _ .completePaths, forEach_eq_filter _ .incompletePaths]
  simp only [funext wants_incompletePaths]
  refine ⟨(List.filter_append_perm _ _).symm, ?_⟩
  intro path hcomplete hincomplete
  rw [List.mem_filter] at hcomplete hincomplete
  rw [hcomplete.2] at hincomplete
  exact absurd hincomplete.2 (by decide)

/-- Complete paths are told apart by the ID of their source. -/
theorem idsOf_completePaths_nodup :
    ((paths.forEach .completePaths).map idsOf).Nodup := by
  refine List.Nodup.map_on ?_ (forEach_eq_filter paths _ ▸ forEach_any_nodup.filter _)
  intro a ha b hb heq
  obtain ⟨k, source, player, hpath, rfl⟩ := mem_forEach_completePaths_iff.mp ha
  obtain ⟨k', source', player', hpath', rfl⟩ := mem_forEach_completePaths_iff.mp hb
  have hid : source.id = source'.id := congrArg Prod.fst heq
  have hk := id_of_lookupSource (lookupPath_eq_some.mp hpath).1
  have hk' := id_of_lookupSource (lookupPath_eq_some.mp hpath').1
  rw [← hpath, ← hpath', ← hk, ← hk', hid]

theorem mem_forEach_incompletePaths {path : Path} (h : path ∈ paths.forEach .incompletePaths) :
    (∃ source, paths.lookupSource source.id = some source ∧ path = (some source, none)) ∨
      ∃ player, paths.lookupPlayer player.id = some player ∧ path = (none, some player) := by
  rw [forEach_eq_filter, List.mem_filter, mem_forEach_any_iff] at h
  obtain ⟨⟨k, source, hsource, rfl⟩ | ⟨k, player, hplayer, -, rfl⟩, hwants⟩ := h
  · rw [lookupPath_of_lookupSource hsource] at hwants ⊢
    have hnone : paths.lookupPlayer source.playerId = none := by
      simpa [ForEach.wants, pathOf] using hwants
    exact .inl ⟨source, id_of_lookupSource hsource ▸ hsource, by rw [pathOf, hnone]⟩
  · exact .inr ⟨player, id_of_lookupPlayer hplayer ▸ hplayer, rfl⟩

/-- Incomplete paths are told apart by their IDs as long as no player is nameless. -/
theorem idsOf_incompletePaths_nodup (hnamed : paths.lookupPlayer "" = none) :
    ((paths.forEach .incompletePaths).map idsOf).Nodup := by
  have hid : ∀ player, paths.lookupPlayer player.id = some player → player.id ≠ "" := by
    intro player hplayer hempty
    rw [hempty, hnamed] at hplayer
    cases hplayer
  refine List.Nodup.map_on ?_ (forEach_eq_filter paths _ ▸ forEach_any_nodup.filter _)
  intro a ha b hb heq
  rcases mem_forEach_incompletePaths ha with
    ⟨source, hsource, rfl⟩ | ⟨player, hplayer, rfl⟩ <;>
  rcases mem_forEach_incompletePaths hb with
    ⟨source', hsource', rfl⟩ | ⟨player', hplayer', rfl⟩
  · have hsame : source.id = source'.id := congrArg Prod.fst heq
    rw [hsame, hsource'] at hsource
    rw [Option.some.inj hsource]
  · exact absurd (congrArg Prod.snd heq).symm (hid player' hplayer')
  · exact absurd (congrArg Prod.snd heq) (hid player hplayer)
  · have hsame : player.id = player'.id := congrArg Prod.snd heq
    rw [hsame, hplayer'] at hplayer
    rw [Option.some.inj hplayer]

end Paths

variable [MaybeBool M]

namespace Daemon

open Paths in
/-- Everything registered is visited exactly once: sources on their paths, players that no
source belongs to on their own, and each mode visits its part of that.  `GetPaths` returns
the complete paths and the incomplete ones, each of them once. -/
theorem enumeration_partition :
    (∀ paths : Paths,
      (paths.forEach .any).Nodup ∧
      (∀ path, path ∈ paths.forEach .any ↔
        (∃ k source, paths.lookupSource k = some source ∧ path = paths.lookupPath k) ∨
          ∃ k player, paths.lookupPlayer k = some player ∧
            (∀ j source, paths.lookupSource j = some source → source.playerId ≠ player.id) ∧
            path = (none, some player)) ∧
      (∀ k source, paths.lookupSource k = some source →
        (paths.forEach .any).countP (fun path => path.1 = some source) = 1 ∧
          paths.lookupPath k ∈ paths.forEach .any) ∧
      (∀ mode, paths.forEach mode = (paths.forEach .any).filter mode.wants) ∧
      paths.forEach .incompletePaths =
        paths.forEach .unconnectedSources ++ paths.forEach .unconnectedPlayers ∧
      (paths.forEach .any).Perm
        (paths.forEach .completePaths ++ paths.forEach .incompletePaths) ∧
      (paths.forEach .completePaths).Disjoint (paths.forEach .incompletePaths) ∧
      ∀ k player, paths.lookupPlayer k = some player →
        ∃ path ∈ paths.forEach .any, path.2 = some player) ∧
    ∀ d : Daemon M V, (system M V).Reachable d →
      (∃ d', (system M V).step d (.query .paths) = some d' ∧
        d'.log = d.log ++ [.replied d.served (.getPaths
          ((d.data.audioPaths.forEach .completePaths).map idsOf)
          ((d.data.audioPaths.forEach .incompletePaths).map idsOf))]) ∧
      ((d.data.audioPaths.forEach .completePaths).map idsOf).Nodup ∧
      ((d.data.audioPaths.forEach .incompletePaths).map idsOf).Nodup := by
  refine ⟨fun paths => ?_, fun d hreach => ⟨?_, ?_, ?_⟩⟩
  · obtain ⟨hperm, hdisjoint⟩ := forEach_partition paths
    exact ⟨forEach_any_nodup, fun _ => mem_forEach_any_iff,
      fun _ _ hsource => forEach_any_source hsource, forEach_eq_filter paths,
      forEach_incompletePaths, hperm, hdisjoint,
      fun _ _ hplayer => exists_path_of_player hplayer⟩
  · exact ⟨_, step_eq_some.mpr (getPaths_run d.served d.next), rfl⟩
  · exact idsOf_completePaths_nodup
  · exact idsOf_incompletePaths_nodup (named_of_reachable hreach)

/-- The only path there is is listed as a complete one. -/
theorem enumeration_partition_deferred : ∃ d d' : Daemon (Option Bool) Unit,
    (system (Option Bool) Unit).Run deferralEvents d ∧
      (system (Option Bool) Unit).step d (.query .paths) = some d' ∧
      d'.log = d.log ++ [.replied d.served (.getPaths [("source", "player")] [])] := by
  have hexec : ((system (Option Bool) Unit).exec (system (Option Bool) Unit).init
      deferralEvents).map (fun d =>
        ((d.data.audioPaths.forEach .completePaths).map Paths.idsOf,
          (d.data.audioPaths.forEach .incompletePaths).map Paths.idsOf)) =
      some ([("source", "player")], []) := by decide +kernel
  obtain ⟨d, hrun, hseen⟩ := System.exists_run_of_exec hexec
  obtain ⟨hcomplete, hincomplete⟩ := Prod.mk.inj hseen
  obtain ⟨⟨d', hstep, hlog⟩, -⟩ := enumeration_partition.2 d hrun.reachable
  rw [hcomplete, hincomplete] at hlog
  exact ⟨d, d', hrun, hstep, hlog⟩

end Daemon

end TapSwitch
