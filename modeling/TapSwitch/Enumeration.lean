import Mathlib.Data.List.Nodup
import TapSwitch.AudioPath

set_option autoImplicit false

/-!
# Enumerating paths

`for_each()` visits the sources, each with its player if there is one, and then the
players that no source belongs to.  Its modes are dispatched in three places; here they
are shown to be nothing but filters on what mode `ANY` visits.
-/

namespace TapSwitch

open Library

namespace Paths

/-- Does the mode ask for such a path? -/
def ForEach.wants : ForEach → Path → Bool
  | .any, _ => true
  | .completePaths, path => path.1.isSome && path.2.isSome
  | .incompletePaths, path => path.1.isNone || path.2.isNone
  | .unconnectedSources, path => path.2.isNone
  | .unconnectedPlayers, path => path.1.isNone

/-- The path on which a registered source is. -/
def pathOf (paths : Paths) (source : Source) : Path :=
  (some source, paths.lookupPlayer source.playerId)

/-- No source belongs to the player. -/
def unconnected (paths : Paths) (player : Player) : Bool :=
  !paths.sources.toList.any fun source => source.playerId == player.id

/-- The players that no source belongs to. -/
def lonePaths (paths : Paths) : List Path :=
  (paths.players.toList.filter paths.unconnected).map fun player => (none, some player)

variable {paths : Paths}

theorem lookupPath_of_lookupSource {k : String} {source : Source}
    (h : paths.lookupSource k = some source) : paths.lookupPath k = paths.pathOf source := by
  simp [lookupPath, h, pathOf]

theorem mem_sources_iff {source : Source} :
    source ∈ paths.sources.toList ↔ paths.lookupSource source.id = some source :=
  KeyedMap.mem_toList_iff

theorem mem_players_iff {player : Player} :
    player ∈ paths.players.toList ↔ paths.lookupPlayer player.id = some player :=
  KeyedMap.mem_toList_iff

theorem unconnected_iff {player : Player} :
    paths.unconnected player = true ↔
      ∀ k source, paths.lookupSource k = some source → source.playerId ≠ player.id := by
  simp only [unconnected, Bool.not_eq_true', List.any_eq_false, beq_iff_eq, mem_sources_iff]
  constructor
  · intro h k source hsource
    exact h source (id_of_lookupSource hsource ▸ hsource)
  · exact fun h source hsource => h source.id source hsource

/-! ## The two loops -/

/-- A source is visited on its path, if the mode asks for that path. -/
theorem forEachSource_eq (mode : ForEach) (source : Source) :
    paths.forEachSource mode source =
      if mode ≠ .unconnectedPlayers ∧ mode.wants (paths.pathOf source) = true then
        [paths.pathOf source]
      else [] := by
  cases h : paths.lookupPlayer source.playerId <;> cases mode <;>
    simp [forEachSource, ForEach.wants, pathOf, h]

theorem flatMap_forEachSource (paths : Paths) (mode : ForEach) (sources : List Source) :
    (if mode ≠ .unconnectedPlayers then sources.flatMap (paths.forEachSource mode) else []) =
      (sources.map paths.pathOf).filter mode.wants := by
  induction sources with
  | nil => simp
  | cons source rest ih =>
      by_cases hmode : mode = .unconnectedPlayers
      · subst hmode
        simp [ForEach.wants, pathOf]
      · simp only [ne_eq, hmode, not_false_eq_true, if_true, List.flatMap_cons, List.map_cons,
          List.filter_cons, forEachSource_eq, true_and] at ih ⊢
        rw [ih]
        split <;> rfl

theorem flatMap_forEachPlayer (players : List Player) :
    players.flatMap paths.forEachPlayer =
      (players.filter paths.unconnected).map fun player => (none, some player) := by
  induction players with
  | nil => rfl
  | cons player rest ih =>
      rw [List.flatMap_cons, ih, List.filter_cons]
      unfold forEachPlayer unconnected
      split <;> rename_i h <;> simp [h]

/-! ## The modes -/

theorem forEach_any :
    paths.forEach .any = paths.sources.toList.map paths.pathOf ++ paths.lonePaths := by
  have hsources := flatMap_forEachSource paths .any paths.sources.toList
  simp only [forEach, hsources, flatMap_forEachPlayer, lonePaths]
  simp [ForEach.wants]

/-- Every mode visits what it asks for of all that there is to visit, in the same order. -/
theorem forEach_eq_filter (paths : Paths) (mode : ForEach) :
    paths.forEach mode = (paths.forEach .any).filter mode.wants := by
  have hsources := flatMap_forEachSource paths mode paths.sources.toList
  have hlone : paths.lonePaths.filter mode.wants =
      match mode with
      | .any | .incompletePaths | .unconnectedPlayers => paths.lonePaths
      | .completePaths | .unconnectedSources => [] := by
    rw [lonePaths, List.filter_map]
    cases mode <;> simp [ForEach.wants, Function.comp_def]
  rw [forEach_any, List.filter_append, hlone, ← hsources]
  cases mode <;> simp [forEach, flatMap_forEachPlayer, lonePaths]

theorem mem_lonePaths_iff {path : Path} :
    path ∈ paths.lonePaths ↔ ∃ k player, paths.lookupPlayer k = some player ∧
      (∀ j source, paths.lookupSource j = some source → source.playerId ≠ player.id) ∧
      path = (none, some player) := by
  simp only [lonePaths, List.mem_map, List.mem_filter, mem_players_iff, unconnected_iff]
  constructor
  · rintro ⟨player, ⟨hplayer, hlone⟩, rfl⟩
    exact ⟨player.id, player, hplayer, hlone, rfl⟩
  · rintro ⟨k, player, hplayer, hlone, rfl⟩
    exact ⟨player, ⟨id_of_lookupPlayer hplayer ▸ hplayer, hlone⟩, rfl⟩

/-- The paths of the registered sources, and the players that no source belongs to. -/
theorem mem_forEach_any_iff {path : Path} :
    path ∈ paths.forEach .any ↔
      (∃ k source, paths.lookupSource k = some source ∧ path = paths.lookupPath k) ∨
        ∃ k player, paths.lookupPlayer k = some player ∧
          (∀ j source, paths.lookupSource j = some source → source.playerId ≠ player.id) ∧
          path = (none, some player) := by
  rw [forEach_any, List.mem_append, mem_lonePaths_iff]
  refine or_congr_left ?_
  simp only [List.mem_map, mem_sources_iff]
  constructor
  · rintro ⟨source, hsource, rfl⟩
    exact ⟨source.id, source, hsource, (lookupPath_of_lookupSource hsource).symm⟩
  · rintro ⟨k, source, hsource, rfl⟩
    exact ⟨source, id_of_lookupSource hsource ▸ hsource, (lookupPath_of_lookupSource hsource).symm⟩

theorem pathOf_injective : Function.Injective paths.pathOf := by
  intro a b h
  exact Option.some.inj (congrArg Prod.fst h)

/-- Nothing is visited twice. -/
theorem forEach_any_nodup : (paths.forEach .any).Nodup := by
  rw [forEach_any, List.nodup_append]
  refine ⟨List.Nodup.map pathOf_injective paths.sources.toList_nodup, ?_, ?_⟩
  · refine List.Nodup.map ?_ (paths.players.toList_nodup.filter _)
    intro a b h
    exact Option.some.inj (congrArg Prod.snd h)
  · rintro a ha b hb rfl
    obtain ⟨source, -, rfl⟩ := List.mem_map.mp ha
    obtain ⟨k, player, -, -, heq⟩ := mem_lonePaths_iff.mp hb
    exact absurd (congrArg Prod.fst heq) (by simp [pathOf])

theorem mem_forEach_completePaths_iff {path : Path} :
    path ∈ paths.forEach .completePaths ↔ ∃ k source player,
      paths.lookupPath k = (some source, some player) ∧ path = (some source, some player) := by
  rw [forEach_eq_filter, List.mem_filter, mem_forEach_any_iff]
  constructor
  · rintro ⟨⟨k, source, hsource, rfl⟩ | ⟨k, player, -, -, rfl⟩, hwants⟩
    · rw [lookupPath_of_lookupSource hsource, pathOf] at hwants ⊢
      simp only [ForEach.wants, Option.isSome_some, Bool.true_and] at hwants
      obtain ⟨player, hplayer⟩ := Option.isSome_iff_exists.mp hwants
      refine ⟨k, source, player, ?_, by rw [hplayer]⟩
      exact lookupPath_eq_some.mpr ⟨hsource, hplayer⟩
    · simp [ForEach.wants] at hwants
  · rintro ⟨k, source, player, hpath, rfl⟩
    exact ⟨.inl ⟨k, source, (lookupPath_eq_some.mp hpath).1, hpath.symm⟩, rfl⟩

end Paths

end TapSwitch
