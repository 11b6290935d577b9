import TapSwitch.Enumeration

set_option autoImplicit false

/-!
# What the registry holds after any history

A registry is filled by `add_player()` and `add_source()` alone.  What it holds for an
ID depends on the registrations of that ID and kind only: the first one names the
component, and a source its player, the last one provides the D-Bus proxy.
-/

namespace TapSwitch

open Library

/-- One call of `add_player()` or `add_source()`. -/
inductive Registration where
  | player (player : Player)
  | source (source : Source)
  deriving DecidableEq, Repr

def Registration.player? : Registration → Option Player
  | .player p => some p
  | .source _ => none

def Registration.source? : Registration → Option Source
  | .player _ => none
  | .source s => some s

namespace Paths

/-- Carry out a registration. -/
def register (paths : Paths) : Registration → Paths × AddResult
  | .player p => paths.addPlayer p
  | .source s => paths.addSource s

/-- The registry after a history of registrations, oldest first. -/
def afterAll (history : List Registration) : Paths :=
  history.foldl (fun paths r => (paths.register r).1) .empty

/-- The players registered under an ID, oldest first. -/
def playersNamed (history : List Registration) (k : String) : List Player :=
  (history.filterMap Registration.player?).filter fun p => p.id = k

/-- The sources registered under an ID, oldest first. -/
def sourcesNamed (history : List Registration) (k : String) : List Source :=
  (history.filterMap Registration.source?).filter fun s => s.id = k

theorem afterAll_concat (history : List Registration) (r : Registration) :
    afterAll (history ++ [r]) = ((afterAll history).register r).1 := by
  simp [afterAll]

/-- Each of the two maps has a history of its own. -/
theorem afterAll_eq (history : List Registration) :
    afterAll history =
      { players := .upsertAll Player.takeProxyFrom_id (history.filterMap Registration.player?)
        sources := .upsertAll Source.takeProxyFrom_id (history.filterMap Registration.source?) } := by
  induction history using List.reverseRecOn with
  | nil => rfl
  | append_singleton rest r ih =>
      rw [afterAll_concat, ih]
      cases r with
      | player p =>
          have hsources : [Registration.player p].filterMap Registration.source? = [] := rfl
          simp [register, Registration.player?, hsources, KeyedMap.upsertAll_concat, addPlayer,
            addItemPlayer]
      | source s =>
          have hplayers : [Registration.source s].filterMap Registration.player? = [] := rfl
          simp [register, Registration.source?, hplayers, KeyedMap.upsertAll_concat, addSource,
            addItemSource]

theorem lookupPlayer_afterAll (history : List Registration) (k : String) :
    (afterAll history).lookupPlayer k =
      KeyedMap.mergeAll Player.takeProxyFrom (playersNamed history k) := by
  rw [afterAll_eq]
  exact KeyedMap.find?_upsertAll _ k

theorem lookupSource_afterAll (history : List Registration) (k : String) :
    (afterAll history).lookupSource k =
      KeyedMap.mergeAll Source.takeProxyFrom (sourcesNamed history k) := by
  rw [afterAll_eq]
  exact KeyedMap.find?_upsertAll _ k

/-! ## What a registration reports -/

/-- Has the component not been registered before? -/
def AddResult.isNew : AddResult → Bool
  | .newComponent | .newPath => true
  | .updatedComponent | .updatedPath => false

theorem addResult_isNew (inserted havePath : Bool) :
    (addResult inserted havePath).isNew = inserted := by
  cases inserted <;> cases havePath <;> rfl

theorem addPlayer_isNew (paths : Paths) (player : Player) :
    (paths.addPlayer player).2.isNew = (paths.lookupPlayer player.id).isNone := by
  unfold addPlayer
  rw [addResult_isNew]
  exact KeyedMap.upsert_entered paths.players player

theorem addSource_isNew (paths : Paths) (source : Source) :
    (paths.addSource source).2.isNew = (paths.lookupSource source.id).isNone := by
  unfold addSource
  rw [addResult_isNew]
  exact KeyedMap.upsert_entered paths.sources source

/-- There is a path if the enumeration of complete paths has one with that player. -/
theorem addPlayer_havePath_iff (paths : Paths) (player : Player) :
    (paths.addPlayer player).2.havePath = true ↔
      ∃ path ∈ (paths.addPlayer player).1.forEach .completePaths,
        path.2.map (·.id) = some player.id := by
  obtain ⟨stored, hstored, -⟩ := addPlayer_dbusProxy paths player
  have hsources : (paths.addPlayer player).1.sources = paths.sources := rfl
  rw [addPlayer_havePath, List.any_eq_true, ← hsources]
  simp only [mem_sources_iff, beq_iff_eq, mem_forEach_completePaths_iff]
  constructor
  · rintro ⟨source, hsource, hplayer⟩
    have hpath : (paths.addPlayer player).1.lookupPath source.id = (some source, some stored) :=
      lookupPath_eq_some.mpr ⟨hsource, hplayer ▸ hstored⟩
    refine ⟨_, ⟨source.id, source, stored, hpath, rfl⟩, ?_⟩
    exact congrArg some (id_of_lookupPlayer hstored)
  · rintro ⟨_, ⟨k, source, found, hpath, rfl⟩, hid⟩
    obtain ⟨hsource, hfound⟩ := lookupPath_eq_some.mp hpath
    refine ⟨source, id_of_lookupSource hsource ▸ hsource, ?_⟩
    rw [← id_of_lookupPlayer hfound]
    exact Option.some.inj hid

/-- There is a path if the enumeration of complete paths has one with that source. -/
theorem addSource_havePath_iff (paths : Paths) (source : Source) :
    (paths.addSource source).2.havePath = true ↔
      ∃ path ∈ (paths.addSource source).1.forEach .completePaths,
        path.1.map (·.id) = some source.id := by
  have hstored : (paths.addSource source).1.lookupSource source.id =
      some (paths.storedSource source) := by
    rw [addSource_lookupSource, if_pos rfl]
    rfl
  rw [addSource_havePath, Option.isSome_iff_exists]
  simp only [mem_forEach_completePaths_iff]
  constructor
  · rintro ⟨player, hplayer⟩
    have hpath : (paths.addSource source).1.lookupPath source.id =
        (some (paths.storedSource source), some player) :=
      lookupPath_eq_some.mpr ⟨hstored, hplayer⟩
    refine ⟨_, ⟨source.id, paths.storedSource source, player, hpath, rfl⟩, ?_⟩
    exact congrArg some (id_of_lookupSource hstored)
  · rintro ⟨_, ⟨k, found, player, hpath, rfl⟩, hid⟩
    obtain ⟨hsource, hplayer⟩ := lookupPath_eq_some.mp hpath
    have hk : source.id = k := (Option.some.inj hid).symm.trans (id_of_lookupSource hsource)
    rw [← hk, hstored] at hsource
    rw [← Option.some.inj hsource] at hplayer
    exact ⟨player, hplayer⟩

/-! ## What remains of a history -/

/-- A registry as a history of registrations leaves it. -/
structure Remembers (history : List Registration) (paths : Paths) : Prop where
  /-- Nothing is found that has not been registered, and nothing is lost. -/
  player_none : ∀ k, paths.lookupPlayer k = none ↔
    ∀ player, .player player ∈ history → player.id ≠ k
  player_id : ∀ k, (paths.lookupPlayer k).map (·.id) =
    (playersNamed history k).head?.map fun _ => k
  /-- The name is that of the first registration. -/
  player_name : ∀ k, (paths.lookupPlayer k).map (·.name) =
    (playersNamed history k).head?.map (·.name)
  /-- The proxy is that of the last registration. -/
  player_proxy : ∀ k, (paths.lookupPlayer k).map (·.dbusProxy) =
    (playersNamed history k).getLast?.map (·.dbusProxy)
  source_none : ∀ k, paths.lookupSource k = none ↔
    ∀ source, .source source ∈ history → source.id ≠ k
  source_id : ∀ k, (paths.lookupSource k).map (·.id) =
    (sourcesNamed history k).head?.map fun _ => k
  source_name : ∀ k, (paths.lookupSource k).map (·.name) =
    (sourcesNamed history k).head?.map (·.name)
  /-- So is the player the source belongs to. -/
  source_playerId : ∀ k, (paths.lookupSource k).map (·.playerId) =
    (sourcesNamed history k).head?.map (·.playerId)
  source_proxy : ∀ k, (paths.lookupSource k).map (·.dbusProxy) =
    (sourcesNamed history k).getLast?.map (·.dbusProxy)

theorem mem_players_of_history {history : List Registration} {player : Player} :
    player ∈ history.filterMap Registration.player? ↔ .player player ∈ history := by
  simp only [List.mem_filterMap]
  constructor
  · rintro ⟨_ | _, hmem, heq⟩
    · rwa [← Option.some.inj heq]
    · simp [Registration.player?] at heq
  · exact fun hmem => ⟨_, hmem, rfl⟩

theorem mem_sources_of_history {history : List Registration} {source : Source} :
    source ∈ history.filterMap Registration.source? ↔ .source source ∈ history := by
  simp only [List.mem_filterMap]
  constructor
  · rintro ⟨_ | _, hmem, heq⟩
    · simp [Registration.source?] at heq
    · rwa [← Option.some.inj heq]
  · exact fun hmem => ⟨_, hmem, rfl⟩

/-- Elements filtered by their key have that key. -/
theorem head?_map_key {α : Type} {key : α → String} {k : String} (as : List α) :
    (as.filter fun a => key a = k).head?.map key =
      (as.filter fun a => key a = k).head?.map fun _ => k := by
  refine Option.map_congr ?_
  intro a ha
  simpa using List.of_mem_filter (List.mem_of_head? ha)

theorem remembers_afterAll (history : List Registration) :
    Remembers history (afterAll history) where
  player_none k := by
    rw [lookupPlayer_afterAll, KeyedMap.mergeAll_eq_none_iff, playersNamed,
      List.filter_eq_nil_iff]
    simp only [mem_players_of_history, decide_eq_true_eq, ne_eq]
  player_id k := by
    rw [lookupPlayer_afterAll, KeyedMap.mergeAll_map_first Player.takeProxyFrom_id]
    exact head?_map_key _
  player_name k := by
    rw [lookupPlayer_afterAll, KeyedMap.mergeAll_map_first Player.takeProxyFrom_name]
  player_proxy k := by
    rw [lookupPlayer_afterAll, KeyedMap.mergeAll_map_last Player.takeProxyFrom_dbusProxy]
  source_none k := by
    rw [lookupSource_afterAll, KeyedMap.mergeAll_eq_none_iff, sourcesNamed,
      List.filter_eq_nil_iff]
    simp only [mem_sources_of_history, decide_eq_true_eq, ne_eq]
  source_id k := by
    rw [lookupSource_afterAll, KeyedMap.mergeAll_map_first Source.takeProxyFrom_id]
    exact head?_map_key _
  source_name k := by
    rw [lookupSource_afterAll, KeyedMap.mergeAll_map_first Source.takeProxyFrom_name]
  source_playerId k := by
    rw [lookupSource_afterAll, KeyedMap.mergeAll_map_first Source.takeProxyFrom_playerId]
  source_proxy k := by
    rw [lookupSource_afterAll, KeyedMap.mergeAll_map_last Source.takeProxyFrom_dbusProxy]

/-- The registry after any history of registrations: what is found under each ID, which
paths there are, and what a further registration reports. -/
theorem registry_contents (history : List Registration) :
    Remembers history (afterAll history) ∧
    (∀ k, (afterAll history).lookupPath k =
      ((afterAll history).lookupSource k,
        ((afterAll history).lookupSource k).bind fun source =>
          (afterAll history).lookupPlayer source.playerId)) ∧
    (∀ player : Player,
      (((afterAll history).addPlayer player).2.isNew = true ↔
        (afterAll history).lookupPlayer player.id = none) ∧
      (((afterAll history).addPlayer player).2.havePath = true ↔
        ∃ path ∈ ((afterAll history).addPlayer player).1.forEach .completePaths,
          path.2.map (·.id) = some player.id)) ∧
    ∀ source : Source,
      (((afterAll history).addSource source).2.isNew = true ↔
        (afterAll history).lookupSource source.id = none) ∧
      (((afterAll history).addSource source).2.havePath = true ↔
        ∃ path ∈ ((afterAll history).addSource source).1.forEach .completePaths,
          path.1.map (·.id) = some source.id) := by
  refine ⟨remembers_afterAll history, ?_, ?_, ?_⟩
  · intro k
    unfold lookupPath
    cases (afterAll history).lookupSource k <;> rfl
  · intro player
    rw [addPlayer_isNew, Option.isNone_iff_eq_none]
    exact ⟨Iff.rfl, addPlayer_havePath_iff _ _⟩
  · intro source
    rw [addSource_isNew, Option.isNone_iff_eq_none]
    exact ⟨Iff.rfl, addSource_havePath_iff _ _⟩

/-- A player registers, restarts, and registers again under another name. -/
def restartHistory : List Registration :=
  [.player ⟨"player", "Player", some ⟨0, ":1.1", "/player"⟩⟩,
    .source ⟨"source", "Source", "player", some ⟨1, ":1.1", "/source"⟩⟩,
    .player ⟨"player", "Funky Player", some ⟨2, ":1.2", "/funky"⟩⟩]

/-- It keeps its first name, and gets its last proxy. -/
theorem registry_contents_restarted :
    ((afterAll restartHistory).lookupPlayer "player").map (·.name) = some "Player" ∧
      ((afterAll restartHistory).lookupPlayer "player").map (·.dbusProxy) =
        some (some ⟨2, ":1.2", "/funky"⟩) := by
  have hcontents := (registry_contents restartHistory).1
  exact ⟨hcontents.player_name "player", hcontents.player_proxy "player"⟩

end Paths

end TapSwitch
