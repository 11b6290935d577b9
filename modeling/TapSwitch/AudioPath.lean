import TapSwitch.Bus
import TapSwitch.Library.KeyedMap

set_option autoImplicit false

/-!
# Players, sources and the registry (`audiopath.hh`, `audiopath.cc`)

`Paths` holds all registered players and sources, each under its own ID.  A source
names the player it belongs to; a path is complete if that player is registered.
Registering an ID again replaces the D-Bus proxy and nothing else.
-/

namespace TapSwitch

open Library

/-- `AudioPath::Player` -/
structure Player where
  id : String
  name : String
  /-- The `unique_ptr` to the proxy. -/
  dbusProxy : Option Proxy
  deriving DecidableEq, Repr

/-- `AudioPath::Source` -/
structure Source where
  id : String
  name : String
  playerId : String
  /-- The `unique_ptr` to the proxy. -/
  dbusProxy : Option Proxy
  deriving DecidableEq, Repr

/-- `Player::take_proxy_from()` -/
def Player.takeProxyFrom (player other : Player) : Player :=
  { player with dbusProxy := other.dbusProxy }

@[simp] theorem Player.takeProxyFrom_id (player other : Player) :
    (player.takeProxyFrom other).id = player.id := rfl

@[simp] theorem Player.takeProxyFrom_name (player other : Player) :
    (player.takeProxyFrom other).name = player.name := rfl

@[simp] theorem Player.takeProxyFrom_dbusProxy (player other : Player) :
    (player.takeProxyFrom other).dbusProxy = other.dbusProxy := rfl

/-- `Source::take_proxy_from()` -/
def Source.takeProxyFrom (source other : Source) : Source :=
  { source with dbusProxy := other.dbusProxy }

@[simp] theorem Source.takeProxyFrom_id (source other : Source) :
    (source.takeProxyFrom other).id = source.id := rfl

@[simp] theorem Source.takeProxyFrom_name (source other : Source) :
    (source.takeProxyFrom other).name = source.name := rfl

@[simp] theorem Source.takeProxyFrom_playerId (source other : Source) :
    (source.takeProxyFrom other).playerId = source.playerId := rfl

@[simp] theorem Source.takeProxyFrom_dbusProxy (source other : Source) :
    (source.takeProxyFrom other).dbusProxy = other.dbusProxy := rfl

/-- `Player::get_dbus_proxy()`, which dereferences the pointer unchecked. -/
def Player.getDbusProxy {σ : Type} (player : Player) : EStateM Fault σ Proxy :=
  deref .nullProxy player.dbusProxy

/-- `Source::get_dbus_proxy()`, which dereferences the pointer unchecked. -/
def Source.getDbusProxy {σ : Type} (source : Source) : EStateM Fault σ Proxy :=
  deref .nullProxy source.dbusProxy

/-- `AudioPath::Paths` -/
structure Paths where
  players : KeyedMap String Player Player.id
  sources : KeyedMap String Source Source.id

namespace Paths

/-- The empty registry. -/
def empty : Paths where
  players := .empty
  sources := .empty

/-- `Paths::Path`: a source and a player, either of which may be missing. -/
abbrev Path : Type := Option Source × Option Player

/-- `Paths::AddResult` -/
inductive AddResult where
  | newComponent
  | updatedComponent
  | newPath
  | updatedPath
  deriving DecidableEq, Repr

/-- `Paths::lookup_player()` -/
def lookupPlayer (paths : Paths) (playerId : String) : Option Player :=
  paths.players.find? playerId

/-- `Paths::lookup_source()` -/
def lookupSource (paths : Paths) (sourceId : String) : Option Source :=
  paths.sources.find? sourceId

/-- `Paths::lookup_path()` -/
def lookupPath (paths : Paths) (sourceId : String) : Path :=
  match paths.lookupSource sourceId with
  | none => (none, none)
  | some source => (some source, paths.lookupPlayer source.playerId)

/-- The result code both `add` functions compute from what they found. -/
def addResult (inserted havePath : Bool) : AddResult :=
  if !inserted then
    if havePath then .updatedPath else .updatedComponent
  else
    if havePath then .newPath else .newComponent

/-- `add_item<Player>()`: the registry, the player as it is stored now, and whether
it was inserted. -/
def addItemPlayer (paths : Paths) (player : Player) : Paths × Player × Bool :=
  let result := paths.players.upsert Player.takeProxyFrom Player.takeProxyFrom_id player
  ({ paths with players := result.1 }, result.2)

/-- `add_item<Source>()` -/
def addItemSource (paths : Paths) (source : Source) : Paths × Source × Bool :=
  let result := paths.sources.upsert Source.takeProxyFrom Source.takeProxyFrom_id source
  ({ paths with sources := result.1 }, result.2)

/-- `Paths::add_player()`: there is a path if any source belongs to the player. -/
def addPlayer (paths : Paths) (player : Player) : Paths × AddResult :=
  let (paths, p, inserted) := paths.addItemPlayer player
  let havePath := paths.sources.toList.any fun src => src.playerId == p.id
  (paths, addResult inserted havePath)

/-- `Paths::add_source()`: there is a path if the player named by the source *as it
is stored now* is registered. -/
def addSource (paths : Paths) (source : Source) : Paths × AddResult :=
  let (paths, s, inserted) := paths.addItemSource source
  let havePath := (paths.lookupPlayer s.playerId).isSome
  (paths, addResult inserted havePath)

/-- `Paths::ForEach` -/
inductive ForEach where
  | any
  | completePaths
  | incompletePaths
  | unconnectedSources
  | unconnectedPlayers
  deriving DecidableEq, Repr

/-- The call of `for_each()` for one source, if the mode asks for it. -/
def forEachSource (paths : Paths) (mode : ForEach) (source : Source) : List Path :=
  match paths.lookupPlayer source.playerId with
  | some player =>
      match mode with
      | .any | .completePaths => [(some source, some player)]
      | .incompletePaths | .unconnectedSources | .unconnectedPlayers => []
  | none =>
      match mode with
      | .any | .incompletePaths | .unconnectedSources => [(some source, none)]
      | .completePaths | .unconnectedPlayers => []

/-- The call of `for_each()` for one player, if no source belongs to it. -/
def forEachPlayer (paths : Paths) (player : Player) : List Path :=
  if paths.sources.toList.any fun source => source.playerId == player.id then []
  else [(none, some player)]

/-- `Paths::for_each()`: the paths its callback is called for, in this order. -/
def forEach (paths : Paths) (mode : ForEach) : List Path :=
  (if mode ≠ .unconnectedPlayers then
    paths.sources.toList.flatMap (paths.forEachSource mode)
  else []) ++
  match mode with
  | .any | .incompletePaths | .unconnectedPlayers =>
      paths.players.toList.flatMap paths.forEachPlayer
  | .completePaths | .unconnectedSources => []

/-! ## Looking things up -/

variable {paths : Paths}

theorem id_of_lookupPlayer {k : String} {player : Player}
    (h : paths.lookupPlayer k = some player) : player.id = k :=
  KeyedMap.key_of_find? h

theorem id_of_lookupSource {k : String} {source : Source}
    (h : paths.lookupSource k = some source) : source.id = k :=
  KeyedMap.key_of_find? h

@[simp] theorem lookupPlayer_empty (k : String) : empty.lookupPlayer k = none := by
  simp [lookupPlayer, empty]

@[simp] theorem lookupSource_empty (k : String) : empty.lookupSource k = none := by
  simp [lookupSource, empty]

/-- A complete path is a registered source whose player is registered. -/
theorem lookupPath_eq_some {k : String} {source : Source} {player : Player} :
    paths.lookupPath k = (some source, some player) ↔
      paths.lookupSource k = some source ∧
        paths.lookupPlayer source.playerId = some player := by
  unfold lookupPath
  cases h : paths.lookupSource k with
  | none => simp
  | some found => simp +contextual

/-! ## What registration does to lookups -/

@[simp] theorem addPlayer_lookupSource (paths : Paths) (player : Player) (k : String) :
    (paths.addPlayer player).1.lookupSource k = paths.lookupSource k := rfl

@[simp] theorem addSource_lookupPlayer (paths : Paths) (source : Source) (k : String) :
    (paths.addSource source).1.lookupPlayer k = paths.lookupPlayer k := rfl

/-- The player stored afterwards: the new one, or the old one with a new proxy. -/
theorem addPlayer_lookupPlayer (paths : Paths) (player : Player) (k : String) :
    (paths.addPlayer player).1.lookupPlayer k =
      if player.id = k then
        some ((paths.lookupPlayer k).elim player (·.takeProxyFrom player))
      else paths.lookupPlayer k := by
  split
  · rename_i h
    subst h
    exact (KeyedMap.find?_upsert_self paths.players player).trans
      (congrArg some (KeyedMap.upsert_stored paths.players player))
  · rename_i h
    exact KeyedMap.find?_upsert_of_ne paths.players h

/-- The source stored afterwards: the new one, or the old one with a new proxy. -/
theorem addSource_lookupSource (paths : Paths) (source : Source) (k : String) :
    (paths.addSource source).1.lookupSource k =
      if source.id = k then
        some ((paths.lookupSource k).elim source (·.takeProxyFrom source))
      else paths.lookupSource k := by
  split
  · rename_i h
    subst h
    exact (KeyedMap.find?_upsert_self paths.sources source).trans
      (congrArg some (KeyedMap.upsert_stored paths.sources source))
  · rename_i h
    exact KeyedMap.find?_upsert_of_ne paths.sources h

/-- Whether it is new or not, the player registered last has the proxy given. -/
theorem addPlayer_dbusProxy (paths : Paths) (player : Player) :
    ∃ stored, (paths.addPlayer player).1.lookupPlayer player.id = some stored ∧
      stored.dbusProxy = player.dbusProxy := by
  rw [addPlayer_lookupPlayer, if_pos rfl]
  refine ⟨_, rfl, ?_⟩
  cases paths.lookupPlayer player.id <;> rfl

/-- So has the source registered last. -/
theorem addSource_dbusProxy (paths : Paths) (source : Source) :
    ∃ stored, (paths.addSource source).1.lookupSource source.id = some stored ∧
      stored.dbusProxy = source.dbusProxy := by
  rw [addSource_lookupSource, if_pos rfl]
  refine ⟨_, rfl, ?_⟩
  cases paths.lookupSource source.id <;> rfl

/-- Is the component registered part of a complete path? -/
def AddResult.havePath : AddResult → Bool
  | .newComponent | .updatedComponent => false
  | .newPath | .updatedPath => true

theorem addResult_havePath (inserted havePath : Bool) :
    (addResult inserted havePath).havePath = havePath := by
  cases inserted <;> cases havePath <;> rfl

theorem addPlayer_havePath (paths : Paths) (player : Player) :
    (paths.addPlayer player).2.havePath =
      paths.sources.toList.any fun source => source.playerId == player.id := by
  have hid : (paths.addItemPlayer player).2.1.id = player.id :=
    KeyedMap.key_of_find? (KeyedMap.find?_upsert_self paths.players player)
  unfold addPlayer
  rw [addResult_havePath, hid]
  rfl

/-- The source as it is stored after `add_source()`. -/
def storedSource (paths : Paths) (source : Source) : Source :=
  (paths.lookupSource source.id).elim source (·.takeProxyFrom source)

theorem addSource_havePath (paths : Paths) (source : Source) :
    (paths.addSource source).2.havePath =
      (paths.lookupPlayer (paths.storedSource source).playerId).isSome := by
  have hstored : (paths.addItemSource source).2.1 = paths.storedSource source :=
    KeyedMap.upsert_stored paths.sources source
  unfold addSource
  rw [addResult_havePath, hstored]
  rfl

/-- Everything registered in `old` is still registered in `new`, and every source
still belongs to the same player. -/
structure Extends (old new : Paths) : Prop where
  source : ∀ {k : String} {source : Source}, old.lookupSource k = some source →
    ∃ stored, new.lookupSource k = some stored ∧ stored.playerId = source.playerId
  player : ∀ {k : String} {player : Player}, old.lookupPlayer k = some player →
    ∃ stored, new.lookupPlayer k = some stored

theorem Extends.refl (paths : Paths) : paths.Extends paths where
  source h := ⟨_, h, rfl⟩
  player h := ⟨_, h⟩

theorem extends_addPlayer (paths : Paths) (player : Player) :
    paths.Extends (paths.addPlayer player).1 where
  source h := ⟨_, h, rfl⟩
  player h := by
    rw [addPlayer_lookupPlayer]
    split
    · exact ⟨_, rfl⟩
    · exact ⟨_, h⟩

theorem extends_addSource (paths : Paths) (source : Source) :
    paths.Extends (paths.addSource source).1 where
  source h := by
    rw [addSource_lookupSource, h]
    split
    · exact ⟨_, rfl, rfl⟩
    · exact ⟨_, rfl, rfl⟩
  player h := ⟨_, h⟩

/-- Complete paths stay complete. -/
theorem Extends.path {old new : Paths} (h : old.Extends new) {k : String}
    {source : Source} {player : Player}
    (hpath : old.lookupPath k = (some source, some player)) :
    ∃ source' player', new.lookupPath k = (some source', some player') ∧
      source'.playerId = source.playerId ∧ player'.id = player.id := by
  obtain ⟨hsource, hplayer⟩ := lookupPath_eq_some.mp hpath
  obtain ⟨source', hsource', hsame⟩ := h.source hsource
  obtain ⟨player', hplayer'⟩ := h.player hplayer
  rw [← hsame] at hplayer'
  refine ⟨source', player', lookupPath_eq_some.mpr ⟨hsource', hplayer'⟩, hsame, ?_⟩
  rw [id_of_lookupPlayer hplayer', id_of_lookupPlayer hplayer, hsame]

end Paths

end TapSwitch
