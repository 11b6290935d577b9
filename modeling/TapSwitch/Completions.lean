import Mathlib.Data.String.Basic
import TapSwitch.CreationOrder
import TapSwitch.GetPaths
import TapSwitch.Registry

set_option autoImplicit false

/-!
# What is known about the components

Players and sources are registered when their proxies have been created, in whatever
order that happens.  The registry of a running daemon is the one that this history of
completed registrations leaves, and nothing else that happens has any influence on it.
So what clients are told about components and paths can be read off the history.
-/

namespace TapSwitch

open Library

variable {M V : Type}

/-! ## The history of a run -/

/-- What is registered when the creation of the proxy has completed. -/
def Creation.registration (success : Bool) : Creation → Registration
  | .player _ invocation playerId playerName dest path =>
      .player ⟨playerId, playerName, newProxy success invocation dest path⟩
  | .source _ invocation sourceId sourceName playerId dest path =>
      .source ⟨sourceId, sourceName, playerId, newProxy success invocation dest path⟩

/-- All registrations that have been carried out, oldest first. -/
def registrations (evs : List (Event V)) : List Registration :=
  (creationBook evs).completed.map fun c => c.1.registration c.2

@[simp] theorem registrations_nil : registrations ([] : List (Event V)) = [] := rfl

theorem registrations_concat_done {evs : List (Event V)} {index : Nat} {creation : Creation}
    (h : (creationBook evs).waiting[index]? = some creation) (success : Bool) :
    registrations (evs ++ [.proxyDone index success]) =
      registrations evs ++ [creation.registration success] := by
  simp [registrations, creationBook_concat, CreationBook.enter_proxyDone h]

/-- Nothing else is a registration. -/
theorem registrations_concat_other {evs : List (Event V)} {e : Event V}
    (h : ∀ index success, e = .proxyDone index success →
      (creationBook evs).waiting[index]? = none) :
    registrations (evs ++ [e]) = registrations evs := by
  rw [registrations, creationBook_concat]
  cases hcreation : e.creation evs.length with
  | some creation =>
      rw [CreationBook.enter_creation hcreation]
      rfl
  | none =>
      cases e with
      | proxyDone index success =>
          rw [CreationBook.enter_noCreation (h index success rfl)]
          rfl
      | registerPlayer | registerSource | requestSource | releasePath | setReadyState | query =>
          rw [CreationBook.enter_other hcreation (by simp)]
          rfl

variable [MaybeBool M]

namespace Daemon

/-- The registry of a run is the one its registrations leave. -/
theorem registry_of_run {evs : List (Event V)} {d : Daemon M V} (h : (system M V).Run evs d) :
    d.data.audioPaths = Paths.afterAll (registrations evs) := by
  refine System.run_induction
    (P := fun evs d => d.data.audioPaths = Paths.afterAll (registrations evs)) rfl ?_ h
  intro evs d e d' hrun ih hstep
  have hwaiting := (booked_of_run hrun).waiting
  have hkeep : (∀ index success, e ≠ .proxyDone index success) →
      d.data.audioPaths = Paths.afterAll (registrations (evs ++ [e])) := by
    intro hother
    rw [registrations_concat_other fun index success heq => absurd heq (hother index success)]
    exact ih
  cases steps_of_step hrun.reachable hstep with
  | answered hpassive =>
      refine hkeep ?_
      rintro index success rfl
      exact hpassive
  | creating hcreation =>
      refine hkeep ?_
      rintro index success rfl
      cases hcreation
  | noCreation hnone =>
      rw [registrations_concat_other fun index success heq => by cases heq; rwa [← hwaiting]]
      exact ih
  | playerRegistered hdone | sourceRegistered hdone =>
      rw [registrations_concat_done (hwaiting ▸ hdone), Paths.afterAll_concat, ← ih]
      rfl
  | requested | released | completed | canceled | postponed => exact hkeep (by simp)

end Daemon

/-! ## Asking for a component -/

/-- What `GetPlayerInfo` answers about the player registered in this way; nothing if its
last proxy could not be created. -/
def Daemon.playerInfo (playerId : String) (history : List Player) : Option Reply :=
  match history.head?, history.getLast? with
  | some first, some last =>
      last.dbusProxy.map fun proxy => .getPlayerInfo first.name proxy.name proxy.objectPath
  | _, _ => some (.error .failed ("Audio player \"" ++ playerId ++ "\" not registered"))

/-- What `GetSourceInfo` answers about the source registered in this way. -/
def Daemon.sourceInfo (sourceId : String) (history : List Source) : Option Reply :=
  match history.head?, history.getLast? with
  | some first, some last =>
      last.dbusProxy.map fun proxy =>
        .getSourceInfo first.name first.playerId proxy.name proxy.objectPath
  | _, _ => some (.error .failed ("Audio source \"" ++ sourceId ++ "\" not registered"))

namespace Daemon

variable {evs : List (Event V)} {d : Daemon M V}

/-- What is said about a player, by what its registrations have merged into. -/
theorem playerInfo_eq (history : List Registration) (k : String) :
    playerInfo k (Paths.playersNamed history k) =
      playerInfoReply k ((Paths.afterAll history).lookupPlayer k) := by
  have hname := KeyedMap.mergeAll_map_first Player.takeProxyFrom_name
    (Paths.playersNamed history k)
  have hproxy := KeyedMap.mergeAll_map_last Player.takeProxyFrom_dbusProxy
    (Paths.playersNamed history k)
  rw [← Paths.lookupPlayer_afterAll] at hname hproxy
  unfold playerInfo playerInfoReply
  cases hplayer : (Paths.afterAll history).lookupPlayer k with
  | none =>
      rw [hplayer, Option.map_none, eq_comm, Option.map_eq_none_iff] at hname
      rw [hname]
  | some player =>
      rw [hplayer, Option.map_some, eq_comm, Option.map_eq_some_iff] at hname hproxy
      obtain ⟨first, hfirst, hname⟩ := hname
      obtain ⟨last, hlast, hproxy⟩ := hproxy
      simp only [hfirst, hlast, hname, hproxy]

theorem sourceInfo_eq (history : List Registration) (k : String) :
    sourceInfo k (Paths.sourcesNamed history k) =
      sourceInfoReply k ((Paths.afterAll history).lookupSource k) := by
  have hname := KeyedMap.mergeAll_map_first Source.takeProxyFrom_name
    (Paths.sourcesNamed history k)
  have hplayerId := KeyedMap.mergeAll_map_first Source.takeProxyFrom_playerId
    (Paths.sourcesNamed history k)
  have hproxy := KeyedMap.mergeAll_map_last Source.takeProxyFrom_dbusProxy
    (Paths.sourcesNamed history k)
  rw [← Paths.lookupSource_afterAll] at hname hplayerId hproxy
  unfold sourceInfo sourceInfoReply
  cases hsource : (Paths.afterAll history).lookupSource k with
  | none =>
      rw [hsource, Option.map_none, eq_comm, Option.map_eq_none_iff] at hname
      rw [hname]
  | some source =>
      rw [hsource, Option.map_some, eq_comm, Option.map_eq_some_iff] at hname hplayerId hproxy
      obtain ⟨first, hfirst, hname⟩ := hname
      obtain ⟨last, hlast, hproxy⟩ := hproxy
      obtain ⟨first', hfirst', hplayerId⟩ := hplayerId
      obtain rfl : first = first' := Option.some.inj (hfirst.symm.trans hfirst')
      simp only [hfirst, hlast, hname, hplayerId, hproxy]

/-- Asking for a component, by its registrations. -/
theorem playerInfo_step (h : (system M V).Run evs d) (k : String) :
    (system M V).step d (.query (.playerInfo k)) =
      (playerInfo k (Paths.playersNamed (registrations evs) k)).map d.replying := by
  rw [step_query, playerInfo_eq, ← registry_of_run h]
  rfl

theorem sourceInfo_step (h : (system M V).Run evs d) (k : String) :
    (system M V).step d (.query (.sourceInfo k)) =
      (sourceInfo k (Paths.sourcesNamed (registrations evs) k)).map d.replying := by
  rw [step_query, sourceInfo_eq, ← registry_of_run h]
  rfl

end Daemon

/-! ## Asking for the paths -/

/-- The player that a source belongs to, by its first registration. -/
def ownerIn (history : List Registration) (sourceId : String) : Option String :=
  (Paths.sourcesNamed history sourceId).head?.map (·.playerId)

/-- There has been such a player. -/
def KnownIn (history : List Registration) (playerId : String) : Prop :=
  Paths.playersNamed history playerId ≠ []

/-- What `GetPaths` returns after a history of registrations: first the sources with a
player, then those without one followed by the players without a source, all in the order of
their IDs. -/
structure Lists (history : List Registration) (usable incomplete : List (String × String)) :
    Prop where
  usable_sorted : usable.Pairwise fun a b => a.1 < b.1
  mem_usable : ∀ s p, (s, p) ∈ usable ↔ ownerIn history s = some p ∧ KnownIn history p
  parts : ∃ strays idle : List String,
    incomplete = strays.map (·, "") ++ idle.map ("", ·) ∧
    strays.Pairwise (· < ·) ∧ idle.Pairwise (· < ·) ∧
    (∀ s, s ∈ strays ↔ ∃ p, ownerIn history s = some p ∧ ¬ KnownIn history p) ∧
    ∀ p, p ∈ idle ↔ KnownIn history p ∧ ∀ s, ownerIn history s ≠ some p

/-- There is only one answer. -/
theorem Lists.unique {history : List Registration}
    {usable usable' incomplete incomplete' : List (String × String)}
    (h : Lists history usable incomplete) (h' : Lists history usable' incomplete') :
    usable = usable' ∧ incomplete = incomplete' := by
  obtain ⟨strays, idle, rfl, hstrays, hidle, hmemStrays, hmemIdle⟩ := h.parts
  obtain ⟨strays', idle', rfl, hstrays', hidle', hmemStrays', hmemIdle'⟩ := h'.parts
  refine ⟨?_, ?_⟩
  · let before (a b : String × String) : Prop := a.1 < b.1
    have : Std.Irrefl before := ⟨fun a => lt_irrefl a.1⟩
    have : Std.Antisymm before := ⟨fun a b hab hba => absurd hab (lt_asymm hba)⟩
    refine List.Pairwise.eq_of_mem_iff (r := before) h.usable_sorted h'.usable_sorted ?_
    rintro ⟨s, p⟩
    rw [h.mem_usable, h'.mem_usable]
  · rw [hstrays.eq_of_mem_iff hstrays' fun s => (hmemStrays s).trans (hmemStrays' s).symm,
      hidle.eq_of_mem_iff hidle' fun p => (hmemIdle p).trans (hmemIdle' p).symm]

namespace Paths

theorem sorted_of_keys {α : Type} {key : α → String} (m : KeyedMap String α key) :
    (m.toList.map key).Pairwise (· < ·) :=
  List.pairwise_map.mpr (m.toList_pairwise.imp compare_lt_iff_lt.mp)

/-- Complete paths as they are reported. -/
theorem idsOf_completePaths (paths : Paths) :
    (paths.forEach .completePaths).map idsOf =
      (paths.sources.toList.filter fun source =>
        (paths.lookupPlayer source.playerId).isSome).map fun source =>
          (source.id, source.playerId) := by
  have hlone : paths.lonePaths.filter ForEach.completePaths.wants = [] := by
    rw [List.filter_eq_nil_iff]
    intro path hpath
    obtain ⟨_, _, -, -, rfl⟩ := mem_lonePaths_iff.mp hpath
    simp [ForEach.wants]
  have hwants : (ForEach.completePaths.wants ∘ paths.pathOf) =
      fun source => (paths.lookupPlayer source.playerId).isSome := by
    funext source
    simp [ForEach.wants, pathOf]
  rw [forEach_eq_filter, forEach_any, List.filter_append, hlone, List.append_nil, List.filter_map,
    hwants, List.map_map]
  refine List.map_congr_left fun source hsource => ?_
  obtain ⟨player, hplayer⟩ := Option.isSome_iff_exists.mp (List.mem_filter.mp hsource).2
  simp [idsOf, pathOf, hplayer, id_of_lookupPlayer hplayer]

/-- Incomplete paths as they are reported. -/
theorem idsOf_incompletePaths (paths : Paths) :
    (paths.forEach .incompletePaths).map idsOf =
      ((paths.sources.toList.filter fun source =>
        (paths.lookupPlayer source.playerId).isNone).map (·.id)).map (·, "") ++
      ((paths.players.toList.filter paths.unconnected).map (·.id)).map ("", ·) := by
  have hlone : paths.lonePaths.filter ForEach.incompletePaths.wants = paths.lonePaths := by
    rw [List.filter_eq_self]
    intro path hpath
    obtain ⟨_, _, -, -, rfl⟩ := mem_lonePaths_iff.mp hpath
    simp [ForEach.wants]
  have hwants : (ForEach.incompletePaths.wants ∘ paths.pathOf) =
      fun source => (paths.lookupPlayer source.playerId).isNone := by
    funext source
    simp [ForEach.wants, pathOf]
  rw [forEach_eq_filter, forEach_any, List.filter_append, hlone, List.filter_map, hwants,
    List.map_append, List.map_map, List.map_map]
  refine congr (congrArg _ (List.map_congr_left fun source hsource => ?_)) ?_
  · have hnone := Option.isNone_iff_eq_none.mp (List.mem_filter.mp hsource).2
    simp [idsOf, pathOf, hnone]
  · simp [lonePaths, idsOf, Function.comp_def]

/-- The IDs of some sources, sorted as all sources are. -/
theorem sorted_filter {α : Type} {key : α → String} (m : KeyedMap String α key) (p : α → Bool) :
    ((m.toList.filter p).map key).Pairwise (· < ·) :=
  (sorted_of_keys m).sublist (List.filter_sublist.map key)

section History

variable (history : List Registration)

theorem lookupSource_owner (s p : String) :
    ownerIn history s = some p ↔
      ∃ source, (afterAll history).lookupSource s = some source ∧ source.playerId = p := by
  rw [ownerIn, ← (remembers_afterAll history).source_playerId s, Option.map_eq_some_iff]

theorem lookupPlayer_known (p : String) :
    KnownIn history p ↔ ((afterAll history).lookupPlayer p).isSome := by
  rw [KnownIn, lookupPlayer_afterAll, ← Option.isNone_eq_false_iff, ← Bool.not_eq_true,
    Option.isNone_iff_eq_none, KeyedMap.mergeAll_eq_none_iff]

/-- Some sources are those with a property of their player's ID. -/
theorem mem_sources_filter (q : String → Bool) (s p : String) :
    (s, p) ∈ ((afterAll history).sources.toList.filter fun source => q source.playerId).map
        (fun source => (source.id, source.playerId)) ↔
      ownerIn history s = some p ∧ q p = true := by
  rw [lookupSource_owner, List.mem_map]
  constructor
  · rintro ⟨source, hmem, heq⟩
    obtain ⟨hsource, hq⟩ := List.mem_filter.mp hmem
    obtain ⟨rfl, rfl⟩ := Prod.mk.inj heq
    exact ⟨⟨source, mem_sources_iff.mp hsource, rfl⟩, hq⟩
  · rintro ⟨⟨source, hsource, rfl⟩, hq⟩
    have hid := id_of_lookupSource hsource
    refine ⟨source, List.mem_filter.mpr ⟨mem_sources_iff.mpr (hid ▸ hsource), hq⟩, ?_⟩
    rw [hid]

theorem lists_afterAll :
    Lists history (((afterAll history).forEach .completePaths).map idsOf)
      (((afterAll history).forEach .incompletePaths).map idsOf) where
  usable_sorted := by
    rw [idsOf_completePaths, List.pairwise_map]
    exact List.pairwise_map.mp (sorted_filter (afterAll history).sources _)
  mem_usable s p := by
    rw [idsOf_completePaths, lookupPlayer_known]
    exact mem_sources_filter history (fun p => ((afterAll history).lookupPlayer p).isSome) s p
  parts := by
    refine ⟨_, _, idsOf_incompletePaths _, sorted_filter _ _, sorted_filter _ _, ?_, ?_⟩
    · intro s
      have hmem := mem_sources_filter history
        (fun p => ((afterAll history).lookupPlayer p).isNone) s
      simp only [lookupPlayer_known, Bool.not_eq_true, Option.isSome_eq_false_iff, ← hmem]
      simp
    · intro p
      rw [lookupPlayer_known, Option.isSome_iff_exists, List.mem_map]
      constructor
      · rintro ⟨player, hmem, rfl⟩
        obtain ⟨hplayer, hlone⟩ := List.mem_filter.mp hmem
        refine ⟨⟨player, mem_players_iff.mp hplayer⟩, fun s howner => ?_⟩
        obtain ⟨source, hsource, hid⟩ := (lookupSource_owner history s _).mp howner
        exact unconnected_iff.mp hlone s source hsource hid
      · rintro ⟨⟨player, hplayer⟩, hnone⟩
        have hid := id_of_lookupPlayer hplayer
        refine ⟨player, List.mem_filter.mpr ⟨mem_players_iff.mpr (hid ▸ hplayer), ?_⟩, hid⟩
        refine unconnected_iff.mpr fun s source hsource howner => ?_
        exact hnone s ((lookupSource_owner history s p).mpr ⟨source, hsource, howner.trans hid⟩)

end History

end Paths

namespace Daemon

variable {evs : List (Event V)} {d : Daemon M V}

/-- After any run, what a client is told about a component depends on the completed
registrations of that component alone: it has the name, and a source the player, of the
first, and the bus name and the object path of the last; if no proxy could be created for the
last one, then the daemon does not survive the question. -/
theorem components_recalled (h : (system M V).Run evs d) :
    (∀ k, (system M V).step d (.query (.playerInfo k)) =
      (playerInfo k (Paths.playersNamed (registrations evs) k)).map d.replying) ∧
    ∀ k, (system M V).step d (.query (.sourceInfo k)) =
      (sourceInfo k (Paths.sourcesNamed (registrations evs) k)).map d.replying :=
  ⟨playerInfo_step h, sourceInfo_step h⟩

/-- A player is registered again, under another name and by another client. -/
def renamingEvents : List (Event Unit) :=
  [.registerPlayer 0 "player" "Player" "/player" ":1.1", .proxyDone 0 true,
    .registerPlayer 0 "player" "Funky Player" "/funky" ":1.2", .proxyDone 0 true]

theorem components_recalled_renamed : ∃ d d' : Daemon (Option Bool) Unit,
    (system (Option Bool) Unit).Run renamingEvents d ∧
      (system (Option Bool) Unit).step d (.query (.playerInfo "player")) = some d' ∧
      d'.log = d.log ++ [.replied 4 (.getPlayerInfo "Player" ":1.2" "/funky")] := by
  have hexec : ((system (Option Bool) Unit).exec (system (Option Bool) Unit).init
      renamingEvents).map (fun d => d.served) = some 4 := by decide +kernel
  obtain ⟨d, hrun, hserved⟩ := System.exists_run_of_exec hexec
  have hstep := (components_recalled hrun).1 "player"
  refine ⟨d, _, hrun, hstep, ?_⟩
  rw [← hserved]
  rfl

/-- After any run, `GetPaths` returns what the completed registrations determine, and in the
order that the IDs determine. -/
theorem paths_recalled (h : (system M V).Run evs d) :
    ∃ usable incomplete,
      (system M V).step d (.query .paths) = some (d.replying (.getPaths usable incomplete)) ∧
      Lists (registrations evs) usable incomplete ∧
      ∀ usable' incomplete', Lists (registrations evs) usable' incomplete' →
        usable' = usable ∧ incomplete' = incomplete := by
  have hlists := Paths.lists_afterAll (registrations evs)
  refine ⟨_, _, ?_, hlists, fun _ _ hother => hother.unique hlists⟩
  rw [← registry_of_run h]
  exact step_eq_some.mpr (getPaths_run d.served d.next)

/-- Two sources of a player that has not been registered, and a player without sources. -/
def strayEvents : List (Event Unit) :=
  [.registerSource 0 "b" "B" "missing" "/b" ":1.1", .registerSource 0 "a" "A" "missing" "/a" ":1.1",
    .registerPlayer 0 "player" "Player" "/player" ":1.2",
    .proxyDone 2 true, .proxyDone 0 true, .proxyDone 0 true]

theorem paths_recalled_strays : ∃ d : Daemon (Option Bool) Unit,
    (system (Option Bool) Unit).Run strayEvents d ∧
      (system (Option Bool) Unit).step d (.query .paths) =
        some (d.replying (.getPaths [] [("a", ""), ("b", ""), ("", "player")])) := by
  have hexec : ((system (Option Bool) Unit).exec (system (Option Bool) Unit).init
      strayEvents).map (fun d => d.served) = some 6 := by decide +kernel
  obtain ⟨d, hrun, -⟩ := System.exists_run_of_exec hexec
  obtain ⟨usable, incomplete, hstep, -, hunique⟩ := paths_recalled hrun
  obtain ⟨rfl, rfl⟩ := hunique _ _ (Paths.lists_afterAll (registrations strayEvents))
  have husable : ((Paths.afterAll (registrations strayEvents)).forEach .completePaths).map
      Paths.idsOf = [] := by decide +kernel
  have hincomplete : ((Paths.afterAll (registrations strayEvents)).forEach .incompletePaths).map
      Paths.idsOf = [("a", ""), ("b", ""), ("", "player")] := by decide +kernel
  rw [husable, hincomplete] at hstep
  exact ⟨d, hrun, hstep⟩

end Daemon

end TapSwitch
