import TapSwitch.Completions
import TapSwitch.Library.Refinement

set_option autoImplicit false

/-!
# The order in which proxies are created

Two registries are as good as each other if the same is found in them.  A daemon does not
notice if its registry is exchanged for another one that is as good, whatever happens
afterwards.  What is found depends on the completed registrations of each component, so it
makes no difference which of two components has got its proxy first.
-/

namespace TapSwitch

open Library

variable {M V : Type}

/-! ## Registries in which the same is found -/

namespace Paths

/-- The same is found in both. -/
structure Alike (paths paths' : Paths) : Prop where
  players : paths'.lookupPlayer = paths.lookupPlayer
  sources : paths'.lookupSource = paths.lookupSource

variable {paths paths' : Paths}

theorem Alike.symm (h : paths.Alike paths') : paths'.Alike paths := ⟨h.players.symm, h.sources.symm⟩

theorem Alike.lookupPath (h : paths.Alike paths') : paths'.lookupPath = paths.lookupPath := by
  funext k
  simp only [Paths.lookupPath, h.players, h.sources]

/-- The same is enumerated in the same order. -/
theorem Alike.toList (h : paths.Alike paths') :
    paths'.players.toList = paths.players.toList ∧ paths'.sources.toList = paths.sources.toList :=
  ⟨KeyedMap.toList_eq_of_find? (congrFun h.players),
    KeyedMap.toList_eq_of_find? (congrFun h.sources)⟩

theorem Alike.forEach (h : paths.Alike paths') (mode : ForEach) :
    paths'.forEach mode = paths.forEach mode := by
  have hpathOf : paths'.pathOf = paths.pathOf := by
    funext source
    rw [pathOf, pathOf, h.players]
  have hunconnected : paths'.unconnected = paths.unconnected := by
    funext player
    rw [unconnected, unconnected, h.toList.2]
  rw [forEach_eq_filter, forEach_eq_filter paths, forEach_any, forEach_any, lonePaths, lonePaths,
    hpathOf, hunconnected, h.toList.1, h.toList.2]

theorem Alike.addPlayer (h : paths.Alike paths') (player : Player) :
    (paths.addPlayer player).1.Alike (paths'.addPlayer player).1 where
  players := by
    funext k
    rw [addPlayer_lookupPlayer, addPlayer_lookupPlayer, h.players]
  sources := h.sources

theorem Alike.addSource (h : paths.Alike paths') (source : Source) :
    (paths.addSource source).1.Alike (paths'.addSource source).1 where
  players := h.players
  sources := by
    funext k
    rw [addSource_lookupSource, addSource_lookupSource, h.sources]

theorem Alike.addSource_havePath (h : paths.Alike paths') (source : Source) :
    (paths'.addSource source).2.havePath = (paths.addSource source).2.havePath := by
  rw [Paths.addSource_havePath, Paths.addSource_havePath, storedSource, storedSource, h.players,
    h.sources]

theorem Alike.announcements (h : paths.Alike paths') (playerId : String) :
    (TapSwitch.announcements paths' playerId : List (Signal V)) =
      TapSwitch.announcements paths playerId := by
  rw [TapSwitch.announcements, TapSwitch.announcements, h.toList.2]

/-- Histories in which the same has happened to each component. -/
theorem alike_afterAll {history history' : List Registration}
    (hplayers : ∀ k, playersNamed history' k = playersNamed history k)
    (hsources : ∀ k, sourcesNamed history' k = sourcesNamed history k) :
    (afterAll history).Alike (afterAll history') where
  players := by
    funext k
    rw [lookupPlayer_afterAll, lookupPlayer_afterAll, hplayers]
  sources := by
    funext k
    rw [lookupSource_afterAll, lookupSource_afterAll, hsources]

/-! ## The switch looks things up -/

variable {outcomes : Outcomes} {sw sw' : Switch V} {data : GVariantWrapper V}
  {es : List (BusEntry V)}

theorem Alike.deselectSource (h : paths.Alike paths') :
    TapSwitch.deselectSource outcomes paths' data =
      TapSwitch.deselectSource outcomes paths data := by
  simp only [TapSwitch.deselectSource, h.sources]

theorem Alike.deactivatePlayer (h : paths.Alike paths') :
    TapSwitch.deactivatePlayer outcomes paths' data =
      TapSwitch.deactivatePlayer outcomes paths data := by
  simp only [TapSwitch.deactivatePlayer, h.players]

theorem Alike.activateSource (h : paths.Alike paths') (sourceId : String) (now : Bool) :
    TapSwitch.activateSource outcomes paths' sourceId now data =
      TapSwitch.activateSource outcomes paths sourceId now data := by
  simp only [TapSwitch.activateSource, h.lookupPath, h.deselectSource, h.deactivatePlayer]

theorem Alike.releasePath (h : paths.Alike paths') (killPlayer : Bool) :
    TapSwitch.releasePath outcomes paths' killPlayer data =
      TapSwitch.releasePath outcomes paths killPlayer data := by
  simp only [TapSwitch.releasePath, h.deselectSource, h.deactivatePlayer]

theorem Alike.completePending (h : paths.Alike paths') (dest : Option String) :
    (completePendingSourceActivation outcomes paths' dest : SwitchM V _) =
      completePendingSourceActivation outcomes paths dest := by
  simp only [completePendingSourceActivation, h.lookupPath]

theorem Alike.cancelPending (h : paths.Alike paths') (dest : String) :
    (cancelPendingSourceActivation outcomes paths' dest : SwitchM V _) =
      cancelPendingSourceActivation outcomes paths dest := by
  simp only [cancelPendingSourceActivation, h.sources]

theorem Alike.consistent (h : paths.Alike paths') (hsw : Consistent paths sw) :
    Consistent paths' sw where
  exclusive := hsw.exclusive
  current := h.lookupPath ▸ hsw.current
  pending := h.lookupPath ▸ hsw.pending
  player := h.players ▸ hsw.player
  settled := hsw.settled
  phaseOne := hsw.phaseOne

theorem Alike.completes (h : paths.Alike paths') {r : ActivateResult}
    (hc : Completes outcomes paths sw r sw' es) : Completes outcomes paths' sw r sw' es := by
  cases hc with
  | nothingPending hidle => exact .nothingPending hidle
  | sourceFailed hpending hlookup hproxy hfailed =>
      exact .sourceFailed hpending (h.sources ▸ hlookup) hproxy hfailed
  | selected hpending hlookup hproxy hok =>
      exact .selected hpending (h.sources ▸ hlookup) hproxy hok

theorem Alike.cancels (h : paths.Alike paths') {r : ActivateResult}
    (hc : Cancels outcomes paths sw r sw' es) : Cancels outcomes paths' sw r sw' es := by
  cases hc with
  | nothingPending hidle => exact .nothingPending hidle
  | canceled hpending hlookup hproxy => exact .canceled hpending (h.sources ▸ hlookup) hproxy

end Paths

/-! ## Daemons that differ in their past only -/

/-- The same daemon, with a registry that is as good, and with another past. -/
structure Daemon.Twins (d d' : Daemon M V) : Prop where
  paths : d.data.audioPaths.Alike d'.data.audioPaths
  switch : d'.data.audioPathSwitch = d.data.audioPathSwitch
  appliance : d'.data.applianceState = d.data.applianceState
  queue : d'.data.pendingAudioSourceActivations = d.data.pendingAudioSourceActivations
  creations : d'.creations = d.creations
  served : d'.served = d.served

namespace Daemon

theorem Twins.symm {d d' : Daemon M V} (h : Twins d d') : Twins d' d :=
  ⟨h.paths.symm, h.switch.symm, h.appliance.symm, h.queue.symm, h.creations.symm, h.served.symm⟩

/-- The daemons `d` and `d'` have become `d₁` and `d₁'` in the same way. -/
def Mirrors (d d₁ d' d₁' : Daemon M V) : Prop :=
  Twins d₁ d₁' ∧ ∃ new, d₁.log = d.log ++ new ∧ d₁'.log = d'.log ++ new

variable {d d₁ d' : Daemon M V} {e : Event V}

/-- Both have given the same reply. -/
theorem Twins.replied (h : Twins d d') (reply : Reply) :
    Mirrors d (d.replying reply) d' (d'.replying reply) := by
  refine ⟨⟨h.paths, h.switch, h.appliance, h.queue, h.creations, ?_⟩, _, rfl, ?_⟩
  · exact congrArg (· + 1) h.served
  · simp only [replying, h.served]

/-- Both have started the same creation. -/
theorem Twins.started (h : Twins d d') (creation : Creation) :
    Mirrors d { d.next with creations := d.creations ++ [creation] } d'
      { d'.next with creations := d'.creations ++ [creation] } := by
  refine ⟨⟨h.paths, h.switch, h.appliance, h.queue, ?_, ?_⟩, [], ?_, ?_⟩
  · exact congrArg (· ++ [creation]) h.creations
  · exact congrArg (· + 1) h.served
  · exact (List.append_nil _).symm
  · exact (List.append_nil _).symm

/-- Both have registered the same player. -/
theorem Twins.playerRegistered (h : Twins d d') (object invocation : Nat) (player : Player) :
    Mirrors d (d.playerRegistered object invocation player) d'
      (d'.playerRegistered object invocation player) := by
  refine ⟨⟨h.paths.addPlayer player, h.switch, h.appliance, h.queue, h.creations, h.served⟩,
    _, rfl, ?_⟩
  simp only [Daemon.playerRegistered, (h.paths.addPlayer player).announcements]

/-- Both have registered the same source. -/
theorem Twins.sourceRegistered (h : Twins d d') (object invocation : Nat) (source : Source) :
    Mirrors d (d.sourceRegistered object invocation source) d'
      (d'.sourceRegistered object invocation source) := by
  refine ⟨⟨h.paths.addSource source, h.switch, h.appliance, h.queue, h.creations, h.served⟩,
    _, rfl, ?_⟩
  simp only [Daemon.sourceRegistered, h.paths.addSource_havePath]

/-- The same creation has completed in both. -/
theorem Twins.done (h : Twins d d') (i : Nat) :
    Twins { d.next with creations := d.creations.eraseIdx i }
      { d'.next with creations := d'.creations.eraseIdx i } :=
  ⟨h.paths, h.switch, h.appliance, h.queue, congrArg (·.eraseIdx i) h.creations,
    congrArg (· + 1) h.served⟩

variable [MaybeBool M]

/-- A handler that gives the same reply in both. -/
theorem Twins.of_reply (h : Twins d d') (reply : Reply)
    (hd : d.perform e = .ok () (d.replying reply))
    (hd' : d'.perform e = .ok () (d'.replying reply))
    (hstep : d.perform e = .ok () d₁) : ∃ d₁', d'.perform e = .ok () d₁' ∧ Mirrors d d₁ d' d₁' := by
  rw [hd, EStateM.Result.ok.injEq] at hstep
  rw [← hstep.2]
  exact ⟨_, hd', h.replied reply⟩

/-- No query tells them apart. -/
theorem Twins.reply? (h : Twins d d') (q : Query) : q.reply? d'.data = q.reply? d.data := by
  cases q with
  | activePlayer | currentPath => simp only [Query.reply?, h.switch]
  | paths => simp only [Query.reply?, h.paths.forEach]
  | playerInfo => simp only [Query.reply?, h.paths.players]
  | sourceInfo => simp only [Query.reply?, h.paths.sources]
  | applianceState => simp only [Query.reply?, h.appliance]

theorem Twins.query (h : Twins d d') {q : Query} (hstep : d.perform (.query q) = .ok () d₁) :
    ∃ d₁', d'.perform (.query q) = .ok () d₁' ∧ Mirrors d d₁ d' d₁' := by
  have hperform := perform_query d q
  have hperform' := perform_query d' q
  rw [h.reply?] at hperform'
  cases hreply : q.reply? d.data with
  | none => simp [hperform, hreply] at hstep
  | some reply =>
      rw [hreply] at hperform hperform'
      exact h.of_reply reply hperform hperform' hstep

/-- A registration is refused by both, or starts a creation in both. -/
theorem Twins.registration (h : Twins d d') (hregisters : e.Registers)
    (hstep : d.perform e = .ok () d₁) : ∃ d₁', d'.perform e = .ok () d₁' ∧ Mirrors d d₁ d' d₁' := by
  have hperform := d.perform_registration hregisters
  have hperform' := d'.perform_registration hregisters
  rw [h.served] at hperform'
  cases hcreation : e.creation d.served with
  | none =>
      rw [hcreation] at hperform hperform'
      exact h.of_reply _ hperform hperform' hstep
  | some creation =>
      rw [hcreation] at hperform hperform'
      rw [hperform, EStateM.Result.ok.injEq] at hstep
      rw [← hstep.2]
      exact ⟨_, hperform', h.started creation⟩

/-- A proxy has been created, or has failed to be. -/
theorem Twins.proxyDone (h : Twins d d') {i : Nat} {success : Bool}
    (hstep : d.perform (.proxyDone i success) = .ok () d₁) :
    ∃ d₁', d'.perform (.proxyDone i success) = .ok () d₁' ∧ Mirrors d d₁ d' d₁' := by
  cases hcreation : d.creations[i]? with
  | none =>
      have hcreation' : d'.creations[i]? = none := h.creations ▸ hcreation
      rw [perform_noCreation hcreation, EStateM.Result.ok.injEq] at hstep
      rw [← hstep.2]
      refine ⟨_, perform_noCreation hcreation' success,
        ⟨h.paths, h.switch, h.appliance, h.queue, h.creations, ?_⟩, [], ?_, ?_⟩
      · exact congrArg (· + 1) h.served
      · exact (List.append_nil _).symm
      · exact (List.append_nil _).symm
  | some creation =>
      have hcreation' : d'.creations[i]? = some creation := h.creations ▸ hcreation
      cases creation with
      | player object invocation playerId playerName dest path =>
          rw [perform_playerDone hcreation, EStateM.Result.ok.injEq] at hstep
          rw [← hstep.2]
          exact ⟨_, perform_playerDone hcreation' success,
            (h.done i).playerRegistered object invocation _⟩
      | source object invocation sourceId sourceName playerId dest path =>
          rw [perform_sourceDone hcreation, EStateM.Result.ok.injEq] at hstep
          rw [← hstep.2]
          exact ⟨_, perform_sourceDone hcreation' success,
            (h.done i).sourceRegistered object invocation _⟩

/-- Twins handle everything in the same way, and remain twins. -/
theorem Twins.perform (h : Twins d d') (hsw : Consistent d.data.audioPaths d.data.audioPathSwitch)
    (hstep : d.perform e = .ok () d₁) : ∃ d₁', d'.perform e = .ok () d₁' ∧ Mirrors d d₁ d' d₁' := by
  have hsteps : Steps d e d₁ := by
    rcases listed hsw e with ⟨d₂, hsteps, hrun⟩ | ⟨d₂, -, hrun⟩
    · rw [hstep, EStateM.Result.ok.injEq] at hrun
      exact hrun.2 ▸ hsteps
    · cases hstep.symm.trans hrun
  have hregistration : e.Registers →
      ∃ d₁', d'.perform e = .ok () d₁' ∧ Mirrors d d₁ d' d₁' :=
    fun hregisters => h.registration hregisters hstep
  have hquery : (∃ q, e = .query q) →
      ∃ d₁', d'.perform e = .ok () d₁' ∧ Mirrors d d₁ d' d₁' := by
    rintro ⟨q, rfl⟩
    exact h.query hstep
  have hdone : (∃ i success, e = .proxyDone i success) →
      ∃ d₁', d'.perform e = .ok () d₁' ∧ Mirrors d d₁ d' d₁' := by
    rintro ⟨i, success, rfl⟩
    exact h.proxyDone hstep
  obtain ⟨⟨paths', sw, appliance, queue⟩, creations, past, served⟩ := d'
  obtain ⟨hpaths, rfl, rfl, rfl, rfl, rfl⟩ := h
  cases hsteps with
  | answered hpassive =>
      cases e with
      | registerPlayer | registerSource => exact hregistration trivial
      | query q => exact hquery ⟨q, rfl⟩
      | proxyDone | requestSource | releasePath | setReadyState => exact hpassive.elim
  | creating hcreation => exact hregistration (Event.registers_of_creation hcreation)
  | noCreation | playerRegistered | sourceRegistered => exact hdone ⟨_, _, rfl⟩
  | requested hrun ha =>
      have hrun' := (congrArg (EStateM.run · ⟨d.data.audioPathSwitch, []⟩)
        (hpaths.activateSource ..)).trans hrun
      exact ⟨_, requestSource_run hrun' (playerId_of_isOk ha),
        ⟨hpaths, rfl, rfl, rfl, rfl, rfl⟩, _, rfl, rfl⟩
  | released hrun hr =>
      have hrun' := (congrArg (EStateM.run · ⟨d.data.audioPathSwitch, []⟩)
        (hpaths.releasePath ..)).trans hrun
      exact ⟨_, releasePathHandler_run hrun', ⟨hpaths, rfl, rfl, rfl, rfl, rfl⟩, _, rfl, rfl⟩
  | completed hread hallowed hrun hc =>
      have hrun' := (congrArg (EStateM.run · ⟨d.data.audioPathSwitch, []⟩)
        (hpaths.completePending ..)).trans hrun
      exact ⟨_, setReadyState_completed hread hallowed (hpaths.consistent hsw)
        (hpaths.completes hc) hrun', ⟨hpaths, rfl, rfl, rfl, rfl, rfl⟩, _, rfl, rfl⟩
  | canceled hread hallowed hrun hc =>
      have hrun' := (congrArg (EStateM.run · ⟨d.data.audioPathSwitch, []⟩)
        (hpaths.cancelPending ..)).trans hrun
      exact ⟨_, setReadyState_canceled hread hallowed (hpaths.cancels hc) hrun',
        ⟨hpaths, rfl, rfl, rfl, rfl, rfl⟩, _, rfl, rfl⟩
  | postponed hread hallowed =>
      exact ⟨_, setReadyState_postponed hread hallowed, ⟨hpaths, rfl, rfl, rfl, rfl, rfl⟩, _,
        rfl, rfl⟩

/-- So they do with any list of events. -/
theorem Twins.exec (h : Twins d d') (hreach : (system M V).Reachable d) {more : List (Event V)}
    (hexec : (system M V).exec d more = some d₁) :
    ∃ d₁', (system M V).exec d' more = some d₁' ∧ Mirrors d d₁ d' d₁' := by
  induction more generalizing d d' with
  | nil =>
      cases hexec
      exact ⟨d', rfl, h, [], (List.append_nil _).symm, (List.append_nil _).symm⟩
  | cons e rest ih =>
      rw [System.exec_cons, Option.bind_eq_some_iff] at hexec
      obtain ⟨mid, hstep, hrest⟩ := hexec
      obtain ⟨mid', hperform', hmid, new, hlog, hlog'⟩ :=
        h.perform (consistent_of_reachable hreach) (step_eq_some.mp hstep)
      obtain ⟨d₁', hrest', hend, more, hmore, hmore'⟩ := ih hmid (hreach.step hstep) hrest
      refine ⟨d₁', ?_, hend, new ++ more, ?_, ?_⟩
      · rw [System.exec_cons_of_step (step_eq_some.mpr hperform'), hrest']
      · rw [hmore, hlog, List.append_assoc]
      · rw [hmore', hlog', List.append_assoc]

/-- Suppose two runs have led to the same state apart from the registry, and for each component
the same registrations have been completed in the same order, though not necessarily in the
same order for all components together.  Then the two daemons handle the same events from then
on, and with the same calls, replies and signals. -/
theorem completion_order_irrelevant {evs evs' : List (Event V)} (h : (system M V).Run evs d)
    (h' : (system M V).Run evs' d')
    (hplayers : ∀ k, Paths.playersNamed (registrations evs') k =
      Paths.playersNamed (registrations evs) k)
    (hsources : ∀ k, Paths.sourcesNamed (registrations evs') k =
      Paths.sourcesNamed (registrations evs) k)
    (hdata : d'.data = { d.data with audioPaths := d'.data.audioPaths })
    (hcreations : d'.creations = d.creations) (hserved : d'.served = d.served)
    (more : List (Event V)) :
    ((system M V).exec d more = none ↔ (system M V).exec d' more = none) ∧
    ∀ d₁ d₁', (system M V).exec d more = some d₁ → (system M V).exec d' more = some d₁' →
      ∃ new, d₁.log = d.log ++ new ∧ d₁'.log = d'.log ++ new := by
  have halike : d.data.audioPaths.Alike d'.data.audioPaths := by
    rw [registry_of_run h, registry_of_run h']
    exact Paths.alike_afterAll hplayers hsources
  have htwins : Twins d d' := by
    refine ⟨halike, ?_, ?_, ?_, hcreations, hserved⟩
    all_goals rw [hdata]
  refine ⟨?_, fun d₁ d₁' hexec hexec' => ?_⟩
  · constructor
    · intro hnone
      cases hexec' : (system M V).exec d' more with
      | none => rfl
      | some d₁' =>
          obtain ⟨d₁, hexec, -⟩ := htwins.symm.exec h'.reachable hexec'
          cases hnone.symm.trans hexec
    · intro hnone
      cases hexec : (system M V).exec d more with
      | none => rfl
      | some d₁ =>
          obtain ⟨d₁', hexec', -⟩ := htwins.exec h.reachable hexec
          cases hnone.symm.trans hexec'
  · obtain ⟨d₂', hexec₂, -, hnew⟩ := htwins.exec h.reachable hexec
    rw [Option.some.inj (hexec'.symm.trans hexec₂)]
    exact hnew

/-- A player and a source register, and the proxies are created in this order. -/
def siblingEvents (first : Nat) : List (Event Unit) :=
  [.registerPlayer 0 "player" "Player" "/player" ":1.1",
    .registerSource 0 "source" "Source" "player" "/source" ":1.1",
    .proxyDone first true, .proxyDone 0 true]

/-- A path from one to the other can be requested in both cases. -/
theorem completion_order_irrelevant_siblings : ∃ d d' : Daemon (Option Bool) Unit,
    (system (Option Bool) Unit).Run (siblingEvents 0) d ∧
      (system (Option Bool) Unit).Run (siblingEvents 1) d' ∧
      ∃ d₁ d₁' new, (system (Option Bool) Unit).exec d
          [.requestSource 0 "source" none fun _ => true] = some d₁ ∧
        (system (Option Bool) Unit).exec d'
          [.requestSource 0 "source" none fun _ => true] = some d₁' ∧
        d₁.log = d.log ++ new ∧ d₁'.log = d'.log ++ new := by
  have hexec : ∀ first ∈ [0, 1], ∃ d, (system (Option Bool) Unit).Run (siblingEvents first) d ∧
      d.data = ⟨d.data.audioPaths, {}, Appliance.initial, []⟩ ∧ d.creations = [] ∧
        d.served = 4 := by
    intro first hfirst
    simp only [List.mem_cons, List.not_mem_nil, or_false] at hfirst
    rcases hfirst with rfl | rfl
    all_goals exact ⟨_, System.run_of_exec rfl, rfl, rfl, rfl⟩
  obtain ⟨d, hrun, hdata, hcreations, hserved⟩ := hexec 0 (by simp)
  obtain ⟨d', hrun', hdata', hcreations', hserved'⟩ := hexec 1 (by simp)
  have hpath : ((system (Option Bool) Unit).exec (system (Option Bool) Unit).init
      (siblingEvents 0 ++ [.requestSource 0 "source" none fun _ => true])).isSome = true := by
    decide +kernel
  rw [System.exec_append_of_exec hrun.exec_eq, Option.isSome_iff_exists] at hpath
  obtain ⟨d₁, hd₁⟩ := hpath
  obtain ⟨hboth, hnew⟩ := completion_order_irrelevant hrun hrun' (fun _ => rfl) (fun _ => rfl)
    (by rw [hdata', hdata]) (hcreations'.trans hcreations.symm) (hserved'.trans hserved.symm)
    [.requestSource 0 "source" none fun _ => true]
  cases hd₁' : (system (Option Bool) Unit).exec d'
      [.requestSource 0 "source" none fun _ => true] with
  | none => cases hd₁.symm.trans (hboth.mpr hd₁')
  | some d₁' =>
      obtain ⟨new, hlog, hlog'⟩ := hnew d₁ d₁' hd₁ hd₁'
      exact ⟨d, d', hrun, hrun', d₁, d₁', new, hd₁, hd₁', hlog, hlog'⟩

end Daemon

end TapSwitch
