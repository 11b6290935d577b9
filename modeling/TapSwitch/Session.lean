import TapSwitch.Library.System
import TapSwitch.SwitchBehaviour

set_option autoImplicit false

/-!
# The switch and its registry in operation

A session is a registry and a switch used on it, with the log of everything the
switch has done so far.  Its operations are registrations and the four operations of
the switch, in any order and with any outcome of the outgoing calls.  The daemon
registers nothing under an empty ID, and neither does a session.
-/

namespace TapSwitch

open Library

variable {V : Type}

/-- A registry, a switch and what the switch has done. -/
structure Session (V : Type) where
  paths : Paths
  switch : Switch V
  log : List (BusEntry V)

/-- One operation, with the outcomes of the calls it makes. -/
inductive Operation (V : Type) where
  | addPlayer (player : Player)
  | addSource (source : Source)
  | activateSource (sourceId : String) (selectSourceNow : Bool)
      (requestData : GVariantWrapper V) (outcomes : Outcomes)
  | completePending (dest : Option String) (outcomes : Outcomes)
  | cancelPending (dest : String) (outcomes : Outcomes)
  | releasePath (killPlayer : Bool) (requestData : GVariantWrapper V) (outcomes : Outcomes)

namespace Session

/-- Nothing registered, nothing selected. -/
def initial : Session V := ⟨.empty, {}, []⟩

/-- What remains of a session when an operation of the switch has ended. -/
def update (s : Session V) (scope : Scope V) : Session V :=
  { s with switch := scope.switch, log := s.log ++ scope.log }

/-- Run an operation of the switch. -/
def carryOut {α : Type} (s : Session V) (op : SwitchM V α) :
    EStateM.Result Fault (Session V) α :=
  match op.run ⟨s.switch, []⟩ with
  | .ok a scope => .ok a (s.update scope)
  | .error fault scope => .error fault (s.update scope)

/-- Forget what an operation returned. -/
def ending {α : Type} : EStateM.Result Fault (Session V) α →
    EStateM.Result Fault (Session V) Unit
  | .ok _ s => .ok () s
  | .error fault s => .error fault s

/-- Carry out an operation. -/
def perform (s : Session V) : Operation V → EStateM.Result Fault (Session V) Unit
  | .addPlayer player =>
      .ok () (if player.id = "" then s else { s with paths := (s.paths.addPlayer player).1 })
  | .addSource source =>
      .ok () (if source.id = "" then s else { s with paths := (s.paths.addSource source).1 })
  | .activateSource sourceId selectSourceNow requestData outcomes =>
      ending (s.carryOut (TapSwitch.activateSource outcomes s.paths sourceId
        selectSourceNow requestData))
  | .completePending dest outcomes =>
      ending (s.carryOut (completePendingSourceActivation outcomes s.paths dest))
  | .cancelPending dest outcomes =>
      ending (s.carryOut (cancelPendingSourceActivation outcomes s.paths dest))
  | .releasePath killPlayer requestData outcomes =>
      ending (s.carryOut (TapSwitch.releasePath outcomes s.paths killPlayer requestData))

/-- The session an operation ends in, whether it returns or crashes. -/
def afterwards (s : Session V) (op : Operation V) : Session V :=
  match s.perform op with
  | .ok _ s' | .error _ s' => s'

/-- Sessions as a transition system.  A session does not survive a crash. -/
def system (V : Type) : System (Session V) (Operation V) where
  init := initial
  step s op := match s.perform op with
    | .ok _ s' => some s'
    | .error _ _ => none

end Session

/-! ## Every operation leaves the switch consistent -/

section

variable {outcomes : Outcomes} {paths : Paths} {sw sw' : Switch V}
  {data : GVariantWrapper V} {es : List (BusEntry V)}

theorem Consistent.mono {old new : Paths} (h : Consistent old sw)
    (hext : old.Extends new) : Consistent new sw where
  exclusive := h.exclusive
  current hcurrent := by
    obtain ⟨source, player, hpath, hplayer⟩ := h.current hcurrent
    obtain ⟨source', player', hpath', -, hid⟩ := hext.path hpath
    exact ⟨source', player', hpath', hid.trans hplayer⟩
  pending hpending := by
    obtain ⟨source, player, hpath, hplayer⟩ := h.pending hpending
    obtain ⟨source', player', hpath', -, hid⟩ := hext.path hpath
    exact ⟨source', player', hpath', hid.trans hplayer⟩
  player hplayer := (h.player hplayer).elim fun _ hlookup => hext.player hlookup
  settled := h.settled
  phaseOne := h.phaseOne

/-- Without current and pending source, only the player matters. -/
theorem Consistent.playerOnly {playerId : String}
    (h : playerId ≠ "" → ∃ player, paths.lookupPlayer playerId = some player) :
    Consistent paths ({ currentPlayerId := playerId } : Switch V) where
  exclusive := .inl rfl
  current hcurrent := absurd rfl hcurrent
  pending hpending := absurd rfl hpending
  player := h
  settled _ := rfl
  phaseOne hpending := absurd rfl hpending

theorem Consistent.deselected (h : Consistent paths sw) : Consistent paths sw.deselected :=
  .playerOnly h.player

/-- Dropping the pending activation is always fine. -/
theorem Consistent.dropPending (h : Consistent paths sw) :
    Consistent paths ({ sw with pending := {} } : Switch V) where
  exclusive := .inr rfl
  current := h.current
  pending hpending := absurd rfl hpending
  player := h.player
  settled _ := rfl
  phaseOne hpending := absurd rfl hpending

/-- The player of a path, found under its own ID. -/
theorem lookupPlayer_of_path {k : String} {source : Source} {player : Player}
    (hpath : paths.lookupPath k = (some source, some player)) :
    paths.lookupPlayer player.id = some player := by
  obtain ⟨-, hplayer⟩ := Paths.lookupPath_eq_some.mp hpath
  rwa [Paths.id_of_lookupPlayer hplayer]

/-- The player at the end of a path has a name. -/
theorem player_named {k : String} {source : Source} {player : Player}
    (hnamed : paths.lookupPlayer "" = none)
    (hpath : paths.lookupPath k = (some source, some player)) : player.id ≠ "" := by
  obtain ⟨-, hplayer⟩ := Paths.lookupPath_eq_some.mp hpath
  have hid : player.id = source.playerId := Paths.id_of_lookupPlayer hplayer
  intro hempty
  rw [← hid, hempty, hnamed] at hplayer
  simp at hplayer

/-- While a source is current or pending, so is a player. -/
theorem Consistent.player_ne (h : Consistent paths sw) (hnamed : paths.lookupPlayer "" = none)
    (hsource : sw.currentSourceId ≠ "" ∨ sw.pending.sourceId ≠ "") :
    sw.currentPlayerId ≠ "" := by
  rcases hsource with hcurrent | hpending
  · obtain ⟨source, player, hpath, hid⟩ := h.current hcurrent
    exact hid ▸ player_named hnamed hpath
  · obtain ⟨source, player, hpath, hid⟩ := h.pending hpending
    exact hid ▸ player_named hnamed hpath

theorem activationResult_deferred (sw : Switch V) (playerId : String) :
    activationResult sw playerId false = .okPlayerSameSourceDeferred ∨
      activationResult sw playerId false = .okPlayerSwitchedSourceDeferred := by
  unfold activationResult
  split
  · exact .inr rfl
  · exact .inl rfl

theorem Consistent.switchedTo {k : String} {source : Source} {player : Player}
    (hk : k ≠ "") (hpath : paths.lookupPath k = (some source, some player)) (now : Bool) :
    Consistent paths (TapSwitch.switchedTo sw data source player.id now) := by
  have hid : source.id = k :=
    Paths.id_of_lookupSource (Paths.lookupPath_eq_some.mp hpath).1
  have hpath' : paths.lookupPath source.id = (some source, some player) := hid ▸ hpath
  cases now with
  | true =>
      exact {
        exclusive := .inr rfl
        current := fun _ => ⟨source, player, hpath', rfl⟩
        pending := fun hpending => absurd rfl hpending
        player := fun _ => ⟨player, lookupPlayer_of_path hpath⟩
        settled := fun _ => rfl
        phaseOne := fun hpending => absurd rfl hpending }
  | false =>
      exact {
        exclusive := .inl rfl
        current := fun hcurrent => absurd rfl hcurrent
        pending := fun _ => ⟨source, player, hpath', rfl⟩
        player := fun _ => ⟨player, lookupPlayer_of_path hpath⟩
        settled := fun hpending => absurd (hid.symm.trans hpending) hk
        phaseOne := fun _ => activationResult_deferred sw player.id }

theorem Activates.consistent {sourceId : String} {now : Bool} {a : Activation}
    (h : Consistent paths sw)
    (ha : Activates outcomes paths sw data sourceId now a sw' es) :
    Consistent paths sw' := by
  cases ha with
  | rejected => exact h.dropPending
  | unchanged => exact h
  | alreadyPending => exact h
  | playerFailed => exact .initial paths
  | sourceFailed _ hpath => exact .playerOnly fun _ => ⟨_, lookupPlayer_of_path hpath⟩
  | switched hfresh hpath => exact .switchedTo hfresh.nonempty hpath now

theorem Completes.consistent {r : ActivateResult} (h : Consistent paths sw)
    (hc : Completes outcomes paths sw r sw' es) : Consistent paths sw' := by
  cases hc with
  | nothingPending => exact h
  | sourceFailed => exact .playerOnly h.player
  | selected hpending =>
      exact {
        exclusive := .inr rfl
        current := fun _ => h.pending hpending
        pending := fun hnone => absurd rfl hnone
        player := h.player
        settled := fun _ => rfl
        phaseOne := fun hnone => absurd rfl hnone }

theorem Cancels.consistent {r : ActivateResult} (h : Consistent paths sw)
    (hc : Cancels outcomes paths sw r sw' es) : Consistent paths sw' := by
  cases hc with
  | nothingPending => exact h
  | canceled => exact .playerOnly h.player

theorem Releases.consistent {killPlayer : Bool} {r : Release} (h : Consistent paths sw)
    (hr : Releases outcomes paths sw data killPlayer r sw' es) : Consistent paths sw' := by
  cases hr with
  | kept => exact h.deselected
  | killed => exact .initial paths

/-! ## Nothing but calls goes into the log -/

theorem calls_append {log : List (BusEntry V)} (h : ∀ e ∈ log, e.IsCall)
    {methods : List Method} (hes : SendsOnly methods data es) : ∀ e ∈ log ++ es, e.IsCall := by
  simpa [or_imp, forall_and] using ⟨h, hes.calls⟩

end

/-! ## Everything a session can do -/

/-- How the operations of a session end, given that its switch is consistent. -/
inductive Performs (s : Session V) :
    Operation V → EStateM.Result Fault (Session V) Unit → Prop where
  | registered {op : Operation V} {paths : Paths} : s.paths.Extends paths →
      (s.paths.lookupPlayer "" = none → paths.lookupPlayer "" = none) →
      Performs s op (.ok () { s with paths })
  | activated {sourceId : String} {now : Bool} {data : GVariantWrapper V}
      {outcomes : Outcomes} {a : Activation} {switch : Switch V} {es : List (BusEntry V)} :
      Activates outcomes s.paths s.switch data sourceId now a switch es →
      Performs s (.activateSource sourceId now data outcomes)
        (.ok () { s with switch, log := s.log ++ es })
  | completed {dest : Option String} {outcomes : Outcomes} {r : ActivateResult}
      {switch : Switch V} {es : List (BusEntry V)} :
      Completes outcomes s.paths s.switch r switch es →
      Performs s (.completePending dest outcomes)
        (.ok () { s with switch, log := s.log ++ es })
  | canceled {dest : String} {outcomes : Outcomes} {r : ActivateResult}
      {switch : Switch V} {es : List (BusEntry V)} :
      Cancels outcomes s.paths s.switch r switch es →
      Performs s (.cancelPending dest outcomes)
        (.ok () { s with switch, log := s.log ++ es })
  | released {killPlayer : Bool} {data : GVariantWrapper V} {outcomes : Outcomes}
      {r : Release} {switch : Switch V} {es : List (BusEntry V)} :
      Releases outcomes s.paths s.switch data killPlayer r switch es →
      Performs s (.releasePath killPlayer data outcomes)
        (.ok () { s with switch, log := s.log ++ es })
  | activationCrashed {sourceId : String} {now : Bool} {data : GVariantWrapper V}
      {outcomes : Outcomes} {switch : Switch V} {es : List (BusEntry V)} :
      ActivationCrashes outcomes s.paths s.switch data sourceId es →
      Performs s (.activateSource sourceId now data outcomes)
        (.error .nullProxy { s with switch, log := s.log ++ es })
  | pendingCrashed {op : Operation V} {switch : Switch V} :
      PendingProxyMissing s.paths s.switch →
      Performs s op (.error .nullProxy { s with switch })
  | releaseCrashed {killPlayer : Bool} {data : GVariantWrapper V} {outcomes : Outcomes}
      {switch : Switch V} {es : List (BusEntry V)} :
      ReleaseCrashes outcomes s.paths s.switch data es →
      Performs s (.releasePath killPlayer data outcomes)
        (.error .nullProxy { s with switch, log := s.log ++ es })

namespace Session

variable {s s' : Session V}

theorem lookupPlayer_nameless_addPlayer {paths : Paths} {player : Player}
    (hid : player.id ≠ "") (h : paths.lookupPlayer "" = none) :
    (paths.addPlayer player).1.lookupPlayer "" = none := by
  rw [Paths.addPlayer_lookupPlayer, if_neg hid, h]

/-- Operations of a consistent session end in one of the listed ways. -/
theorem performs (h : Consistent s.paths s.switch) (op : Operation V) :
    Performs s op (s.perform op) := by
  cases op with
  | addPlayer player =>
      simp only [perform]
      split
      · exact .registered (.refl _) id
      · rename_i hid
        exact .registered (Paths.extends_addPlayer _ _) (lookupPlayer_nameless_addPlayer hid)
  | addSource source =>
      simp only [perform]
      split
      · exact .registered (.refl _) id
      · exact .registered (Paths.extends_addSource _ _) id
  | activateSource sourceId now data outcomes =>
      rcases activateSource_run outcomes data h sourceId now [] with
        ⟨a, sw', es, ha, hrun⟩ | ⟨sw', es, hcrash, hrun⟩
      · simp only [perform, carryOut, hrun]
        exact .activated ha
      · simp only [perform, carryOut, hrun]
        exact .activationCrashed hcrash
  | completePending dest outcomes =>
      rcases completePendingSourceActivation_run outcomes h dest [] with
        ⟨r, sw', es, hc, hrun⟩ | ⟨hmissing, hrun⟩
      · simp only [perform, carryOut, hrun]
        exact .completed hc
      · simp only [perform, carryOut, hrun, update, List.append_nil]
        exact .pendingCrashed hmissing
  | cancelPending dest outcomes =>
      rcases cancelPendingSourceActivation_run outcomes h dest [] with
        ⟨r, sw', es, hc, hrun⟩ | ⟨hmissing, hrun⟩
      · simp only [perform, carryOut, hrun]
        exact .canceled hc
      · simp only [perform, carryOut, hrun, update, List.append_nil]
        exact .pendingCrashed hmissing
  | releasePath killPlayer data outcomes =>
      rcases releasePath_run outcomes data h killPlayer [] with
        ⟨r, sw', es, hr, hrun⟩ | ⟨sw', es, hcrash, hrun⟩
      · simp only [perform, carryOut, hrun]
        exact .released hr
      · simp only [perform, carryOut, hrun]
        exact .releaseCrashed hcrash

theorem step_eq_some {op : Operation V} :
    (system V).step s op = some s' ↔ s.perform op = .ok () s' := by
  simp only [system]
  cases s.perform op with
  | ok a s'' => simp
  | error fault s'' => simp

/-- What holds between the operations of a session. -/
structure Sound (s : Session V) : Prop where
  consistent : Consistent s.paths s.switch
  /-- `MSG_BUG_IF` and `msg_log_assert` have never fired. -/
  calls : ∀ e ∈ s.log, e.IsCall
  /-- No player is registered under the empty ID. -/
  named : s.paths.lookupPlayer "" = none

theorem Sound.initial : (initial : Session V).Sound where
  consistent := .initial _
  calls := by simp [Session.initial]
  named := Paths.lookupPlayer_empty ""

theorem Sound.step {op : Operation V} (h : s.Sound)
    (hstep : s.perform op = .ok () s') : s'.Sound := by
  have hp := performs h.consistent op
  rw [hstep] at hp
  cases hp with
  | registered hext hnamed => exact ⟨h.consistent.mono hext, h.calls, hnamed h.named⟩
  | activated ha => exact ⟨ha.consistent h.consistent, calls_append h.calls ha.sends, h.named⟩
  | completed hc => exact ⟨hc.consistent h.consistent, calls_append h.calls hc.sends, h.named⟩
  | canceled hc => exact ⟨hc.consistent h.consistent, calls_append h.calls hc.sends, h.named⟩
  | released hr => exact ⟨hr.consistent h.consistent, calls_append h.calls hr.sends, h.named⟩

theorem sound_of_reachable (h : (system V).Reachable s) : s.Sound := by
  refine System.reachable_induction Sound.initial ?_ h
  intro s op s' _ ih hstep
  exact ih.step (step_eq_some.mp hstep)

/-- A crashing operation of a sound session has run into a missing proxy, and has
not fired `MSG_BUG_IF` or `msg_log_assert` before. -/
theorem Sound.crash {op : Operation V} {fault : Fault} (h : s.Sound)
    (hcrash : s.perform op = .error fault s') :
    fault = .nullProxy ∧ ∀ e ∈ s'.log, e.IsCall := by
  have hp := performs h.consistent op
  rw [hcrash] at hp
  cases hp with
  | activationCrashed hc => exact ⟨rfl, calls_append h.calls hc.sends⟩
  | pendingCrashed => exact ⟨rfl, h.calls⟩
  | releaseCrashed hc => exact ⟨rfl, calls_append h.calls hc.sends⟩

/-- A player and a source are registered, and the source is requested. -/
def requestOperations : List (Operation Unit) :=
  [.addPlayer ⟨"player", "Player", some ⟨0, ":1.1", "/player"⟩⟩,
    .addSource ⟨"source", "Source", "player", some ⟨1, ":1.1", "/source"⟩⟩,
    .activateSource "source" true none fun _ => true]

theorem exists_requested : ∃ s : Session Unit, (system Unit).Reachable s ∧
    s.switch = ⟨"source", "player", {}⟩ := by
  have hexec : ∃ s, (system Unit).exec (system Unit).init requestOperations = some s ∧
      s.switch = ⟨"source", "player", {}⟩ := ⟨_, rfl, rfl⟩
  obtain ⟨s, hs, hswitch⟩ := hexec
  exact ⟨s, (System.run_of_exec hs).reachable, hswitch⟩

/-- In every reachable session, no source is current while another is pending, both
are on a complete path to the current player, and the current player is registered.
No operation, completed or not, has dereferenced a failed lookup or fired `MSG_BUG_IF` or
`msg_log_assert`. -/
theorem switch_invariant (h : (system V).Reachable s) :
    (s.switch.currentSourceId = "" ∨ s.switch.pending.sourceId = "") ∧
    (s.switch.currentSourceId ≠ "" → ∃ source player,
      s.paths.lookupPath s.switch.currentSourceId = (some source, some player) ∧
        player.id = s.switch.currentPlayerId) ∧
    (s.switch.pending.sourceId ≠ "" → ∃ source player,
      s.paths.lookupPath s.switch.pending.sourceId = (some source, some player) ∧
        player.id = s.switch.currentPlayerId) ∧
    (s.switch.currentPlayerId ≠ "" →
      ∃ player, s.paths.lookupPlayer s.switch.currentPlayerId = some player) ∧
    (∀ e ∈ s.log, e.IsCall) ∧
    ∀ op fault s', s.perform op = .error fault s' →
      fault ≠ .nullComponent ∧ ∀ e ∈ s'.log, e.IsCall := by
  have hsound := sound_of_reachable h
  refine ⟨hsound.consistent.exclusive, hsound.consistent.current,
    hsound.consistent.pending, hsound.consistent.player, hsound.calls, ?_⟩
  intro op fault s' hcrash
  obtain ⟨rfl, hcalls⟩ := hsound.crash hcrash
  exact ⟨by decide, hcalls⟩

theorem switch_invariant_requested : ∃ s : Session Unit, (system Unit).Reachable s ∧
    ∃ source player, s.paths.lookupPath "source" = (some source, some player) ∧
      player.id = "player" := by
  obtain ⟨s, hreach, hswitch⟩ := exists_requested
  obtain ⟨-, hcurrent, -⟩ := switch_invariant hreach
  rw [hswitch] at hcurrent
  exact ⟨s, hreach, hcurrent (by decide)⟩

end Session

end TapSwitch
