import TapSwitch.ApplianceMemory
import TapSwitch.Board

set_option autoImplicit false

/-!
# The daemon is a board

The daemon keeps IDs in strings that may be empty, a current and a pending source side by
side, result codes, and a queue of its own for the calls that wait.  This file relates its
states to boards and its events to moves, and proves that whatever the daemon does is a
sequence of moves.
-/

namespace TapSwitch

open Library

variable {M V : Type}

/-- The ID of a component. -/
abbrev Name : Type := { id : String // id ≠ "" }

/-- A string as the ID of a component. -/
def Name.of? (id : String) : Option Name :=
  if h : id = "" then none else some ⟨id, h⟩

/-- A client that waits: its manager object and the data it has passed. -/
abbrev Client (V : Type) : Type := Nat × GVariantWrapper V

/-- A queued call as a client. -/
def Pending.client (p : Pending V) : Client V := (p.object, p.requestData)

/-- What a registry has to say about who has enrolled. -/
def Paths.directory (paths : Paths) : Directory Name Name where
  players p := (paths.lookupPlayer p.1).isSome
  owner s := (paths.lookupSource s.1).bind fun source => Name.of? source.playerId

/-- The result of phase one. -/
def phaseOne (switched : Bool) : ActivateResult :=
  if switched then .okPlayerSwitchedSourceDeferred else .okPlayerSameSourceDeferred

/-- The route as the switch stores it. -/
def Route.switch : Route Name Name (Client V) → Switch V
  | .silent => {}
  | .parked p => { currentPlayerId := p.1 }
  | .playing s p => { currentSourceId := s.1, currentPlayerId := p.1 }
  | .waiting s p switched first _ =>
      { currentPlayerId := p.1, pending := ⟨s.1, first.2, phaseOne switched⟩ }

/-- What players and sources answer, by method. -/
def Outcomes.answers (outcomes : Outcomes) : Answers where
  player := outcomes .activate
  start := outcomes .selected
  hold := outcomes .selectedOnHold

/-- No ID of the creation is empty, neither its own nor that of the player it names. -/
def Creation.Named : Creation → Prop
  | .player _ _ playerId .. => playerId ≠ ""
  | .source _ _ sourceId _ playerId .. => sourceId ≠ "" ∧ playerId ≠ ""

/-! ## Names -/

@[simp] theorem Name.of?_empty : Name.of? "" = none := rfl

@[simp] theorem Name.of?_val (n : Name) : Name.of? n.1 = some n := dif_neg n.2

theorem Name.of?_eq {id : String} (h : id ≠ "") : Name.of? id = some ⟨id, h⟩ := dif_neg h

theorem Name.of?_eq_some {id : String} {n : Name} : Name.of? id = some n ↔ id = n.1 := by
  constructor
  · intro h
    unfold of? at h
    split at h
    · cases h
    · exact congrArg Subtype.val (Option.some.inj h)
  · rintro rfl
    exact of?_val n

namespace Paths

variable {paths : Paths}

/-- The player of a source, as the registry finds it on the path. -/
theorem playerOf_directory {s p : Name} :
    paths.directory.playerOf s = some p ↔
      ∃ source player, paths.lookupPath s.1 = (some source, some player) ∧ player.id = p.1 := by
  rw [Directory.playerOf_eq_some]
  simp only [directory, Option.bind_eq_some_iff, Name.of?_eq_some, Option.isSome_iff_exists,
    lookupPath_eq_some]
  constructor
  · rintro ⟨⟨source, hsource, howner⟩, player, hplayer⟩
    exact ⟨source, player, ⟨hsource, howner ▸ hplayer⟩, id_of_lookupPlayer hplayer⟩
  · rintro ⟨source, player, ⟨hsource, hplayer⟩, hid⟩
    have howner : source.playerId = p.1 := (id_of_lookupPlayer hplayer).symm.trans hid
    exact ⟨⟨source, hsource, howner⟩, player, howner ▸ hplayer⟩

theorem directory_empty : empty.directory = Directory.empty := by
  simp [directory, Directory.empty]

/-- Registering a player enrolls it. -/
theorem directory_addPlayer (paths : Paths) (player : Player) (hid : player.id ≠ "") :
    (paths.addPlayer player).1.directory = paths.directory.enrollPlayer ⟨player.id, hid⟩ := by
  refine Directory.ext ?_ ?_
  · funext p
    by_cases hp : p = ⟨player.id, hid⟩
    · subst hp
      simp [directory, Directory.enrollPlayer, addPlayer_lookupPlayer]
    · have hne : player.id ≠ p.1 := fun heq => hp (Subtype.ext heq.symm)
      simp [directory, Directory.enrollPlayer, addPlayer_lookupPlayer, hne,
        Function.update_of_ne hp]
  · rfl

/-- Registering a source enrolls it, with the player it has named first. -/
theorem directory_addSource (paths : Paths) (source : Source) (hid : source.id ≠ "")
    (hplayer : source.playerId ≠ "")
    (howners : ∀ {k : String} {s : Source}, paths.lookupSource k = some s → s.playerId ≠ "") :
    (paths.addSource source).1.directory =
      paths.directory.enrollSource ⟨source.id, hid⟩ ⟨source.playerId, hplayer⟩ := by
  refine Directory.ext rfl ?_
  funext s
  by_cases hs : s = ⟨source.id, hid⟩
  · subst hs
    cases hfound : paths.lookupSource source.id with
    | none =>
        simp [directory, Directory.enrollSource, addSource_lookupSource, hfound,
          Name.of?_eq hplayer]
    | some stored =>
        have hstored := howners hfound
        simp [directory, Directory.enrollSource, addSource_lookupSource, hfound,
          Name.of?_eq hstored]
  · have hne : source.id ≠ s.1 := fun heq => hs (Subtype.ext heq.symm)
    simp [directory, Directory.enrollSource, addSource_lookupSource, hne,
      Function.update_of_ne hs]

end Paths

/-! ## Routes and switches -/

section Switch

variable {r : Route Name Name (Client V)} {paths : Paths} {outcomes : Outcomes}
  {data : GVariantWrapper V} {sw' : Switch V} {es : List (BusEntry V)}

/-- The player that holds the device is the current player. -/
theorem Route.player?_eq_some_iff (p : Name) :
    r.player? = some p ↔ r.switch.currentPlayerId = p.1 := by
  cases r with
  | silent => exact iff_of_false (by simp [player?]) fun h => p.2 h.symm
  | parked q => simp [player?, switch, Subtype.ext_iff]
  | playing s q => simp [player?, switch, Subtype.ext_iff]
  | waiting s q switched first more => simp [player?, switch, Subtype.ext_iff]

/-- The source that plays or waits is the current or the pending source. -/
theorem Route.source?_eq_some_iff (s : Name) :
    r.source? = some s ↔
      r.switch.currentSourceId = s.1 ∨ r.switch.pending.sourceId = s.1 := by
  have hs := s.2
  cases r with
  | silent => simp [source?, switch, hs.symm]
  | parked q => simp [source?, switch, hs.symm]
  | playing t q => simp [source?, switch, hs.symm, Subtype.ext_iff]
  | waiting t q switched first more => simp [source?, switch, hs.symm, Subtype.ext_iff]

@[simp] theorem Route.switch_settle :
    r.settle.switch = { r.switch with pending := {} } := by
  cases r <;> rfl

/-- Without current and pending source, the switch is that of the player alone. -/
theorem Route.switch_deselected : (r.release false).switch = r.switch.deselected := by
  cases r <;> rfl

/-- A fresh source is neither playing nor waiting. -/
theorem Fresh.source? {sourceId : String} (h : Fresh r.switch sourceId) :
    r.source? ≠ some ⟨sourceId, h.nonempty⟩ := by
  rw [Ne, Route.source?_eq_some_iff]
  rintro (hcurrent | hpending)
  · exact h.not_current hcurrent.symm
  · exact h.not_pending hpending.symm

/-- A rejected request sends away whoever waits. -/
theorem Rejects.request {sourceId : String} {result : ActivateResult}
    (h : Rejects paths r.switch sourceId result) (ready : Bool) (answers : Answers)
    (c : Client V) :
    r.request paths.directory ready answers c (Name.of? sourceId) = r.settle := by
  have hrejected : ∀ hfresh : Fresh r.switch sourceId,
      (∀ source player, paths.lookupPath sourceId ≠ (some source, some player)) →
      r.request paths.directory ready answers c (Name.of? sourceId) = r.settle := by
    intro hfresh hpath
    have hnone : paths.directory.playerOf ⟨sourceId, hfresh.nonempty⟩ = none := by
      rw [Option.eq_none_iff_forall_not_mem]
      intro p hp
      obtain ⟨source, player, hfound, -⟩ := Paths.playerOf_directory.mp hp
      exact hpath source player hfound
    rw [Name.of?_eq hfresh.nonempty, Route.request, if_neg hfresh.source?, hnone]
  cases h with
  | empty hempty => rw [hempty, Name.of?_empty, Route.request]
  | sourceUnknown hfresh hnone =>
      refine hrejected hfresh fun source player hpath => ?_
      rw [(Paths.lookupPath_eq_some.mp hpath).1] at hnone
      cases hnone
  | playerUnknown hfresh hsource hnone =>
      refine hrejected hfresh fun source player hpath => ?_
      obtain ⟨hsource', hplayer⟩ := Paths.lookupPath_eq_some.mp hpath
      rw [hsource, Option.some.injEq] at hsource'
      rw [hsource', hplayer] at hnone
      cases hnone

/-- A request for a fresh source hands it the device. -/
theorem Fresh.request {sourceId : String} {source : Source} {player : Player}
    (h : Fresh r.switch sourceId)
    (hpath : paths.lookupPath sourceId = (some source, some player)) (hid : player.id ≠ "")
    (ready : Bool) (answers : Answers) (c : Client V) :
    r.request paths.directory ready answers c (Name.of? sourceId) =
      r.hand ready answers c ⟨sourceId, h.nonempty⟩ ⟨player.id, hid⟩ := by
  have hplayer : paths.directory.playerOf ⟨sourceId, h.nonempty⟩ = some ⟨player.id, hid⟩ :=
    Paths.playerOf_directory.mpr ⟨source, player, hpath, rfl⟩
  rw [Name.of?_eq h.nonempty, Route.request, if_neg h.source?, hplayer]

/-- Either the player holds the device already, or it takes it. -/
theorem SwitchesTo.takes {player : Player}
    (h : SwitchesTo outcomes paths r.switch data player es) (hid : player.id ≠ "") :
    ¬ (r.player? ≠ some ⟨player.id, hid⟩ ∧ outcomes.answers.player = false) := by
  rintro ⟨hother, hrefused⟩
  cases h with
  | same hsame => exact hother ((Route.player?_eq_some_iff _).mpr hsame.symm)
  | changed _ _ _ hok =>
      rw [Outcomes.answers, hok] at hrefused
      cases hrefused

/-- What phase one has been depends on the player that has held the device before. -/
theorem activationResult_deferred_eq {playerId : String} (hid : playerId ≠ "") :
    activationResult r.switch playerId false =
      phaseOne (r.player? ≠ some ⟨playerId, hid⟩) := by
  have hiff := Route.player?_eq_some_iff (r := r) ⟨playerId, hid⟩
  unfold activationResult phaseOne
  by_cases hsame : playerId = r.switch.currentPlayerId
  · simp [hsame, hiff.mpr hsame.symm]
  · simp [hsame, mt hiff.mp fun heq => hsame heq.symm]

/-- The switch after a request is the one of the route after the request. -/
theorem Activates.request (hnamed : paths.lookupPlayer "" = none) {sourceId : String}
    {ready : Bool} {a : Activation}
    (ha : Activates outcomes paths r.switch data sourceId ready a sw' es) (object : Nat) :
    sw' = (r.request paths.directory ready outcomes.answers (object, data)
      (Name.of? sourceId)).switch := by
  cases ha with
  | rejected hrejects => rw [hrejects.request, Route.switch_settle]
  | unchanged hnonempty hcurrent =>
      have hsource : r.source? = some ⟨sourceId, hnonempty⟩ :=
        (Route.source?_eq_some_iff _).mpr (.inl hcurrent.symm)
      rw [Name.of?_eq hnonempty, Route.request, if_pos hsource]
      cases r <;> rfl
  | alreadyPending hnonempty hpending =>
      have hsource : r.source? = some ⟨sourceId, hnonempty⟩ :=
        (Route.source?_eq_some_iff _).mpr (.inr hpending.symm)
      rw [Name.of?_eq hnonempty, Route.request, if_pos hsource]
      cases r <;> rfl
  | playerFailed hfresh hpath hchanged _ _ _ hrefused =>
      have hid := player_named hnamed hpath
      have hother := fun h => hchanged ((Route.player?_eq_some_iff ⟨_, hid⟩).mp h).symm
      rw [hfresh.request hpath hid, Route.hand_refused ⟨hother, hrefused⟩]
      rfl
  | sourceFailed hfresh hpath _ hs _ hfailed =>
      have hid := player_named hnamed hpath
      rw [hfresh.request hpath hid, Route.hand_taken (hs.takes hid)]
      cases ready with
      | true =>
          have hstart : outcomes.answers.start = false := hfailed
          rw [if_pos rfl, hstart]
          rfl
      | false =>
          have hhold : outcomes.answers.hold = false := hfailed
          rw [if_neg Bool.false_ne_true, hhold]
          rfl
  | switched hfresh hpath _ hs _ hok =>
      have hid := player_named hnamed hpath
      have hsource := Paths.id_of_lookupSource (Paths.lookupPath_eq_some.mp hpath).1
      rw [hfresh.request hpath hid, Route.hand_taken (hs.takes hid)]
      cases ready with
      | true =>
          have hstart : outcomes.answers.start = true := hok
          rw [if_pos rfl, hstart, if_pos rfl]
          simp [switchedTo, Route.switch, hsource]
      | false =>
          have hhold : outcomes.answers.hold = true := hok
          rw [if_neg Bool.false_ne_true, hhold, if_pos rfl, switchedTo,
            if_neg Bool.false_ne_true, activationResult_deferred_eq hid, hsource]
          rfl

/-- Nobody waits for a route that has been settled. -/
theorem Route.callers_settle : r.settle.callers = [] := by
  cases r <;> rfl

/-- If nothing is pending, nobody waits. -/
theorem Route.settle_of_pending (h : r.switch.pending.sourceId = "") : r.settle = r := by
  cases r with
  | waiting s p switched first more => exact absurd h s.2
  | silent | parked | playing => rfl

theorem Route.callers_start (answers : Answers) : (r.start answers).callers = [] := by
  cases r with
  | waiting s p switched first more =>
      simp only [start]
      split <;> rfl
  | silent | parked | playing => rfl

/-- Completing a pending activation starts the source that waits. -/
theorem Completes.start {result : ActivateResult}
    (hc : Completes outcomes paths r.switch result sw' es) :
    sw' = (r.start outcomes.answers).switch := by
  cases hc with
  | nothingPending hnone => rw [Route.start_of_settle (Route.settle_of_pending hnone)]
  | sourceFailed hpending _ _ hfailed =>
      have hstart : outcomes.answers.start = false := hfailed
      cases r with
      | waiting s p switched first more => simp [Route.start, hstart, Route.switch]
      | silent | parked | playing => exact absurd rfl hpending
  | selected hpending _ _ hok =>
      have hstart : outcomes.answers.start = true := hok
      cases r with
      | waiting s p switched first more => simp [Route.start, hstart, Route.switch]
      | silent | parked | playing => exact absurd rfl hpending

/-- Canceling a pending activation sends the source away that waits. -/
theorem Cancels.settle {result : ActivateResult}
    (hc : Cancels outcomes paths r.switch result sw' es) : sw' = r.settle.switch := by
  cases hc with
  | nothingPending hnone => rw [Route.settle_of_pending hnone]
  | canceled hpending =>
      cases r with
      | waiting s p switched first more => rfl
      | silent | parked | playing => exact absurd rfl hpending

theorem Route.callers_release (killPlayer : Bool) : (r.release killPlayer).callers = [] := by
  cases killPlayer <;> cases r <;> rfl

theorem Releases.release {killPlayer : Bool} {result : Release}
    (hr : Releases outcomes paths r.switch data killPlayer result sw' es) :
    sw' = (r.release killPlayer).switch := by
  cases hr with
  | kept => rw [Route.switch_deselected]
  | killed => rfl

end Switch

/-! ## The appliance -/

section Appliance

variable [MaybeBool M] [LawfulMaybeBool M] (appliance : Appliance M) (audioState powerState : UInt8)

theorem readAppliance_isUpAndRunning :
    MaybeBool.is (readAppliance appliance audioState powerState).1.isUpAndRunning false =
      (powerState == 1) := by
  rw [Bool.eq_iff_iff, LawfulMaybeBool.is_iff, (recalls_readAppliance _ _ _).power]
  simp [reported_eq_false]

theorem readAppliance_isReadyForPlayback :
    MaybeBool.is (readAppliance appliance audioState powerState).1.isReadyForPlayback false =
      (audioState == 1) := by
  rw [Bool.eq_iff_iff, LawfulMaybeBool.is_iff, (recalls_readAppliance _ _ _).audio]
  simp [reported_eq_false]

theorem readAppliance_enableAllowed :
    (readAppliance appliance audioState powerState).1.enableAllowed =
      (!(powerState == 1) && !(audioState == 1)) := by
  rw [Appliance.enableAllowed, isAudioPathEnableAllowed, readAppliance_isUpAndRunning,
    readAppliance_isReadyForPlayback, Bool.not_or]

theorem readAppliance_just :
    (readAppliance appliance audioState powerState).2 =
      (powerState == 1 && !MaybeBool.is appliance.isUpAndRunning false) := by
  rw [Bool.eq_iff_iff, readAppliance_suspended, (recalls_readAppliance _ _ _).suspended,
    Appliance.KnownSuspended, ← LawfulMaybeBool.is_iff]
  simp

end Appliance

/-! ## The daemon as a board -/

section Refinement

variable [MaybeBool M]

/-- The board shows what the daemon does with the device. -/
structure Depicts (d : Daemon M V) (b : Board Name Name (Client V)) : Prop where
  directory : d.data.audioPaths.directory = b.directory
  switch : d.data.audioPathSwitch = b.route.switch
  callers : d.queue.map Pending.client = b.route.callers
  suspended : MaybeBool.is d.data.applianceState.isUpAndRunning false = b.suspended
  blocked : MaybeBool.is d.data.applianceState.isReadyForPlayback false = b.blocked
  /-- Every source names a player. -/
  owners : ∀ {k : String} {source : Source},
    d.data.audioPaths.lookupSource k = some source → source.playerId ≠ ""
  creations : ∀ creation ∈ d.creations, creation.Named

variable {d d' : Daemon M V} {b : Board Name Name (Client V)}

/-- The enrollment that a creation is for. -/
def Creation.move? : Creation → Option (Move Name Name (Client V))
  | .player _ _ playerId .. => (Name.of? playerId).map .enrollPlayer
  | .source _ _ sourceId _ playerId .. =>
      (Name.of? sourceId).bind fun s => (Name.of? playerId).map (.enrollSource s)

/-- What an event means for the board. -/
def Daemon.moves (d : Daemon M V) : Event V → List (Move Name Name (Client V))
  | .proxyDone index _ => ((d.creations[index]?).bind Creation.move?).toList
  | .requestSource object sourceId data outcomes =>
      [.request (Name.of? sourceId) (object, data) outcomes.answers]
  | .releasePath _ deactivatePlayer _ _ => [.release deactivatePlayer]
  | .setReadyState audioState powerState outcomes _ =>
      [.report (powerState == 1) (audioState == 1) outcomes.answers]
  | .registerPlayer .. | .registerSource .. | .query _ => []

theorem Depicts.ready (h : Depicts d b) : d.data.applianceState.enableAllowed = b.ready := by
  unfold Appliance.enableAllowed isAudioPathEnableAllowed Board.ready
  rw [h.suspended, h.blocked, Bool.not_or]

/-- A request leads to the depicted queue. -/
theorem Depicts.callers_requested (h : Depicts d b) (hinStep : InStep d)
    (hsw : Consistent d.data.audioPaths d.data.audioPathSwitch)
    (hnamed : d.data.audioPaths.lookupPlayer "" = none) {sourceId : String}
    {data : GVariantWrapper V} {outcomes : Outcomes} {a : Activation} {sw' : Switch V}
    {es : List (BusEntry V)}
    (ha : Activates outcomes d.data.audioPaths d.data.audioPathSwitch data sourceId
      d.data.applianceState.enableAllowed a sw' es) (object : Nat) :
    (d.next.requested object d.served sourceId data a sw' es).queue.map Pending.client =
      (b.route.request d.data.audioPaths.directory d.data.applianceState.enableAllowed
        outcomes.answers (object, data) (Name.of? sourceId)).callers := by
  have hcallers : (keptCalls .none d.queue).map Pending.client = b.route.callers := h.callers
  have hkept : ∀ {r es}, Deselects outcomes d.data.audioPaths d.data.audioPathSwitch data r es →
      (keptCalls r d.queue).map Pending.client = [] := by
    intro r es hd
    rw [hinStep.kept_of_deselects hsw hd, List.map_nil]
  rw [queue_requested, List.map_append, Daemon.next_queue, Daemon.next_data]
  rw [h.switch] at ha hkept
  cases ha with
  | rejected hrejects =>
      rw [hrejects.request, Route.callers_settle, ← h.switch, hinStep.kept_of_rejected]
      simp [waits, isFinal_of_rejects hrejects]
  | unchanged hnonempty hcurrent =>
      have hsource : b.route.source? = some ⟨sourceId, hnonempty⟩ :=
        (Route.source?_eq_some_iff _).mpr (.inl hcurrent.symm)
      rw [Name.of?_eq hnonempty, Route.request, if_pos hsource, hcallers]
      cases hroute : b.route with
      | waiting s p switched first more =>
          rw [hroute] at hcurrent
          exact absurd hcurrent hnonempty
      | silent | parked | playing => simp [Route.callers, Route.join, waits, isFinal]
  | alreadyPending hnonempty hpending =>
      have hsource : b.route.source? = some ⟨sourceId, hnonempty⟩ :=
        (Route.source?_eq_some_iff _).mpr (.inr hpending.symm)
      have hgate : d.data.applianceState.enableAllowed = false := by
        refine hinStep.gate ?_
        rw [Daemon.pendingId, h.switch, ← hpending]
        exact hnonempty
      rw [Name.of?_eq hnonempty, Route.request, if_pos hsource, hcallers, hgate]
      cases hroute : b.route with
      | waiting s p switched first more =>
          simp [Route.callers, Route.join, Pending.client, waits, isFinal]
      | silent | parked | playing =>
          rw [hroute] at hpending
          exact absurd hpending hnonempty
  | playerFailed hfresh hpath hchanged hd _ _ hrefused =>
      have hid := player_named hnamed hpath
      have hother := fun h => hchanged ((Route.player?_eq_some_iff ⟨_, hid⟩).mp h).symm
      rw [hfresh.request hpath hid, Route.hand_refused ⟨hother, hrefused⟩, hkept hd]
      simp [waits, isFinal, Route.callers]
  | sourceFailed hfresh hpath hd hs _ hfailed =>
      have hid := player_named hnamed hpath
      rw [hfresh.request hpath hid, Route.hand_taken (hs.takes hid), hkept hd]
      cases hready : d.data.applianceState.enableAllowed with
      | true =>
          have hstart : outcomes.answers.start = false := by rwa [hready] at hfailed
          simp [hstart, waits, isFinal, Route.callers]
      | false =>
          have hhold : outcomes.answers.hold = false := by rwa [hready] at hfailed
          simp [hhold, waits, isFinal, Route.callers]
  | switched hfresh hpath hd hs _ hok =>
      have hid := player_named hnamed hpath
      rw [hfresh.request hpath hid, Route.hand_taken (hs.takes hid), hkept hd,
        waits_activationResult]
      cases hready : d.data.applianceState.enableAllowed with
      | true =>
          have hstart : outcomes.answers.start = true := by rwa [hready] at hok
          simp [hstart, Route.callers]
      | false =>
          have hhold : outcomes.answers.hold = true := by rwa [hready] at hok
          simp [hhold, Route.callers, Pending.client]

theorem Event.named_of_creation {e : Event V} {invocation : Nat} {creation : Creation}
    (h : e.creation invocation = some creation) : creation.Named := by
  cases e with
  | registerPlayer object playerId playerName path dest =>
      simp only [Event.creation] at h
      split at h
      · cases h
      · rename_i hnonempty
        rw [← Option.some.inj h]
        exact fun hid => hnonempty (.inl hid)
  | registerSource object sourceId sourceName playerId path dest =>
      simp only [Event.creation] at h
      split at h
      · cases h
      · rename_i hnonempty
        rw [← Option.some.inj h]
        exact ⟨fun hid => hnonempty (.inl hid),
          fun hid => hnonempty (.inr (.inr (.inl hid)))⟩
  | proxyDone | requestSource | releasePath | setReadyState | query =>
      simp [Event.creation] at h

/-- Nothing the board shows has changed. -/
theorem Depicts.same (h : Depicts d b) (hdata : d'.data = d.data)
    (hcreations : ∀ creation ∈ d'.creations, creation.Named) : Depicts d' b where
  directory := hdata ▸ h.directory
  switch := hdata ▸ h.switch
  callers := by rw [Daemon.queue, hdata]; exact h.callers
  suspended := hdata ▸ h.suspended
  blocked := hdata ▸ h.blocked
  owners := hdata ▸ h.owners
  creations := hcreations

theorem Depicts.named_of_eraseIdx (h : Depicts d b) (i : Nat) :
    ∀ creation ∈ d.creations.eraseIdx i, creation.Named :=
  fun creation hmem => h.creations creation (List.mem_of_mem_eraseIdx hmem)

/-- A completed registration is an enrollment. -/
theorem Depicts.playerRegistered (h : Depicts d b) (i object invocation : Nat) (player : Player)
    (hid : player.id ≠ "") :
    Depicts ({ d.next with creations := d.creations.eraseIdx i }.playerRegistered object
      invocation player) (b.after (.enrollPlayer ⟨player.id, hid⟩)) where
  directory := (Paths.directory_addPlayer _ player hid).trans (h.directory ▸ rfl)
  switch := h.switch
  callers := h.callers
  suspended := h.suspended
  blocked := h.blocked
  owners := h.owners
  creations := h.named_of_eraseIdx i

theorem Depicts.sourceRegistered (h : Depicts d b) (i object invocation : Nat) (source : Source)
    (hid : source.id ≠ "") (hplayer : source.playerId ≠ "") :
    Depicts ({ d.next with creations := d.creations.eraseIdx i }.sourceRegistered object
      invocation source)
      (b.after (.enrollSource ⟨source.id, hid⟩ ⟨source.playerId, hplayer⟩)) where
  directory :=
    (Paths.directory_addSource _ source hid hplayer h.owners).trans (h.directory ▸ rfl)
  switch := h.switch
  callers := h.callers
  suspended := h.suspended
  blocked := h.blocked
  owners {k stored} hstored := by
    have hlookup : (d.data.audioPaths.addSource source).1.lookupSource k = some stored := hstored
    rw [Paths.addSource_lookupSource] at hlookup
    split at hlookup
    · cases hfound : d.data.audioPaths.lookupSource k with
      | none =>
          rw [hfound, Option.some.injEq] at hlookup
          exact hlookup ▸ hplayer
      | some old =>
          rw [hfound, Option.some.injEq] at hlookup
          have hstored := h.owners hfound
          rwa [← hlookup]
    · exact h.owners hlookup
  creations := h.named_of_eraseIdx i

/-- A request for a source, with what the board makes of the answers. -/
theorem Depicts.requested (h : Depicts d b) (hinStep : InStep d)
    (hsw : Consistent d.data.audioPaths d.data.audioPathSwitch)
    (hnamed : d.data.audioPaths.lookupPlayer "" = none) {sourceId : String}
    {data : GVariantWrapper V} {outcomes : Outcomes} {a : Activation} {sw' : Switch V}
    {es : List (BusEntry V)}
    (ha : Activates outcomes d.data.audioPaths d.data.audioPathSwitch data sourceId
      d.data.applianceState.enableAllowed a sw' es) (object : Nat) :
    Depicts (d.next.requested object d.served sourceId data a sw' es)
      (b.after (.request (Name.of? sourceId) (object, data) outcomes.answers)) := by
  have hcallers := h.callers_requested hinStep hsw hnamed ha object
  rw [h.switch] at ha
  have hswitch := ha.request hnamed object
  rw [h.directory, h.ready] at hswitch hcallers
  exact
    { directory := h.directory
      switch := hswitch
      callers := hcallers
      suspended := h.suspended
      blocked := h.blocked
      owners := h.owners
      creations := h.creations }

/-- A release leaves no client waiting. -/
theorem Depicts.released (h : Depicts d b) (hinStep : InStep d)
    (hsw : Consistent d.data.audioPaths d.data.audioPathSwitch) {outcomes : Outcomes}
    {deactivatePlayer : Bool} {data : GVariantWrapper V} {r : Release} {sw' : Switch V}
    {es : List (BusEntry V)}
    (hr : Releases outcomes d.data.audioPaths d.data.audioPathSwitch data deactivatePlayer
      r sw' es) (object : Nat) :
    Depicts (d.next.released object d.served data r sw' es)
      (b.after (.release deactivatePlayer)) := by
  have hkept : keptCalls r.deselectedResult d.queue = [] := by
    cases hr with
    | kept hd | killed hd => exact hinStep.kept_of_deselects hsw hd
  rw [h.switch] at hr
  exact
    { directory := h.directory
      switch := hr.release
      callers := by
        rw [queue_released, Daemon.next_queue, hkept]
        exact (Route.callers_release _).symm
      suspended := h.suspended
      blocked := h.blocked
      owners := h.owners
      creations := h.creations }

/-- How the daemon reads a report decides what becomes of the route. -/
theorem Depicts.routeReported [LawfulMaybeBool M] (h : Depicts d b)
    {audioState powerState : UInt8} {appliance : Appliance M} {suspended : Bool}
    (hread : readAppliance d.data.applianceState audioState powerState =
      (appliance, suspended)) (answers : Answers) :
    b.routeReported (powerState == 1) (audioState == 1) answers =
      if appliance.enableAllowed then b.route.start answers
      else if suspended then b.route.settle
      else b.route := by
  have hready := readAppliance_enableAllowed d.data.applianceState audioState powerState
  have hjust := readAppliance_just d.data.applianceState audioState powerState
  rw [hread] at hready
  rw [hread, h.suspended] at hjust
  rw [Board.routeReported, ← hready, ← hjust]

/-- An appliance report, with what it makes of the route. -/
theorem Depicts.reported [LawfulMaybeBool M] (h : Depicts d b) (audioState powerState : UInt8)
    (outcomes : Outcomes)
    (hpaths : d'.data.audioPaths = d.data.audioPaths)
    (hcreations : d'.creations = d.creations)
    (happliance : d'.data.applianceState =
      (readAppliance d.data.applianceState audioState powerState).1)
    (hswitch : d'.data.audioPathSwitch =
      (b.routeReported (powerState == 1) (audioState == 1) outcomes.answers).switch)
    (hcallers : d'.queue.map Pending.client =
      (b.routeReported (powerState == 1) (audioState == 1) outcomes.answers).callers) :
    Depicts d' (b.after (.report (powerState == 1) (audioState == 1) outcomes.answers)) where
  directory := hpaths ▸ h.directory
  switch := hswitch
  callers := hcallers
  suspended := by rw [happliance, readAppliance_isUpAndRunning]; rfl
  blocked := by rw [happliance, readAppliance_isReadyForPlayback]; rfl
  owners := hpaths ▸ h.owners
  creations := hcreations ▸ h.creations

omit [MaybeBool M] in
theorem Event.Passive.moves {e : Event V} (h : e.Passive) (d : Daemon M V) : d.moves e = [] := by
  cases e with
  | registerPlayer | registerSource | query => rfl
  | proxyDone | requestSource | releasePath | setReadyState => exact h.elim

omit [MaybeBool M] in
theorem Event.moves_of_creation {e : Event V} {invocation : Nat} {creation : Creation}
    (h : e.creation invocation = some creation) (d : Daemon M V) : d.moves e = [] := by
  cases e with
  | registerPlayer | registerSource => rfl
  | proxyDone | requestSource | releasePath | setReadyState | query => cases h

/-- The queue is drained if somebody waits, and it is empty if not. -/
theorem Depicts.callers_drained (h : Depicts d b) {result : ActivateResult}
    (hresult : result = .errorSourceUnknown ↔ b.route.switch.pending.sourceId = "") :
    (if result = .errorSourceUnknown then d.queue else []).map Pending.client = [] := by
  split
  · rename_i hunknown
    rw [h.callers, ← Route.settle_of_pending (hresult.mp hunknown)]
    exact Route.callers_settle
  · rfl

/-- Whatever the daemon does, the board does as well. -/
theorem Depicts.step [LawfulMaybeBool M] {e : Event V} (h : Depicts d b) (hinStep : InStep d)
    (hsw : Consistent d.data.audioPaths d.data.audioPathSwitch)
    (hnamed : d.data.audioPaths.lookupPlayer "" = none) (hstep : Steps d e d') :
    ∃ b', (Board.system Name Name (Client V)).exec b (d.moves e) = some b' ∧ Depicts d' b' := by
  cases hstep with
  | answered hpassive =>
      rw [hpassive.moves]
      exact ⟨b, rfl, h.same rfl h.creations⟩
  | creating hcreation =>
      rw [Event.moves_of_creation hcreation]
      refine ⟨b, rfl, h.same rfl fun creation hmem => ?_⟩
      rcases List.mem_append.mp hmem with hold | hnew
      · exact h.creations creation hold
      · exact List.mem_singleton.mp hnew ▸ Event.named_of_creation hcreation
  | noCreation hnone =>
      rw [Daemon.moves, hnone]
      exact ⟨b, rfl, h.same rfl h.creations⟩
  | @playerRegistered i success object invocation playerId playerName dest path hcreation =>
      have hid : playerId ≠ "" := h.creations _ (List.mem_of_getElem? hcreation)
      refine ⟨_, ?_, h.playerRegistered i object invocation
        ⟨playerId, playerName, newProxy success invocation dest path⟩ hid⟩
      simp [Daemon.moves, hcreation, Creation.move?, Name.of?_eq hid, System.exec_singleton,
        Board.system]
  | @sourceRegistered i success object invocation sourceId sourceName playerId dest path
      hcreation =>
      obtain ⟨hid, hplayer⟩ : sourceId ≠ "" ∧ playerId ≠ "" :=
        h.creations _ (List.mem_of_getElem? hcreation)
      refine ⟨_, ?_, h.sourceRegistered i object invocation
        ⟨sourceId, sourceName, playerId, newProxy success invocation dest path⟩ hid hplayer⟩
      simp [Daemon.moves, hcreation, Creation.move?, Name.of?_eq hid, Name.of?_eq hplayer,
        System.exec_singleton, Board.system]
  | @requested object sourceId data outcomes a sw' es _ ha =>
      exact ⟨_, rfl, h.requested hinStep hsw hnamed ha object⟩
  | @released object deactivatePlayer data outcomes r sw' es _ hr =>
      exact ⟨_, rfl, h.released hinStep hsw hr object⟩
  | @completed audioState powerState outcomes order appliance suspended r sw' es hread hallowed
      _ hc =>
      have hroute := h.routeReported hread outcomes.answers
      rw [if_pos hallowed] at hroute
      have hresult := hc.result_eq hsw
      rw [h.switch] at hc hresult
      refine ⟨_, rfl, h.reported audioState powerState outcomes rfl rfl ?_ ?_ ?_⟩
      · exact congrArg Prod.fst hread.symm
      · rw [hroute]
        exact hc.start
      · rw [hroute, Route.callers_start]
        exact h.callers_drained hresult
  | @canceled audioState powerState outcomes order appliance sourceId r sw' es hread hallowed
      _ hc =>
      have hroute := h.routeReported hread outcomes.answers
      rw [hallowed, if_neg Bool.false_ne_true, if_pos rfl] at hroute
      have hresult := hc.result_eq
      rw [h.switch] at hc hresult
      refine ⟨_, rfl, h.reported audioState powerState outcomes rfl rfl ?_ ?_ ?_⟩
      · exact congrArg Prod.fst hread.symm
      · rw [hroute]
        exact hc.settle
      · rw [hroute, Route.callers_settle]
        exact h.callers_drained hresult
  | @postponed audioState powerState outcomes order appliance hread hallowed =>
      have hroute := h.routeReported hread outcomes.answers
      rw [hallowed, if_neg Bool.false_ne_true, if_neg Bool.false_ne_true] at hroute
      refine ⟨_, rfl, h.reported audioState powerState outcomes rfl rfl ?_ ?_ ?_⟩
      · exact congrArg Prod.fst hread.symm
      · rw [hroute]
        exact h.switch
      · rw [hroute]
        exact h.callers

theorem Depicts.initial [LawfulMaybeBool M] :
    Depicts (Daemon.initial : Daemon M V) Board.initial where
  directory := Paths.directory_empty
  switch := rfl
  callers := rfl
  suspended := by
    rw [Bool.eq_iff_iff, LawfulMaybeBool.is_iff]
    simp [Daemon.initial, Appliance.initial, Board.initial, LawfulMaybeBool.value?_unknown]
  blocked := by
    rw [Bool.eq_iff_iff, LawfulMaybeBool.is_iff]
    simp [Daemon.initial, Appliance.initial, Board.initial, LawfulMaybeBool.value?_unknown]
  owners h := by simp [Daemon.initial] at h
  creations := by simp [Daemon.initial]

/-- What phase one has been can be read off its result. -/
theorem phaseOne_inj {switched switched' : Bool} (h : phaseOne switched = phaseOne switched') :
    switched = switched' := by
  cases switched <;> cases switched' <;> first | rfl | cases h

/-- Switch and waiting clients leave no doubt about the route. -/
theorem Route.eq_of_switch {r r' : Route Name Name (Client V)} (hswitch : r.switch = r'.switch)
    (hcallers : r.callers = r'.callers) : r = r' := by
  have hcurrent := congrArg Switch.currentSourceId hswitch
  have hplayer := congrArg Switch.currentPlayerId hswitch
  have hpending := congrArg Switch.pending hswitch
  cases r with
  | silent =>
      cases r' with
      | silent => rfl
      | parked q => exact absurd hplayer.symm q.2
      | playing t q => exact absurd hplayer.symm q.2
      | waiting t q switched first more => cases hcallers
  | parked p =>
      cases r' with
      | silent => exact absurd hplayer p.2
      | parked q => exact congrArg Route.parked (Subtype.ext hplayer)
      | playing t q => exact absurd hcurrent.symm t.2
      | waiting t q switched first more => cases hcallers
  | playing s p =>
      cases r' with
      | silent => exact absurd hplayer p.2
      | parked q => exact absurd hcurrent s.2
      | playing t q => exact congrArg₂ Route.playing (Subtype.ext hcurrent) (Subtype.ext hplayer)
      | waiting t q switched first more => cases hcallers
  | waiting s p switched first more =>
      cases r' with
      | silent | parked | playing => cases hcallers
      | waiting t q switched' first' more' =>
          simp only [callers, List.cons.injEq] at hcallers
          obtain ⟨hsource, -, hphase⟩ := PendingActivation.mk.inj hpending
          rw [Subtype.ext hsource, Subtype.ext hplayer, phaseOne_inj hphase, hcallers.1,
            hcallers.2]

theorem Depicts.unique {b' : Board Name Name (Client V)} (h : Depicts d b)
    (h' : Depicts d b') : b = b' :=
  Board.ext (h.directory.symm.trans h'.directory) (h.suspended.symm.trans h'.suspended)
    (h.blocked.symm.trans h'.blocked)
    (Route.eq_of_switch (h.switch.symm.trans h'.switch) (h.callers.symm.trans h'.callers))

namespace Daemon

variable [LawfulMaybeBool M]

/-- Everything a daemon does is a move of the board. -/
theorem implementedBy_board :
    (system M V).ImplementedBy (Board.system Name Name (Client V)) Depicts moves where
  init := .initial
  step hreach h hstep :=
    h.step (inStep_of_reachable hreach) (consistent_of_reachable hreach)
      (named_of_reachable hreach) (steps_of_step hreach hstep)

/-- Every run of the daemon is a run of the board, and there is only one board that shows
what it has come to. -/
theorem run_depicted {evs : List (Event V)} {d : Daemon M V} (h : (system M V).Run evs d) :
    ∃ b, (Board.system Name Name (Client V)).Run
        ((system M V).translate moves (system M V).init evs) b ∧
      Depicts d b ∧ ∀ b', Depicts d b' → b' = b := by
  obtain ⟨b, hrun, hdepicts⟩ := implementedBy_board.run h
  exact ⟨b, hrun, hdepicts, fun b' h' => h'.unique hdepicts⟩

/-- A source that has been asked for while the audio path is blocked waits. -/
theorem run_depicted_deferred : ∃ d : Daemon (Option Bool) Unit,
    (system (Option Bool) Unit).Run deferralEvents d ∧
      ∃ b, Depicts d b ∧ b.route.callers = [(0, none)] := by
  obtain ⟨d, hrun, hqueue, -⟩ := exists_deferred
  obtain ⟨b, -, hdepicts, -⟩ := run_depicted hrun
  refine ⟨d, hrun, b, hdepicts, ?_⟩
  rw [← hdepicts.callers, hqueue]
  rfl

end Daemon

end Refinement

end TapSwitch
