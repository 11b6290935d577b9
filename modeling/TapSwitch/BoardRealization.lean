import TapSwitch.BoardRefinement
import TapSwitch.CreationOrder
import TapSwitch.Proxies

set_option autoImplicit false

/-!
# What a daemon can be made to do

Whatever can be done on a board can be done by a daemon.  A consequence is that no state
of the daemon is a trap: with players and sources that cooperate, every configuration that
makes sense can be reached from every other one.
-/

namespace TapSwitch

open Library

variable {M V : Type} [MaybeBool M] {d d' : Daemon M V} {b : Board Name Name (Client V)}

/-- Outcomes of calls, from what players and sources answer. -/
def Answers.outcomes (answers : Answers) : Outcomes
  | .activate => answers.player
  | .selected => answers.start
  | .selectedOnHold => answers.hold
  | .deactivate | .deselected => true

/-- The events that make a daemon carry out a move. -/
def Move.events : Move Name Name (Client V) → List (Event V)
  | .enrollPlayer p => [.registerPlayer 0 p.1 p.1 "/player" ":1.1", .proxyDone 0 true]
  | .enrollSource s p => [.registerSource 0 s.1 s.1 p.1 "/source" ":1.1", .proxyDone 0 true]
  | .request s? c answers =>
      [.requestSource c.1 ((s?.map Subtype.val).getD "") c.2 answers.outcomes]
  | .release killPlayer => [.releasePath 0 killPlayer none fun _ => true]
  | .report suspended blocked answers =>
      [.setReadyState (if blocked then 1 else 2) (if suspended then 1 else 2) answers.outcomes
        .insertion]

/-- A request, a release or an appliance report. -/
def Event.Operates : Event V → Prop
  | .requestSource .. | .releasePath .. | .setReadyState .. => True
  | _ => False

section

variable [LawfulMaybeBool M]

/-- While every component has its proxy, events can be handled, and the board follows. -/
theorem Depicts.follow (h : Depicts d b) (hreach : (Daemon.system M V).Reachable d)
    (hprovided : Daemon.Provided d.data.audioPaths) {e : Event V} (hcreated : d.ProxyCreated e) :
    ∃ d', (Daemon.system M V).step d e = some d' ∧ Daemon.Provided d'.data.audioPaths ∧
      Depicts d' (b.afterAll (d.moves e)) := by
  obtain ⟨d', hstep⟩ := Daemon.exists_step hreach hprovided e
  obtain ⟨b', hexec, hdepicts⟩ := Daemon.implementedBy_board.step hreach h hstep
  rw [Board.exec_eq, Option.some.injEq] at hexec
  refine ⟨d', hstep, ?_, hexec ▸ hdepicts⟩
  exact (Daemon.provided_step_iff hprovided (Daemon.steps_of_step hreach hstep)).mpr hcreated

omit [MaybeBool M] [LawfulMaybeBool M] in
@[simp] theorem Answers.answers_outcomes (answers : Answers) : answers.outcomes.answers = answers :=
  rfl

omit [MaybeBool M] [LawfulMaybeBool M] in
theorem Event.Operates.proxyCreated {e : Event V} (h : e.Operates) (d : Daemon M V) :
    d.ProxyCreated e := by
  rintro i success rfl
  exact h.elim

omit [MaybeBool M] [LawfulMaybeBool M] in
/-- Unless somebody enrolls, a move is one event that every daemon takes for that move. -/
theorem Move.exists_event {m : Move Name Name (Client V)} (h : ¬ m.Enrolls) :
    ∃ e : Event V, m.events = [e] ∧ e.Operates ∧ ∀ d : Daemon M V, d.moves e = [m] := by
  cases m with
  | enrollPlayer | enrollSource => exact absurd trivial h
  | request s? c answers =>
      refine ⟨_, rfl, trivial, fun d => ?_⟩
      cases s? <;> simp [Daemon.moves]
  | release killPlayer => exact ⟨_, rfl, trivial, fun d => rfl⟩
  | report suspended blocked answers =>
      refine ⟨_, rfl, trivial, fun d => ?_⟩
      cases suspended <;> cases blocked <;> rfl

/-- The daemon shows the board, every component has its proxy, and no creation is under
way. -/
structure Settled (d : Daemon M V) (b : Board Name Name (Client V)) : Prop where
  depicts : Depicts d b
  provided : Daemon.Provided d.data.audioPaths
  creations : d.creations = []

omit [LawfulMaybeBool M] in
/-- Operations leave the creations alone. -/
theorem Event.Operates.creations_eq {e : Event V} (h : e.Operates) (hstep : Steps d e d') :
    d'.creations = d.creations := by
  cases hstep with
  | answered | noCreation | requested | released | completed | canceled | postponed => rfl
  | creating hcreation => cases e <;> first | exact h.elim | cases hcreation
  | playerRegistered | sourceRegistered => exact h.elim

omit [LawfulMaybeBool M] in
/-- A creation that completes is not under way anymore. -/
theorem creations_proxyDone {i : Nat} {success : Bool}
    (hstep : Steps d (.proxyDone i success) d') : d'.creations = d.creations.eraseIdx i := by
  cases hstep with
  | answered hpassive => exact hpassive.elim
  | creating hcreation => cases hcreation
  | noCreation hnone => exact (List.eraseIdx_of_length_le (List.getElem?_eq_none_iff.mp hnone)).symm
  | playerRegistered | sourceRegistered => rfl

/-- A registration whose proxy is created at once. -/
theorem Settled.enroll {m : Move Name Name (Client V)} (h : Settled d b)
    (hreach : (Daemon.system M V).Reachable d) {e : Event V} (creation : Creation)
    (hcreation : e.creation d.served = some creation) (hmove : creation.move? = some m) :
    ∃ d', (Daemon.system M V).exec d [e, .proxyDone 0 true] = some d' ∧
      Settled d' (b.after m) := by
  obtain ⟨mid, hmid⟩ := Daemon.exists_step hreach h.provided e
  obtain ⟨b', hexec, hdepicts⟩ := Daemon.implementedBy_board.step hreach h.depicts hmid
  rw [Event.moves_of_creation hcreation, System.exec_nil, Option.some.injEq] at hexec
  have hcreated := creation_step hmid hcreation
  have hprovided : Daemon.Provided mid.data.audioPaths := by
    rw [hcreated]
    exact h.provided
  have hcreations : mid.creations = [creation] := by simp [hcreated, h.creations]
  have hmoves : mid.moves (.proxyDone 0 true) = [m] := by
    simp [Daemon.moves, hcreations, hmove]
  obtain ⟨d', hstep, hprovided', hdepicts'⟩ := (hexec ▸ hdepicts).follow (hreach.step hmid)
    hprovided (e := .proxyDone 0 true) (by rintro _ _ ⟨rfl, rfl⟩ -; rfl)
  rw [hmoves] at hdepicts'
  refine ⟨d', ?_, hdepicts', hprovided', ?_⟩
  · rw [System.exec_cons_of_step hmid, System.exec_singleton, hstep]
  · rw [creations_proxyDone (Daemon.steps_of_step (hreach.step hmid) hstep), hcreations]
    rfl

/-- Every move can be carried out. -/
theorem Settled.step (h : Settled d b) (hreach : (Daemon.system M V).Reachable d)
    (m : Move Name Name (Client V)) :
    ∃ d', (Daemon.system M V).exec d m.events = some d' ∧ Settled d' (b.after m) := by
  by_cases henrolls : m.Enrolls
  · cases m with
    | enrollPlayer p =>
        refine h.enroll hreach (.player 0 d.served p.1 p.1 ":1.1" "/player") ?_ ?_
        · simp [Event.creation, p.2]
        · simp [Creation.move?]
    | enrollSource s p =>
        refine h.enroll hreach (.source 0 d.served s.1 s.1 p.1 ":1.1" "/source") ?_ ?_
        · simp [Event.creation, s.2, p.2]
        · simp [Creation.move?]
    | request | release | report => exact henrolls.elim
  · obtain ⟨e, hevents, hoperates, hmoves⟩ := m.exists_event (M := M) henrolls
    obtain ⟨d', hstep, hprovided, hdepicts⟩ :=
      h.depicts.follow hreach h.provided (hoperates.proxyCreated d)
    have hsteps := Daemon.steps_of_step hreach hstep
    rw [hmoves d] at hdepicts
    refine ⟨d', ?_, hdepicts, hprovided, ?_⟩
    · rw [hevents, System.exec_singleton, hstep]
    · rw [hoperates.creations_eq hsteps, h.creations]

namespace Daemon

variable (M) in
/-- Boards are carried out by settled daemons. -/
theorem board_implementedBy :
    (Board.system Name Name (Client V)).ImplementedBy (system M V)
      (fun b d => (system M V).Reachable d ∧ Settled d b) (fun _ m => m.events) where
  init := ⟨.init, .initial, Provided.empty, rfl⟩
  step {b m b' d} _ h hstep := by
    obtain ⟨hreach, hsettled⟩ := h
    obtain ⟨d', hexec, hsettled'⟩ := hsettled.step hreach m
    cases hstep
    exact ⟨d', hexec, hreach.exec hexec, hsettled'⟩

variable (M) in
/-- Every run of the board is a run of a daemon, in which every component has its proxy. -/
theorem run_realized {ms : List (Move Name Name (Client V))} {b : Board Name Name (Client V)}
    (h : (Board.system Name Name (Client V)).Run ms b) :
    ∃ d, (system M V).Run (ms.flatMap Move.events) d ∧ Depicts d b ∧
      Provided d.data.audioPaths := by
  obtain ⟨d, hrun, -, hsettled⟩ := (board_implementedBy M).run h
  rw [System.translate_of_total fun b m => ⟨b.after m, rfl⟩] at hrun
  exact ⟨d, hrun, hsettled.depicts, hsettled.provided⟩

/-- A player and a source enroll, and the source is asked for. -/
def requestMoves : List (Move Name Name (Client Unit)) :=
  [.enrollPlayer ⟨"player", by decide⟩, .enrollSource ⟨"source", by decide⟩ ⟨"player", by decide⟩,
    .request (some ⟨"source", by decide⟩) (0, none) .willing]

theorem run_realized_playing : ∃ d : Daemon (Option Bool) Unit,
    (system (Option Bool) Unit).Run (requestMoves.flatMap Move.events) d ∧
      d.data.audioPathSwitch = ⟨"source", "player", {}⟩ := by
  obtain ⟨d, hrun, hdepicts, -⟩ := run_realized (Option Bool)
    (System.run_of_exec (Board.exec_eq Board.initial requestMoves))
  refine ⟨d, hrun, hdepicts.switch.trans ?_⟩
  decide

end Daemon

/-- Moves without enrollment can be made on any daemon with all its proxies. -/
theorem Depicts.exists_exec (h : Depicts d b) (hreach : (Daemon.system M V).Reachable d)
    (hprovided : Daemon.Provided d.data.audioPaths) (ms : List (Move Name Name (Client V)))
    (hms : ∀ m ∈ ms, ¬ m.Enrolls) :
    ∃ evs d', (Daemon.system M V).exec d evs = some d' ∧ (∀ e ∈ evs, e.Operates) ∧
      Depicts d' (b.afterAll ms) := by
  induction ms generalizing d b with
  | nil => exact ⟨[], d, rfl, by simp, h⟩
  | cons m rest ih =>
      obtain ⟨e, -, hoperates, hmoves⟩ := m.exists_event (M := M) (hms m List.mem_cons_self)
      obtain ⟨mid, hstep, hprovided', hdepicts⟩ :=
        h.follow hreach hprovided (hoperates.proxyCreated d)
      rw [hmoves d] at hdepicts
      obtain ⟨evs, d', hexec, hall, hdepicts'⟩ := ih hdepicts (hreach.step hstep) hprovided'
        fun m' hm' => hms m' (List.mem_cons_of_mem _ hm')
      refine ⟨e :: evs, d', ?_, ?_, hdepicts'⟩
      · rw [System.exec_cons_of_step hstep, hexec]
      · exact List.forall_mem_cons.mpr ⟨hoperates, hall⟩

namespace Daemon

/-- No state of the daemon is a trap: while every component has its proxy, each configuration
that makes sense with these components can be reached, without registering any. -/
theorem exists_operations {d : Daemon M V} (h : (system M V).Reachable d)
    (hprovided : Provided d.data.audioPaths) (b : Board Name Name (Client V))
    (hdirectory : d.data.audioPaths.directory = b.directory) :
    ∃ evs d', (system M V).exec d evs = some d' ∧ (∀ e ∈ evs, e.Operates) ∧ Depicts d' b := by
  obtain ⟨pre, hrun⟩ := h
  obtain ⟨now, -, hdepicts⟩ := implementedBy_board.run hrun
  obtain ⟨ms, hms, hafter⟩ :=
    Board.exists_moves (hdepicts.directory.symm.trans hdirectory) (0, none)
  obtain ⟨evs, d', hexec, hall, hdepicts'⟩ :=
    hdepicts.exists_exec hrun.reachable hprovided ms hms
  exact ⟨evs, d', hexec, hall, hafter ▸ hdepicts'⟩

omit [LawfulMaybeBool M] in
/-- Every component has its proxy if no creation has failed. -/
theorem provided_of_run {evs : List (Event V)} {d : Daemon M V} (h : (system M V).Run evs d)
    (hevs : ∀ i, .proxyDone i false ∉ evs) : Provided d.data.audioPaths := by
  induction h with
  | nil => exact Provided.empty
  | snoc hrun hstep ih =>
      refine (provided_step_iff (ih fun i hi => hevs i (List.mem_append_left _ hi))
        (steps_of_step hrun.reachable hstep)).mpr ?_
      rintro i success rfl -
      cases success with
      | true => rfl
      | false => exact absurd (List.mem_append_right _ (List.mem_singleton_self _)) (hevs i)

theorem exists_operations_deferred : ∃ d : Daemon (Option Bool) Unit,
    (system (Option Bool) Unit).Run deferralEvents d ∧
      ∃ evs d', (system (Option Bool) Unit).exec d evs = some d' ∧
        (∀ e ∈ evs, e.Operates) ∧ d'.data.audioPathSwitch = {} ∧ d'.queue = [] := by
  obtain ⟨d, hrun, -⟩ := exists_deferred
  obtain ⟨evs, d', hexec, hall, hdepicts⟩ := exists_operations hrun.reachable
    (provided_of_run hrun (by simp [deferralEvents])) (Board.idle _) rfl
  exact ⟨d, hrun, evs, d', hexec, hall, hdepicts.switch, List.map_eq_nil_iff.mp hdepicts.callers⟩

end Daemon

end

end TapSwitch
