import TapSwitch.Queue

set_option autoImplicit false

/-!
# What a successful reply means

A `RequestSource` call is answered by the name of a player and a flag.  When the call
had to wait, both are put together from what the switch has kept since phase one.
-/

namespace TapSwitch

open Library

variable {M V : Type}

/-! ## The switch -/

section Switch

variable {outcomes : Outcomes} {paths : Paths} {sw sw' : Switch V}
  {data : GVariantWrapper V} {es : List (BusEntry V)}

/-- The source is current, and so is the player it is registered for. -/
structure Plays (paths : Paths) (sw : Switch V) (sourceId playerId : String) : Prop where
  source : sw.currentSourceId = sourceId
  player : sw.currentPlayerId = playerId
  registered : ∃ source, paths.lookupSource sourceId = some source ∧
    source.playerId = playerId

theorem playerId_of_path {sourceId playerId : String}
    (h : ∃ source player, paths.lookupPath sourceId = (some source, some player) ∧
      player.id = playerId) :
    ∃ source, paths.lookupSource sourceId = some source ∧ source.playerId = playerId := by
  obtain ⟨source, player, hpath, hid⟩ := h
  obtain ⟨hsource, hplayer⟩ := Paths.lookupPath_eq_some.mp hpath
  exact ⟨source, hsource, (Paths.id_of_lookupPlayer hplayer).symm.trans hid⟩

/-- What an immediate reply says is the case, and the flag tells whether the player has
changed. -/
theorem Activates.plays (hsw : Consistent paths sw) {sourceId : String} {now : Bool}
    {a : Activation} (ha : Activates outcomes paths sw data sourceId now a sw' es)
    {playerId : String} {switched : Bool}
    (hreply : requestReply a = some (.requestSource playerId switched)) :
    Plays paths sw' sourceId playerId ∧
      (switched = true ↔ sw'.currentPlayerId ≠ sw.currentPlayerId) ∧
      (sw.currentSourceId = sourceId → switched = false) := by
  cases ha with
  | rejected hrejects => cases hrejects <;> simp [requestReply] at hreply
  | alreadyPending | playerFailed | sourceFailed => simp [requestReply] at hreply
  | unchanged hnonempty hcurrent =>
      simp only [requestReply, Option.getD_some, Option.some.injEq, Reply.requestSource.injEq]
        at hreply
      obtain ⟨rfl, rfl⟩ := hreply
      have hregistered := playerId_of_path (hsw.current (hcurrent ▸ hnonempty))
      exact ⟨⟨hcurrent.symm, rfl, hcurrent ▸ hregistered⟩, by simp, fun _ => rfl⟩
  | @switched source player _ _ _ _ hfresh hpath =>
      have hid := Paths.id_of_lookupSource (Paths.lookupPath_eq_some.mp hpath).1
      have hregistered := playerId_of_path ⟨source, player, hpath, rfl⟩
      cases now with
      | false =>
          by_cases hplayer : player.id = sw.currentPlayerId <;>
            simp [requestReply, activationResult, hplayer] at hreply
      | true =>
          by_cases hplayer : player.id = sw.currentPlayerId
          all_goals
            simp [requestReply, activationResult, hplayer] at hreply
            obtain ⟨rfl, rfl⟩ := hreply
            refine ⟨⟨hid, ?_, ?_⟩, ?_, fun hcurrent => absurd hcurrent.symm hfresh.not_current⟩
          · exact hplayer
          · exact hplayer ▸ hregistered
          · simp [switchedTo, hplayer]
          · rfl
          · exact hregistered
          · simp [switchedTo, hplayer]

end Switch

/-! ## Who has established an activation -/

variable [MaybeBool M]

variable (M) in
/-- The event number `j` of the run has changed the current player. -/
def ChangesPlayer (evs : List (Event V)) (j : Nat) : Prop :=
  ∃ d d', (Daemon.system M V).Run (evs.take j) d ∧
    (Daemon.system M V).Run (evs.take (j + 1)) d' ∧
    d'.data.audioPathSwitch.currentPlayerId ≠ d.data.audioPathSwitch.currentPlayerId

theorem changesPlayer_concat_of_lt {evs : List (Event V)} {e : Event V} {j : Nat}
    (h : j < evs.length) : ChangesPlayer M (evs ++ [e]) j ↔ ChangesPlayer M evs j := by
  unfold ChangesPlayer
  rw [List.take_append_of_le_length (Nat.le_of_lt h), List.take_append_of_le_length h]

theorem changesPlayer_concat_self {evs : List (Event V)} {e : Event V} {d d' : Daemon M V}
    (hrun : (Daemon.system M V).Run evs d)
    (hstep : (Daemon.system M V).step d e = some d') :
    ChangesPlayer M (evs ++ [e]) evs.length ↔
      d'.data.audioPathSwitch.currentPlayerId ≠ d.data.audioPathSwitch.currentPlayerId := by
  have hbefore : (evs ++ [e]).take evs.length = evs := List.take_left
  have hafter : (evs ++ [e]).take (evs.length + 1) = evs ++ [e] :=
    List.take_of_length_le (by simp)
  unfold ChangesPlayer
  rw [hbefore, hafter]
  constructor
  · rintro ⟨d₁, d₂, h₁, h₂, hne⟩
    rw [h₁.functional hrun, h₂.functional (hrun.snoc hstep)] at hne
    exact hne
  · exact fun hne => ⟨d, d', hrun, hrun.snoc hstep, hne⟩

/-- The result kept for a pending activation tells whether the request that waits
longest has changed the player. -/
def Established (evs : List (Event V)) (d : Daemon M V) : Prop :=
  ∀ p, d.queue.head? = some p →
    (d.data.audioPathSwitch.pending.phaseOneResult = .okPlayerSwitchedSourceDeferred ↔
      ChangesPlayer M evs p.invocation)

theorem established_of_nil {evs : List (Event V)} {d : Daemon M V} (h : d.queue = []) :
    Established evs d := by
  intro p hp
  rw [h] at hp
  cases hp

section Step

variable {evs : List (Event V)} {e : Event V} {d d' : Daemon M V}

/-- The request at the head of the queue stays the one it was. -/
theorem Established.congr (h : Established evs d) (haccounted : Accounted evs d)
    (hhead : d'.queue.head? = d.queue.head?)
    (hpending : d'.data.audioPathSwitch.pending = d.data.audioPathSwitch.pending) :
    Established (evs ++ [e]) d' := by
  intro p hp
  rw [hhead] at hp
  have hlt := (haccounted.queued p (List.mem_of_mem_head? hp)).lt
  rw [hpending, changesPlayer_concat_of_lt hlt]
  exact h p hp

theorem Established.requested (h : Established evs d) (haccounted : Accounted evs d)
    (hin : InStep d) (hsw : Consistent d.data.audioPaths d.data.audioPathSwitch)
    {object : Nat} {sourceId : String} {data : GVariantWrapper V} {outcomes : Outcomes}
    {a : Activation} {switch : Switch V} {es : List (BusEntry V)}
    (hrun : (Daemon.system M V).Run evs d)
    (hstep : (Daemon.system M V).step d e =
      some (d.next.requested object d.served sourceId data a switch es))
    (ha : Activates outcomes d.data.audioPaths d.data.audioPathSwitch data sourceId
      d.data.applianceState.enableAllowed a switch es) :
    Established (evs ++ [e]) (d.next.requested object d.served sourceId data a switch es) := by
  cases ha with
  | rejected hrejects =>
      refine established_of_nil ?_
      simp [hin.kept_of_rejected, waits, isFinal_of_rejects hrejects]
  | playerFailed _ _ _ hd =>
      exact established_of_nil (by simp [hin.kept_of_deselects hsw hd, waits, isFinal])
  | sourceFailed _ _ hd =>
      exact established_of_nil (by simp [hin.kept_of_deselects hsw hd, waits, isFinal])
  | unchanged =>
      exact h.congr haccounted (by simp [keptCalls, waits, isFinal]) rfl
  | alreadyPending hnonempty hpending =>
      -- The call takes its place behind the ones that wait already.
      have hqueue : d.queue ≠ [] :=
        hin.waiting.mpr fun hnone => hnonempty (hpending.trans hnone)
      refine h.congr haccounted ?_ rfl
      obtain ⟨p, rest, hcons⟩ := List.exists_cons_of_ne_nil hqueue
      simp [keptCalls, hcons]
  | @switched source player _ _ _ _ _ _ hd =>
      have hkept := hin.kept_of_deselects hsw hd
      cases hnow : d.data.applianceState.enableAllowed with
      | true =>
          exact established_of_nil (by simp [hkept, hnow, waits_activationResult])
      | false =>
          -- Nobody else waits: this is the request that establishes the activation.
          intro p hp
          simp [hkept, hnow, waits_activationResult] at hp
          rw [← hp, haccounted.served, changesPlayer_concat_self hrun hstep]
          simp [hnow, switchedTo, activationResult]

theorem Established.step (h : Established evs d) (haccounted : Accounted evs d)
    (hin : InStep d) (hsw : Consistent d.data.audioPaths d.data.audioPathSwitch)
    (hrun : (Daemon.system M V).Run evs d)
    (hnext : (Daemon.system M V).step d e = some d') (hstep : Steps d e d') :
    Established (evs ++ [e]) d' := by
  cases hstep with
  | answered | creating | noCreation | playerRegistered | sourceRegistered | postponed =>
      exact h.congr haccounted rfl rfl
  | requested _ ha => exact h.requested haccounted hin hsw hrun hnext ha
  | released _ hr =>
      refine established_of_nil ?_
      cases hr with
      | kept hd => simp [hin.kept_of_deselects hsw hd]
      | killed hd => simp [hin.kept_of_deselects hsw hd]
  | completed _ _ _ hc =>
      refine established_of_nil ?_
      simpa [hc.result_eq hsw] using hin.queue_eq_nil
  | canceled _ _ _ hc =>
      refine established_of_nil ?_
      simpa [hc.result_eq] using hin.queue_eq_nil

end Step

namespace Daemon

theorem established_of_run {evs : List (Event V)} {d : Daemon M V}
    (h : (system M V).Run evs d) : Established evs d := by
  refine System.run_induction (P := Established) (established_of_nil rfl) ?_ h
  intro evs d e d' hrun ih hstep
  have hreach := hrun.reachable
  exact ih.step (accounted_of_run hrun) (inStep_of_reachable hreach)
    (consistent_of_reachable hreach) hrun hstep (steps_of_step hreach hstep)

/-! ## Replies -/

omit [MaybeBool M] in
/-- The request that has established the activation which the answer to the invocation
is about: the invocation itself, or the one that has been waiting longest. -/
def establishing (d : Daemon M V) (invocation : Nat) : Nat :=
  if invocation = d.served then invocation
  else d.queue.head?.elim invocation fun p => p.invocation

omit [MaybeBool M] in
/-- Where successful replies come from when the appliance gets ready. -/
theorem reply_of_completion {d : Daemon M V} {outcomes : Outcomes} {result : ActivateResult}
    {switch : Switch V} {es : List (BusEntry V)}
    (hc : Completes outcomes d.data.audioPaths d.data.audioPathSwitch result switch es)
    (hsw : Consistent d.data.audioPaths d.data.audioPathSwitch) {order : IterationOrder V}
    {i : Nat} {playerId : String} {switched : Bool}
    (hmem : (i, Reply.requestSource playerId switched) ∈ replies (completionEntries order
      d.served d.queue d.pendingId switch.currentPlayerId result)) :
    (∃ p ∈ d.queue, p.invocation = i) ∧
      Plays d.data.audioPaths switch d.pendingId playerId ∧
      (switched = true ↔ d.data.audioPathSwitch.pending.phaseOneResult =
        .okPlayerSwitchedSourceDeferred) := by
  cases hc with
  | nothingPending => simp [completionEntries] at hmem
  | sourceFailed => simp [completionEntries] at hmem
  | selected hpending =>
      have hregistered := playerId_of_path (hsw.pending hpending)
      rcases hsw.phaseOne hpending with hphase | hphase
      all_goals
        simp [hphase, completionEntries] at hmem
        obtain ⟨p, hp, hi, rfl, rfl⟩ := hmem
        exact ⟨⟨p, hp, hi⟩, ⟨rfl, rfl, hregistered⟩, by simp [hphase]⟩

/-- Whenever a call is answered successfully, it has asked for the source that is
current now, and is told the current player, which is the one the source is registered
for.  The flag tells whether the request that has established the activation has changed
the player; it is not set if the source has been current before. -/
theorem successful_reply {evs : List (Event V)} {e : Event V} {d d' : Daemon M V}
    (h : (system M V).Run evs d) (hstep : (system M V).step d e = some d')
    {sent : List (Nat × Reply)} (hsent : replies d'.log = replies d.log ++ sent)
    {i : Nat} {playerId : String} {switched : Bool}
    (hmem : (i, .requestSource playerId switched) ∈ sent) :
    ∃ sourceId, Asks (evs ++ [e]) i sourceId ∧
      Plays d'.data.audioPaths d'.data.audioPathSwitch sourceId playerId ∧
      (switched = true ↔ ChangesPlayer M (evs ++ [e]) (d.establishing i)) ∧
      (d.data.audioPathSwitch.currentSourceId = sourceId → switched = false) := by
  have hreach := h.reachable
  have hsw := consistent_of_reachable hreach
  have haccounted := accounted_of_run h
  have hsteps := steps_of_step hreach hstep
  cases hsteps with
  | @answered e reply _ hreply =>
      simp at hsent
      subst hsent
      rw [List.mem_singleton, Prod.mk.injEq] at hmem
      exact absurd hmem.2.symm (hreply playerId switched)
  | creating | noCreation =>
      simp at hsent
      simp [hsent] at hmem
  | playerRegistered | sourceRegistered | postponed =>
      simp at hsent
      simp [← hsent] at hmem
  | @requested object sourceId data outcomes a switch es hrun ha =>
      simp at hsent
      have hreply : requestReply a = some (.requestSource playerId switched) ∧ i = d.served := by
        subst hsent
        simpa [eq_comm] using hmem
      obtain ⟨hreply, hi⟩ := hreply
      obtain ⟨hplays, hflag, hcurrent⟩ := ha.plays hsw hreply
      refine ⟨sourceId, ?_, hplays, ?_, hcurrent⟩
      · rw [hi, haccounted.served, asks_concat_self]
        exact ⟨object, data, outcomes, rfl⟩
      · rw [hflag, establishing, if_pos hi, hi, haccounted.served,
          changesPlayer_concat_self h hstep]
        rfl
  | released =>
      simp at hsent
      simp [← hsent] at hmem
  | @completed audioState powerState outcomes order appliance suspended result switch es _ _ _ hc =>
      simp at hsent
      subst hsent
      obtain ⟨⟨p, hp, rfl⟩, hplays, hflag⟩ := reply_of_completion hc hsw hmem
      have hasks := haccounted.queued p hp
      have hpending := (inStep_of_reachable hreach).waiting.mp (List.ne_nil_of_mem hp)
      refine ⟨d.pendingId, (asks_concat_of_lt hasks.lt).mpr hasks, hplays, ?_, ?_⟩
      · -- It has waited together with the others for what the first of them has begun.
        obtain ⟨first, rest, hcons⟩ := List.exists_cons_of_ne_nil (List.ne_nil_of_mem hp)
        have hlt := hasks.lt
        have hne : p.invocation ≠ d.served := by
          rw [haccounted.served]
          exact Nat.ne_of_lt hlt
        have hfirst := (haccounted.queued first (hcons ▸ List.mem_cons_self)).lt
        rw [hflag, establishing, if_neg hne, hcons, List.head?_cons, Option.elim_some,
          changesPlayer_concat_of_lt hfirst]
        exact established_of_run h first (by rw [hcons]; rfl)
      · intro hcurrent
        exact absurd (hcurrent.symm.trans (hsw.exclusive.resolve_right hpending)) hpending
  | canceled =>
      simp at hsent
      subst hsent
      split at hmem <;> simp at hmem

/-- The deferred request is answered when the appliance gets ready: it has switched on
the player. -/
theorem successful_reply_deferred : ∃ d d' : Daemon (Option Bool) Unit,
    (system (Option Bool) Unit).Run deferralEvents d ∧
      (system (Option Bool) Unit).step d (.setReadyState 2 2 (fun _ => true) .insertion) =
        some d' ∧
      Plays d'.data.audioPaths d'.data.audioPathSwitch "source" "player" ∧
      ChangesPlayer (Option Bool)
        (deferralEvents ++ [.setReadyState 2 2 (fun _ => true) .insertion]) 5 := by
  have hbefore : ((system (Option Bool) Unit).exec (system (Option Bool) Unit).init
      deferralEvents).map (fun d => (replies d.log, d.establishing 5)) =
      some ([(0, .registerPlayer), (1, .registerSource), (4, .setReadyState)], 5) := by
    decide +kernel
  have hafter : ((system (Option Bool) Unit).exec (system (Option Bool) Unit).init
      (deferralEvents ++ [.setReadyState 2 2 (fun _ => true) .insertion])).map
        (fun d => replies d.log) =
      some [(0, .registerPlayer), (1, .registerSource), (4, .setReadyState),
        (5, .requestSource "player" true), (6, .setReadyState)] := by decide +kernel
  obtain ⟨d, hrun, hseen⟩ := System.exists_run_of_exec hbefore
  obtain ⟨d', hrun', hreplies'⟩ := System.exists_run_of_exec hafter
  obtain ⟨mid, hmid, hstep⟩ := hrun'.unsnoc
  rw [hmid.functional hrun] at hstep
  obtain ⟨hreplies, hestablishing⟩ := Prod.mk.inj hseen
  have hsent : replies d'.log =
      replies d.log ++ [(5, .requestSource "player" true), (6, .setReadyState)] := by
    rw [hreplies, hreplies']
    rfl
  obtain ⟨sourceId, hasks, hplays, hflag, -⟩ :=
    successful_reply hrun hstep hsent List.mem_cons_self
  have hsource : Asks (deferralEvents ++
      [.setReadyState 2 2 (fun _ => true) .insertion]) 5 "source" :=
    ⟨0, none, fun _ => true, rfl⟩
  rw [hestablishing] at hflag
  exact ⟨d, d', hrun, hstep, hasks.unique hsource ▸ hplays, hflag.mp rfl⟩

end Daemon

end TapSwitch
