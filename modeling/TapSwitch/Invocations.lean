import Mathlib.Data.List.Perm.Basic
import TapSwitch.Replies

set_option autoImplicit false

/-!
# What becomes of every method call

A method call is answered at once, or it waits: a request in the queue, a registration
for its proxy.  This file counts where each call is.  There is one place for each, at any
time, with the exception of `SetReadyState` calls that fail to complete an activation.
It also shows that no call is answered by the reply of another method.
-/

namespace TapSwitch

open Library

variable {M V : Type}

/-! ## Where the calls are -/

/-- How often the invocation waits for a proxy. -/
def creating (creations : List Creation) (invocation : Nat) : Nat :=
  (creations.map Creation.invocation).count invocation

/-- How often the invocation is to be found anywhere. -/
def account (d : Daemon M V) (invocation : Nat) : Nat :=
  tally d invocation + creating d.creations invocation

/-- A creation that completes is not waited for anymore. -/
theorem creating_eraseIdx {creations : List Creation} {index : Nat} {creation : Creation}
    (h : creations[index]? = some creation) (i : Nat) :
    creating (creations.eraseIdx index) i + (if creation.invocation = i then 1 else 0) =
      creating creations i := by
  obtain ⟨hlt, hget⟩ := List.getElem?_eq_some_iff.mp h
  have hperm := (List.getElem_cons_eraseIdx_perm hlt).map Creation.invocation
  have hcount := hperm.count_eq i
  rw [hget, List.map_cons, List.count_cons] at hcount
  rw [creating, creating, ← hcount]
  simp

variable [MaybeBool M]

/-- The number of replies that are owed for the event.  Nobody calls when a proxy has been
created; and `SetReadyState` is forgotten about if the pending source cannot be selected. -/
def Daemon.owed (d : Daemon M V) : Event V → Nat
  | .proxyDone .. => 0
  | .setReadyState audioState powerState outcomes _ =>
      if (readAppliance d.data.applianceState audioState powerState).1.enableAllowed = true ∧
          d.pendingId ≠ "" ∧ outcomes .selected = false then 0
      else 1
  | _ => 1

section Step

variable {d d' : Daemon M V} {e : Event V}

theorem owed_of_passive (h : e.Passive) : d.owed e = 1 := by
  cases e with
  | registerPlayer | registerSource | query => rfl
  | proxyDone | requestSource | releasePath | setReadyState => exact h.elim

omit [MaybeBool M] in
/-- Calls are answered, and the queue changes. -/
theorem account_of_answered {i n : Nat} (answered : List Nat)
    (hanswered : (replies d'.log).map Prod.fst = (replies d.log).map Prod.fst ++ answered)
    (hcreations : d'.creations = d.creations)
    (hbalance : answered.count i + waitings d'.queue i = waitings d.queue i + n) :
    account d' i = account d i + n := by
  unfold account tally answers
  rw [hanswered, hcreations, List.count_append]
  omega

omit [MaybeBool M] in
/-- A registration is answered, and not waited for anymore. -/
theorem account_registered {index i n : Nat} {creation : Creation}
    (hcreation : d.creations[index]? = some creation)
    (hcreations : d'.creations = d.creations.eraseIdx index)
    (hanswered : (replies d'.log).map Prod.fst =
      (replies d.log).map Prod.fst ++ [creation.invocation])
    (hqueue : d'.queue = d.queue) (hn : n = 0) : account d' i = account d i + n := by
  have herased := creating_eraseIdx hcreation i
  unfold account tally answers
  rw [hanswered, hqueue, hcreations, List.count_append, List.count_singleton]
  simp only [beq_iff_eq]
  omega

/-- Each event is accounted for with the replies owed for it, and all others as before. -/
theorem InStep.account_step (h : InStep d)
    (hsw : Consistent d.data.audioPaths d.data.audioPathSwitch) (hstep : Steps d e d') (i : Nat) :
    account d' i = account d i + if d.served = i then d.owed e else 0 := by
  have hown : [d.served].count i = if d.served = i then 1 else 0 := by
    simp [List.count_singleton]
  cases hstep with
  | answered hpassive =>
      refine account_of_answered [d.served] (by simp) rfl ?_
      rw [owed_of_passive hpassive, List.count_singleton, Nat.add_comm]
      simp
  | creating hcreation =>
      have hinvocation := (invocation_of_creation hcreation).1
      have howed : d.owed e = 1 := by
        cases e with
        | registerPlayer | registerSource => rfl
        | proxyDone | requestSource | releasePath | setReadyState | query => cases hcreation
      rw [howed, account, creating, List.map_append, List.count_append, ← Nat.add_assoc,
        List.map_singleton, hinvocation, List.count_singleton]
      simp
      rfl
  | noCreation => simp [account, tally, Daemon.owed]
  | playerRegistered hcreation =>
      exact account_registered hcreation rfl (by simp [Creation.invocation]) rfl
        (by simp [Daemon.owed])
  | sourceRegistered hcreation =>
      exact account_registered hcreation rfl (by simp [Creation.invocation]) rfl
        (by simp [Daemon.owed])
  | requested _ ha =>
      unfold account
      rw [tally_requested, h.request_accounted ha]
      simp only [Daemon.owed, Daemon.requested, Daemon.next_creations]
      omega
  | @released object deactivatePlayer data outcomes r switch es hrun hr =>
      have hkept := waitings_dropped_kept r.deselectedResult d.queue i
      refine account_of_answered ((droppedCalls r.deselectedResult d.queue).map
        (fun p => p.invocation) ++ [d.served]) (by simp [Function.comp_def]) rfl ?_
      rw [List.count_append, hown, queue_released, ← hkept, Daemon.next_queue]
      simp only [Daemon.owed, waitings]
      exact Nat.add_right_comm ..
  | @completed audioState powerState outcomes order appliance suspended r switch es hread
      hallowed _ hc =>
      simp only [Daemon.owed, hread, hallowed]
      cases hc with
      | nothingPending hidle =>
          refine account_of_answered [d.served] (by simp [completionEntries]) rfl ?_
          simp [hown, hidle, Nat.add_comm]
      | sourceFailed hpending _ _ hfailed =>
          refine account_of_answered (d.queue.map Pending.invocation)
            (by simp [completionEntries, Function.comp_def]) rfl ?_
          simp [waitings, hpending, hfailed]
      | selected hpending _ _ hok =>
          refine account_of_answered (d.queue.map Pending.invocation ++ [d.served]) ?_ rfl ?_
          · rcases hsw.phaseOne hpending with hphase | hphase <;>
              simp [completionEntries, Function.comp_def, hphase]
          · rcases hsw.phaseOne hpending with hphase | hphase <;>
              simp [waitings, hown, hok, hphase]
  | @canceled audioState powerState outcomes order appliance sourceId r switch es hread
      hallowed _ hc =>
      simp only [Daemon.owed, hread, hallowed]
      cases hc with
      | nothingPending hidle =>
          refine account_of_answered [d.served] (by simp) rfl ?_
          simp [hown, Nat.add_comm]
      | canceled hpending =>
          refine account_of_answered (d.queue.map Pending.invocation ++ [d.served]) ?_ rfl ?_
          · cases outcomes .deselected <;> simp [Function.comp_def]
          · cases outcomes .deselected <;> simp [waitings, hown]
  | postponed hread hallowed =>
      refine account_of_answered [d.served] (by simp) rfl ?_
      simp [hown, Daemon.owed, hread, hallowed, Nat.add_comm]

end Step

namespace Daemon

/-- Calls that have not come in yet are nowhere. -/
theorem account_future {evs : List (Event V)} {d : Daemon M V} (h : (system M V).Run evs d)
    {i : Nat} (hi : evs.length ≤ i) : account d i = 0 := by
  have haccounted := accounted_of_run h
  have hnone : creating d.creations i = 0 := by
    unfold creating
    rw [List.count_eq_zero]
    intro hmem
    obtain ⟨creation, hcreation, hinvocation⟩ := List.mem_map.mp hmem
    have hlt := (haccounted.creations creation hcreation).1
    omega
  rw [account, haccounted.future i hi, hnone]

/-- At any time, each method call received so far has either been answered once, or it waits
in the queue once, or it waits for its proxy once, and only one of the three.  The only
calls that are nowhere are those of `SetReadyState` on which the pending source could not
be selected.  Nobody else is answered or waits. -/
theorem invocations_accounted {evs : List (Event V)} {d : Daemon M V}
    (h : (system M V).Run evs d) :
    ((system M V).StepsAlong evs fun before e =>
      answers d.log before.served + waitings d.queue before.served +
        creating d.creations before.served = before.owed e) ∧
    ∀ i, evs.length ≤ i →
      answers d.log i + waitings d.queue i + creating d.creations i = 0 := by
  refine ⟨?_, fun i hi => account_future h hi⟩
  change (system M V).StepsAlong evs fun before e => account d before.served = before.owed e
  induction h with
  | nil => exact System.stepsAlong_nil
  | @snoc evs d d' e hrun hstep ih =>
      have hreach := hrun.reachable
      have haccount := (inStep_of_reachable hreach).account_step
        (consistent_of_reachable hreach) (steps_of_step hreach hstep)
      rw [System.stepsAlong_concat hrun]
      refine ⟨?_, ?_⟩
      · intro pre e' before hpre hbefore
        have hlt : before.served < evs.length := by
          rw [(accounted_of_run hbefore).served]
          have hle := hpre.length_le
          rw [List.length_append, List.length_singleton] at hle
          omega
        have hne : d.served ≠ before.served := by
          rw [(accounted_of_run hrun).served]
          omega
        rw [haccount, if_neg hne, Nat.add_zero]
        exact ih pre e' before hpre hbefore
      · have hfuture := account_future hrun (i := d.served) (by rw [(accounted_of_run hrun).served])
        rw [haccount, if_pos rfl, hfuture, Nat.zero_add]

/-- The request waits in the queue, and nobody waits for a proxy anymore. -/
theorem invocations_accounted_deferred : ∃ d : Daemon (Option Bool) Unit,
    (system (Option Bool) Unit).Run deferralEvents d ∧
      answers d.log 5 + waitings d.queue 5 + creating d.creations 5 = 1 ∧
      answers d.log 6 + waitings d.queue 6 + creating d.creations 6 = 0 := by
  obtain ⟨d, hrun, -⟩ := exists_deferred
  obtain ⟨hall, hfuture⟩ := invocations_accounted hrun
  have hexec : ((system (Option Bool) Unit).exec (system (Option Bool) Unit).init
      (deferralEvents.take 5)).map (fun d => d.served) = some 5 := by decide +kernel
  obtain ⟨before, hbefore, hserved⟩ := System.exists_run_of_exec hexec
  have haccount := hall _ (.requestSource 0 "source" none fun _ => true) before
    (List.prefix_refl _) hbefore
  simp only [hserved] at haccount
  exact ⟨d, hrun, haccount, hfuture 6 (Nat.le_refl 6)⟩

end Daemon

/-! ## Replies of the right kind -/

/-- The errors of a method, with their texts. -/
def Event.errors : Event V → List (GDBusError × String)
  | .registerPlayer .. | .registerSource .. => [(.invalidArgs, "Empty argument")]
  | .requestSource .. =>
      [(.invalidArgs, "Audio source unknown"),
        (.invalidArgs, "Audio source process failed"),
        (.invalidArgs, "No player associated"),
        (.invalidArgs, "Player process failed"),
        (.failed, "Canceled pending audio source activation because " ++
          "a different source has been requested"),
        (.failed, "Canceled pending audio source activation because " ++
          "the audio path been released"),
        (.invalidArgs, "Source process failed"),
        (.accessDenied, "Canceled audio source activation")]
  | .query (.playerInfo playerId) =>
      [(.failed, "Audio player \"" ++ playerId ++ "\" not registered")]
  | .query (.sourceInfo sourceId) =>
      [(.failed, "Audio source \"" ++ sourceId ++ "\" not registered")]
  | _ => []

theorem Event.Registers.errors {e : Event V} (h : e.Registers) :
    e.errors = [(.invalidArgs, "Empty argument")] := by
  cases e with
  | registerPlayer | registerSource => rfl
  | proxyDone | requestSource | releasePath | setReadyState | query => exact h.elim

/-- The replies a method has.  Not every method can fail. -/
def Event.accepts : Event V → Reply → Bool
  | e, .error code message => (code, message) ∈ e.errors
  | .registerPlayer .., .registerPlayer => true
  | .registerSource .., .registerSource => true
  | .requestSource .., .requestSource .. => true
  | .releasePath .., .releasePath => true
  | .setReadyState .., .setReadyState => true
  | .query (.activePlayer _), .getActivePlayer _ => true
  | .query .paths, .getPaths .. => true
  | .query .currentPath, .getCurrentPath .. => true
  | .query (.playerInfo _), .getPlayerInfo .. => true
  | .query (.sourceInfo _), .getSourceInfo .. => true
  | .query .applianceState, .getState _ => true
  | _, _ => false

/-- The reply finishes an invocation of this run, by a reply of its method. -/
def Finishes (evs : List (Event V)) (answer : Nat × Reply) : Prop :=
  ∃ e, evs[answer.1]? = some e ∧ e.accepts answer.2 = true

section Kinds

omit [MaybeBool M] in
theorem Finishes.concat {evs : List (Event V)} {answer : Nat × Reply} (h : Finishes evs answer)
    (e : Event V) : Finishes (evs ++ [e]) answer := by
  obtain ⟨e', hget, haccepts⟩ := h
  refine ⟨e', ?_, haccepts⟩
  rw [List.getElem?_append_left (List.getElem?_eq_some_iff.mp hget).1, hget]

variable {evs : List (Event V)} {d d' : Daemon M V} {e : Event V}

omit [MaybeBool M] in
theorem accepts_error {code : GDBusError} {message : String} (h : (code, message) ∈ e.errors) :
    e.accepts (.error code message) = true := by
  unfold Event.accepts
  exact decide_eq_true h

theorem accepts_of_reply? {data : HandlerData M V} {q : Query} {reply : Reply}
    (h : q.reply? data = some reply) : (Event.query q : Event V).accepts reply = true := by
  cases q with
  | activePlayer | paths | currentPath | applianceState =>
      cases h
      rfl
  | playerInfo playerId =>
      simp only [Query.reply?] at h
      cases hlookup : data.audioPaths.lookupPlayer playerId with
      | none =>
          rw [hlookup, playerInfoReply, Option.some.injEq] at h
          rw [← h]
          exact accepts_error List.mem_cons_self
      | some player =>
          rw [hlookup, playerInfoReply, Option.map_eq_some_iff] at h
          obtain ⟨proxy, -, rfl⟩ := h
          rfl
  | sourceInfo sourceId =>
      simp only [Query.reply?] at h
      cases hlookup : data.audioPaths.lookupSource sourceId with
      | none =>
          rw [hlookup, sourceInfoReply, Option.some.injEq] at h
          rw [← h]
          exact accepts_error List.mem_cons_self
      | some source =>
          rw [hlookup, sourceInfoReply, Option.map_eq_some_iff] at h
          obtain ⟨proxy, -, rfl⟩ := h
          rfl

theorem accepts_of_registration {reply : Reply} (hregisters : e.Registers)
    (hperform : d.perform e = .ok () (d.replying reply)) : e.accepts reply = true := by
  rw [d.perform_registration hregisters] at hperform
  cases hcreation : e.creation d.served with
  | some creation => simp [hcreation, Daemon.replying] at hperform
  | none =>
      have hsame : Reply.error .invalidArgs "Empty argument" = reply := by
        simpa [hcreation, Daemon.replying] using hperform
      rw [← hsame]
      refine accepts_error ?_
      rw [hregisters.errors]
      exact List.mem_cons_self

theorem accepts_of_answered {reply : Reply} (hpassive : e.Passive)
    (hperform : d.perform e = .ok () (d.replying reply)) : e.accepts reply = true := by
  cases e with
  | proxyDone | requestSource | releasePath | setReadyState => exact hpassive.elim
  | registerPlayer | registerSource => exact accepts_of_registration trivial hperform
  | query q =>
      rw [Daemon.perform_query] at hperform
      cases hreply : q.reply? d.data with
      | none => simp [hreply] at hperform
      | some given =>
          have hsame : given = reply := by simpa [hreply, Daemon.replying] using hperform
          exact hsame ▸ accepts_of_reply? hreply

/-- How a registration is answered when the creation it has started completes. -/
def Creation.reply : Creation → Reply
  | .player .. => .registerPlayer
  | .source .. => .registerSource

theorem accepts_of_creation {invocation : Nat} {creation : Creation}
    (h : e.creation invocation = some creation) : e.accepts creation.reply = true := by
  cases e with
  | registerPlayer | registerSource =>
      simp only [Event.creation] at h
      split at h
      · cases h
      · rw [← Option.some.inj h]
        rfl
  | proxyDone | requestSource | releasePath | setReadyState | query => cases h

/-- Requests are answered as requests, or by an error. -/
theorem requestReply_kind {a : Activation} {reply : Reply} (h : requestReply a = some reply)
    (object : Nat) (sourceId : String) (data : GVariantWrapper V) (outcomes : Outcomes) :
    (Event.requestSource object sourceId data outcomes).accepts reply = true := by
  unfold requestReply at h
  split at h <;> cases h <;> rfl

omit [MaybeBool M] in
theorem mem_of_dropped {r : DeselectedAudioSourceResult} {p : Pending V}
    (hp : p ∈ droppedCalls r d.queue) : p ∈ d.queue := by
  unfold droppedCalls at hp
  split at hp
  · exact hp
  · cases hp

omit [MaybeBool M] in
/-- Whoever waits in the queue may be told that. -/
theorem finishes_queued (haccounted : Accounted evs d) {reply : Reply}
    (hreply : ∀ object sourceId (data : GVariantWrapper V) outcomes,
      (Event.requestSource object sourceId data outcomes).accepts reply = true) :
    ∀ p ∈ d.queue, Finishes (evs ++ [e]) (p.invocation, reply) := by
  intro p hp
  obtain ⟨object, data, outcomes, hget⟩ := haccounted.queued p hp
  exact Finishes.concat ⟨_, hget, hreply ..⟩ e

/-- All replies are of the right kind, and the creations know who has started them. -/
structure Fitting (evs : List (Event V)) (d : Daemon M V) : Prop where
  replied : ∀ answer ∈ replies d.log, Finishes evs answer
  started : ∀ c ∈ d.creations, ∃ e, evs[c.invocation]? = some e ∧ e.creation c.invocation = some c

omit [MaybeBool M] in
/-- And if the event itself is answered after them, all is well. -/
theorem finishes_drained (haccounted : Accounted evs d) {reply own : Reply}
    (hreply : ∀ object sourceId (data : GVariantWrapper V) outcomes,
      (Event.requestSource object sourceId data outcomes).accepts reply = true)
    (hown : Finishes (evs ++ [e]) (d.served, own)) :
    ∀ answer ∈ (d.queue.map fun p => (p.invocation, reply)) ++ [(d.served, own)],
      Finishes (evs ++ [e]) answer := by
  rw [List.forall_mem_append, List.forall_mem_map, List.forall_mem_singleton]
  exact ⟨finishes_queued haccounted hreply, hown⟩

omit [MaybeBool M] in
/-- A registration is finished. -/
theorem Fitting.registered (h : Fitting evs d) {index : Nat} {creation : Creation}
    (hcreation : d.creations[index]? = some creation) :
    Finishes (evs ++ [e]) (creation.invocation, creation.reply) := by
  obtain ⟨e', hget, hstarted⟩ := h.started creation (List.mem_of_getElem? hcreation)
  exact Finishes.concat ⟨e', hget, accepts_of_creation hstarted⟩ e

theorem Fitting.answers (h : Fitting evs d) (haccounted : Accounted evs d)
    (hsw : Consistent d.data.audioPaths d.data.audioPathSwitch)
    (hnext : (Daemon.system M V).step d e = some d') (hstep : Steps d e d') :
    ∃ sent, replies d'.log = replies d.log ++ sent ∧
      ∀ answer ∈ sent, Finishes (evs ++ [e]) answer := by
  have hown : ∀ {reply : Reply}, e.accepts reply = true →
      Finishes (evs ++ [e]) (d.served, reply) := by
    intro reply haccepts
    refine ⟨e, ?_, haccepts⟩
    rw [haccounted.served]
    exact List.getElem?_concat_length ..
  cases hstep with
  | answered hpassive =>
      refine ⟨_, by simp; rfl, ?_⟩
      simpa using hown (accepts_of_answered hpassive (Daemon.step_eq_some.mp hnext))
  | creating | noCreation => exact ⟨[], by simp, by simp⟩
  | playerRegistered hcreation =>
      refine ⟨_, replies_playerRegistered .., ?_⟩
      rw [List.forall_mem_singleton]
      exact h.registered hcreation
  | sourceRegistered hcreation =>
      refine ⟨_, replies_sourceRegistered .., ?_⟩
      rw [List.forall_mem_singleton]
      exact h.registered hcreation
  | @requested object sourceId data outcomes a switch es hrun ha =>
      refine ⟨_, replies_requested .., ?_⟩
      rw [List.forall_mem_append, List.forall_mem_map, List.forall_mem_map]
      refine ⟨fun reply hreply => hown ?_, fun p hp => ?_⟩
      · exact requestReply_kind (Option.mem_toList.mp hreply) ..
      · refine finishes_queued haccounted (fun _ _ _ _ => ?_) p (mem_of_dropped hp)
        exact accepts_error (by simp [Event.errors])
  | @released object deactivatePlayer data outcomes r switch es hrun hr =>
      refine ⟨_, (replies_released ..).trans (List.append_assoc ..), ?_⟩
      rw [List.forall_mem_append, List.forall_mem_map, List.forall_mem_singleton]
      refine ⟨fun p hp => ?_, hown rfl⟩
      refine finishes_queued haccounted (fun _ _ _ _ => ?_) p (mem_of_dropped hp)
      exact accepts_error (by simp [Event.errors])
  | completed _ _ _ hc =>
      refine ⟨_, replies_completed .., ?_⟩
      cases hc with
      | nothingPending => simpa [completionEntries] using hown rfl
      | sourceFailed =>
          simp only [completionEntries, replies_drainEntries, replies_nil, List.append_nil]
          rw [List.forall_mem_map]
          exact finishes_queued haccounted fun _ _ _ _ =>
            accepts_error (by simp [Event.errors])
      | selected hpending =>
          rcases hsw.phaseOne hpending with hphase | hphase
          all_goals
            simp only [hphase, completionEntries, replies_drainEntries]
            exact finishes_drained haccounted (fun _ _ _ _ => rfl) (hown rfl)
  | canceled _ _ _ hc =>
      refine ⟨_, replies_canceled .., ?_⟩
      rw [List.forall_mem_append, List.forall_mem_singleton]
      refine ⟨?_, hown rfl⟩
      split
      · simp
      · rw [List.forall_mem_map]
        exact finishes_queued haccounted fun _ _ _ _ =>
          accepts_error (by simp [Event.errors])
  | postponed => exact ⟨_, by simp; rfl, by simpa using hown rfl⟩

theorem Fitting.step (h : Fitting evs d) (haccounted : Accounted evs d)
    (hsw : Consistent d.data.audioPaths d.data.audioPathSwitch)
    (hnext : (Daemon.system M V).step d e = some d') (hstep : Steps d e d') :
    Fitting (evs ++ [e]) d' where
  replied := by
    obtain ⟨sent, hsent, hfinishes⟩ := h.answers haccounted hsw hnext hstep
    rw [hsent, List.forall_mem_append]
    exact ⟨fun answer hold => (h.replied answer hold).concat e, hfinishes⟩
  started c hc := by
    rcases hstep.creations_sub hc with hold | hcreation
    · obtain ⟨e', hget, hstarted⟩ := h.started c hold
      refine ⟨e', ?_, hstarted⟩
      rw [List.getElem?_append_left (List.getElem?_eq_some_iff.mp hget).1, hget]
    · rw [(invocation_of_creation hcreation).1, haccounted.served]
      exact ⟨e, List.getElem?_concat_length .., haccounted.served ▸ hcreation⟩

end Kinds

namespace Daemon

/-- In every run, whoever is answered has called, and the reply is one of the method called.
In particular, `ReleasePath`, `SetReadyState` and four of the queries never fail. -/
theorem replies_accepted {evs : List (Event V)} {d : Daemon M V} (h : (system M V).Run evs d) :
    ∀ answer ∈ replies d.log, ∃ e, evs[answer.1]? = some e ∧ e.accepts answer.2 = true := by
  have hfitting : Fitting evs d := by
    refine System.run_induction (P := Fitting) ⟨by simp [system, initial],
      by simp [system, initial]⟩ ?_ h
    intro evs d e d' hrun ih hstep
    exact ih.step (accounted_of_run hrun) (consistent_of_reachable hrun.reachable) hstep
      (steps_of_step hrun.reachable hstep)
  exact hfitting.replied

/-- The first call has been answered, and it is a registration. -/
theorem replies_accepted_deferred : ∃ d : Daemon (Option Bool) Unit,
    (system (Option Bool) Unit).Run deferralEvents d ∧ (0, Reply.registerPlayer) ∈ replies d.log ∧
      ∃ e, deferralEvents[0]? = some e ∧ e.accepts .registerPlayer = true := by
  have hexec : ((system (Option Bool) Unit).exec (system (Option Bool) Unit).init
      deferralEvents).map (fun d => replies d.log) =
      some [(0, .registerPlayer), (1, .registerSource), (4, .setReadyState)] := by
    decide +kernel
  obtain ⟨d, hrun, hreplies⟩ := System.exists_run_of_exec hexec
  have hmem : (0, Reply.registerPlayer) ∈ replies d.log := by
    rw [hreplies]
    exact List.mem_cons_self
  exact ⟨d, hrun, hmem, replies_accepted hrun _ hmem⟩

end Daemon

end TapSwitch
