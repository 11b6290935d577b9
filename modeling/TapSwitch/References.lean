import TapSwitch.Draining
import TapSwitch.Invocations

set_option autoImplicit false

/-!
# Who owns the objects and the invocations

A method call hands a reference to its invocation over to the daemon, and the reply takes
it away again.  A call that waits takes a second reference, because somebody else's
handler is going to answer it.  Manager objects are kept alive by whoever has exported
them.  This file follows the references through whole runs, up to a crash: nothing is used
after its last reference has gone, and what remains in the end is due to the calls that
wait, and to those calls of `SetReadyState` that are never answered.
-/

namespace TapSwitch

open Library

variable {M V : Type}

/-! ## A reply consumes its invocation -/

/-- The references given away by a reply. -/
def Entry.surrenders (entry : Entry V) (handle : Handle) : Int :=
  match entry with
  | .replied invocation _ => if Handle.invocation invocation = handle then 1 else 0
  | .bus _ | .emitted .. | .referenced _ | .unreferenced _ => 0

/-- The references that objects and invocations count. -/
def ownership : Ledger (Entry V) Handle where
  change entry handle := entry.change handle - entry.surrenders handle
  uses := Entry.uses

@[simp] theorem ownership_change (entry : Entry V) (handle : Handle) :
    ownership.change entry handle = entry.change handle - entry.surrenders handle := rfl

@[simp] theorem ownership_uses (entry : Entry V) (handle : Handle) :
    ownership.uses entry handle = entry.uses handle := rfl

/-- No reply is made to an object. -/
theorem balance_ownership_object (log : List (Entry V)) (o : Nat) :
    ownership.balance log (.object o) = references.balance log (.object o) := by
  induction log with
  | nil => rfl
  | cons entry rest ih =>
      rw [Ledger.balance_cons, Ledger.balance_cons, ih]
      cases entry <;> simp [Entry.surrenders]

/-- Each reply to an invocation costs a reference. -/
theorem balance_ownership_invocation (log : List (Entry V)) (i : Nat) :
    ownership.balance log (.invocation i) =
      references.balance log (.invocation i) - answers log i := by
  induction log with
  | nil => rfl
  | cons entry rest ih =>
      rw [Ledger.balance_cons, Ledger.balance_cons, ih]
      cases entry with
      | replied invocation reply =>
          simp only [ownership_change, references_change, Entry.change, Entry.surrenders, answers,
            replies_cons, Entry.reply?, Option.toList_some, List.singleton_append, List.map_cons,
            List.count_cons, beq_iff_eq, Handle.invocation.injEq]
          split <;> omega
      | bus | emitted | referenced | unreferenced => simp [Entry.surrenders, answers]; omega

/-- The references that the queued calls hold to an invocation. -/
theorem held_invocation (queue : List (Pending V)) (i : Nat) :
    held queue (.invocation i) = waitings queue i := by
  induction queue with
  | nil => rfl
  | cons p rest ih =>
      rw [held_cons, ih]
      simp only [waitings, List.map_cons, List.count_cons, Pending.holds, beq_iff_eq]
      by_cases hp : p.invocation = i
      · simp [hp]
      · have hne : ¬ i = p.invocation := fun h => hp h.symm
        simp [hp, hne]

@[simp] theorem heldForSignal_invocation (objects : ManagerObjects V) (i : Nat) :
    heldForSignal objects (.invocation i) = 0 := by
  simp [heldForSignal, List.count_eq_zero]

/-! ## What it takes to answer -/

section Answering

variable {owned : Handle → Int}

theorem covered_map_bus (es : List (BusEntry V)) : ownership.Covered owned (es.map .bus) :=
  Ledger.covered_of_unused (by simp [Entry.uses])

/-- An object is needed for as long as signals are emitted. -/
theorem covered_map_emitted {object : Nat} (h : 0 < owned (.object object))
    (ss : List (Signal V)) : ownership.Covered owned (ss.map (.emitted object)) := by
  induction ss with
  | nil => trivial
  | cons s rest ih =>
      refine ⟨?_, ?_⟩
      · rintro _ rfl
        exact h
      · simpa [Entry.change, Entry.surrenders] using ih

/-- Each reply needs a reference of its own. -/
theorem covered_map_replied {i : Nat} (rs : List Reply)
    (h : rs.length ≤ owned (.invocation i)) :
    ownership.Covered owned (rs.map (.replied i) : List (Entry V)) := by
  induction rs generalizing owned with
  | nil => trivial
  | cons r rest ih =>
      simp only [List.length_cons] at h
      refine ⟨?_, ih ?_⟩
      · rintro _ rfl
        omega
      · simp [Entry.change, Entry.surrenders]
        omega

@[simp] theorem ownership_map_replied_object (i : Nat) (rs : List Reply) (o : Nat) :
    ownership.balance (rs.map (.replied i) : List (Entry V)) (.object o) = 0 := by
  rw [balance_ownership_object, balance_map_replied]

@[simp] theorem ownership_map_replied_invocation (i : Nat) (rs : List Reply) (j : Nat) :
    ownership.balance (rs.map (.replied i) : List (Entry V)) (.invocation j) =
      - if i = j then rs.length else 0 := by
  rw [balance_ownership_invocation, balance_map_replied]
  by_cases hij : i = j
  · simp [answers, hij, Function.comp_def]
  · have hne : ∀ r ∈ rs, ¬ i = j := fun _ _ => hij
    simp [answers, hij, Function.comp_def, List.count_replicate]

/-- Two references to the invocation are needed for answering a queued call, because the
reply takes one of them. -/
theorem ownership_answerEntry (reply : Reply) (p : Pending V) (collected : Bool)
    (hobject : 0 < owned (.object p.object))
    (hinvocation : 1 < owned (.invocation p.invocation)) :
    ownership.Covered owned (answerEntry reply p collected) := by
  cases collected with
  | true =>
      refine ⟨?_, ?_, ?_, ?_, trivial⟩
      · rintro _ rfl
        omega
      · rintro _ rfl
        simpa [Entry.change, Entry.surrenders] using hobject
      · rintro _ rfl
        simp [Entry.change, Entry.surrenders]
        omega
      · rintro _ rfl
        simpa [Entry.change, Entry.surrenders] using hinvocation
  | false =>
      refine ⟨?_, ?_, ?_, trivial⟩
      · rintro _ rfl
        omega
      · rintro _ rfl
        simpa [Entry.change, Entry.surrenders] using hobject
      · rintro _ rfl
        simpa [Entry.change, Entry.surrenders] using hinvocation

/-- Both are gone then. -/
theorem balance_answerEntries_invocation (reply : Reply) (suppress : Bool)
    (objects : ManagerObjects V) (queue : List (Pending V)) (i : Nat) :
    ownership.balance (answerEntries reply suppress objects queue) (.invocation i) =
      - (2 * waitings queue i) := by
  have hanswers : answers (answerEntries reply suppress objects queue) i = waitings queue i := by
    simp [answers, waitings, Function.comp_def]
  rw [balance_ownership_invocation, balance_answerEntries, heldForSignal_invocation,
    heldForSignal_invocation, held_invocation, hanswers]
  omega

theorem ownership_answerEntries (reply : Reply) (suppress : Bool) (queue : List (Pending V))
    (objects : ManagerObjects V)
    (hobjects : ∀ o, held queue (.object o) + heldForSignal objects (.object o) ≤
      owned (.object o))
    (hqueued : ∀ i, 2 * waitings queue i ≤ owned (.invocation i)) :
    ownership.Covered owned (answerEntries reply suppress objects queue) := by
  induction queue generalizing objects owned with
  | nil => trivial
  | cons p rest ih =>
      rw [answerEntries, Ledger.covered_append]
      refine ⟨ownership_answerEntry _ _ _ ?_ ?_, ih _ (fun o => ?_) fun i => ?_⟩
      · have hobject := hobjects p.object
        have hrest := held_nonneg rest (.object p.object)
        have hmap := heldForSignal_nonneg objects (.object p.object)
        simp [Pending.holds] at hobject
        omega
      · have hinvocation := hqueued p.invocation
        simp [waitings] at hinvocation
        omega
      · have hobject := hobjects o
        rw [held_cons] at hobject
        rw [balance_ownership_object, balance_answerEntry, heldForSignal_collect]
        omega
      · have hinvocation := hqueued i
        have hanswered := balance_answerEntries_invocation reply suppress objects [p] i
        simp only [answerEntries, List.append_nil] at hanswered
        rw [hanswered]
        simp only [waitings, List.map_cons, List.map_nil, List.count_cons, List.count_nil]
          at hinvocation ⊢
        omega

/-- The references of the map are enough for the signals. -/
theorem ownership_activatedEntries (order : IterationOrder V) (objects : ManagerObjects V)
    (sourceId playerId : String) :
    ownership.Covered (heldForSignal objects)
      (activatedEntries order objects sourceId playerId) := by
  have hsame : ownership.Covered (heldForSignal objects)
        (activatedEntries order objects sourceId playerId) ↔
      references.Covered (heldForSignal objects)
        (activatedEntries order objects sourceId playerId) := by
    refine Ledger.covered_congr (fun e hmem k => ?_) fun _ _ _ => Iff.rfl
    obtain ⟨m, -, he⟩ := List.mem_flatMap.mp hmem
    rw [List.mem_cons, List.mem_singleton] at he
    rcases he with rfl | rfl <;> simp [Entry.surrenders]
  exact hsame.mpr (covered_activatedEntries order objects sourceId playerId)

/-- With what the queue holds it can be drained, also if another call is answered before the
signals are emitted. -/
theorem ownership_drainEntries (order : IterationOrder V) (reply : Reply) (suppress : Bool)
    (queue : List (Pending V)) (own : Nat) (rs : List Reply) (sourceId playerId : String)
    (hobjects : ∀ o, held queue (.object o) ≤ owned (.object o))
    (hqueued : ∀ i, 2 * waitings queue i ≤ owned (.invocation i))
    (hown : 2 * waitings queue own + rs.length ≤ owned (.invocation own)) :
    ownership.Covered owned
      (drainEntries order reply suppress queue (rs.map (.replied own)) sourceId playerId) := by
  unfold drainEntries
  rw [Ledger.covered_append, Ledger.covered_append]
  refine ⟨⟨ownership_answerEntries reply suppress queue [] ?_ hqueued,
    covered_map_replied rs ?_⟩, ?_⟩
  · intro o
    simpa [heldForSignal] using hobjects o
  · rw [balance_answerEntries_invocation]
    omega
  · refine (ownership_activatedEntries order _ sourceId playerId).mono fun k => ?_
    cases k with
    | object o =>
        have hobject := hobjects o
        rw [Ledger.balance_append, balance_ownership_object, balance_answerEntries,
          ownership_map_replied_object]
        simp only [heldForSignal, List.map_nil, List.count_nil, collected] at hobject ⊢
        omega
    | invocation i =>
        have hinvocation := hqueued i
        rw [Ledger.balance_append, balance_answerEntries_invocation,
          ownership_map_replied_invocation, heldForSignal_invocation]
        split
        · rename_i hi
          subst hi
          omega
        · omega

@[simp] theorem ownership_map_bus (es : List (BusEntry V)) (handle : Handle) :
    ownership.balance (es.map .bus) handle = 0 :=
  Ledger.balance_of_inert (by simp [Entry.change, Entry.surrenders]) handle

theorem ownership_answers_object (reply : Reply) (queue : List (Pending V)) (o : Nat) :
    ownership.balance (answerEntries reply true [] queue) (.object o) =
      - held queue (.object o) := by
  rw [balance_ownership_object, balance_answers]

end Answering

/-! ## Handling an event -/

/-- The event is a method call, which has an invocation. -/
def Event.isCall : Event V → Bool
  | .proxyDone .. => false
  | _ => true

/-- The references that it takes to handle the event, whatever comes of it. -/
structure Owns (d : Daemon M V) (e : Event V) (owned : Handle → Int) : Prop where
  objects : ∀ o, held d.queue (.object o) < owned (.object o)
  queued : ∀ i, 2 * waitings d.queue i ≤ owned (.invocation i)
  own : e.isCall = true → 2 * waitings d.queue d.served < owned (.invocation d.served)
  creating : ∀ c ∈ d.creations, 0 < owned (.invocation c.invocation)

section Handling

variable {d d' : Daemon M V} {e : Event V} {owned : Handle → Int}

/-- Calls that are dropped do not need more than all queued calls. -/
theorem waitings_dropped_le (r : DeselectedAudioSourceResult) (queue : List (Pending V)) (i : Nat) :
    waitings (droppedCalls r queue) i ≤ waitings queue i := by
  have hkept := waitings_dropped_kept r queue i
  omega

theorem held_dropped_le (r : DeselectedAudioSourceResult) (queue : List (Pending V))
    (handle : Handle) : held (droppedCalls r queue) handle ≤ held queue handle := by
  have hkept := held_dropped_kept r queue handle
  have hnonneg := held_nonneg (keptCalls r queue) handle
  omega

/-- A call is answered, and nothing else happens. -/
theorem Owns.answered (h : Owns d e owned) (hcall : e.isCall = true) (reply : Reply) :
    ownership.Covered owned ([.replied d.served reply] : List (Entry V)) := by
  have hown := h.own hcall
  refine covered_map_replied [reply] ?_
  simp only [List.length_singleton]
  omega

/-- A registration is answered, and announced. -/
theorem Owns.registered (h : Owns d e owned) {index : Nat} {creation : Creation}
    (hcreation : d.creations[index]? = some creation) (object : Nat) (reply : Reply)
    (ss : List (Signal V)) :
    ownership.Covered owned
      ([.replied creation.invocation reply] ++ ss.map (.emitted object)) := by
  have hinvocation := h.creating creation (List.mem_of_getElem? hcreation)
  have hobject := h.objects object
  have hnonneg := held_nonneg d.queue (.object object)
  rw [Ledger.covered_append]
  refine ⟨covered_map_replied [reply] hinvocation, covered_map_emitted ?_ ss⟩
  have hbalance := ownership_map_replied_object (V := V) creation.invocation [reply] object
  simp only [List.map_singleton] at hbalance
  rw [hbalance]
  omega

/-- A call enters the queue. -/
theorem covered_queued {waiting : Bool} {object invocation : Nat}
    (hobject : 0 < owned (.object object))
    (hinvocation : waiting = true → 0 < owned (.invocation invocation)) :
    ownership.Covered owned ((if waiting then
      [.referenced (.object object), .referenced (.invocation invocation)] else []) :
      List (Entry V)) := by
  cases waiting with
  | false => trivial
  | true =>
      refine ⟨?_, ?_, trivial⟩
      · rintro _ rfl
        exact hobject
      · rintro _ rfl
        simpa [Entry.change, Entry.surrenders] using hinvocation rfl

theorem ownership_queued_nonneg (waiting : Bool) (object invocation : Nat) (handle : Handle) :
    0 ≤ ownership.balance ((if waiting then
      [.referenced (.object object), .referenced (.invocation invocation)] else []) :
      List (Entry V)) handle := by
  cases waiting with
  | false => simp
  | true =>
      simp [Entry.change, Entry.surrenders]
      split <;> split <;> omega

variable [MaybeBool M]

/-- A request is answered or queued, and the calls it displaces are answered. -/
theorem Owns.requested (h : Owns d e owned) (hcall : e.isCall = true) (hin : InStep d)
    {object : Nat} {sourceId : String} {data : GVariantWrapper V} {outcomes : Outcomes}
    {a : Activation} {switch : Switch V} {es : List (BusEntry V)}
    (ha : Activates outcomes d.data.audioPaths d.data.audioPathSwitch data sourceId
      d.data.applianceState.enableAllowed a switch es) (message : String) :
    ownership.Covered owned (es.map .bus ++ (requestReply a).toList.map (.replied d.served) ++
      answerEntries (.error .failed message) true [] (droppedCalls a.deselectedResult d.queue) ++
      (if waits d.data.applianceState.enableAllowed a.result then
        [.referenced (.object object), .referenced (.invocation d.served)] else []) ++
      (requestSignal sourceId data a).toList.map (.emitted object)) := by
  have hown := h.own hcall
  have honce := hin.request_accounted ha
  have hdropped := waitings_dropped_le a.deselectedResult d.queue
  have hobject := h.objects object
  have hheld := held_dropped_le a.deselectedResult d.queue
  rw [Ledger.covered_append, Ledger.covered_append, Ledger.covered_append, Ledger.covered_append]
  refine ⟨⟨⟨⟨covered_map_bus es, covered_map_replied _ ?_⟩,
    ownership_answerEntries _ _ _ _ (fun o => ?_) fun i => ?_⟩, covered_queued ?_ ?_⟩,
    covered_map_emitted ?_ _⟩
  · rw [ownership_map_bus]
    omega
  · have hobjects := h.objects o
    have hbound := hheld (.object o)
    simp [heldForSignal]
    omega
  · have hqueued := h.queued i
    have hbound := hdropped i
    simp
    split
    · rename_i hi
      subst hi
      omega
    · omega
  · have hbound := hheld (.object object)
    simp [ownership_answers_object]
    omega
  · intro hwaiting
    have hbound := hdropped d.served
    rw [hwaiting, Bool.toNat_true] at honce
    simp [balance_answerEntries_invocation]
    omega
  · have hbound := hheld (.object object)
    have hqueued := ownership_queued_nonneg (V := V)
      (waits d.data.applianceState.enableAllowed a.result) object d.served (.object object)
    simp [ownership_answers_object]
    omega

omit [MaybeBool M] in
theorem Owns.released (h : Owns d e owned) (hcall : e.isCall = true) (object : Nat)
    (r : DeselectedAudioSourceResult) (es : List (BusEntry V)) (message : String)
    (ss : List (Signal V)) :
    ownership.Covered owned (es.map .bus ++
      answerEntries (.error .failed message) true [] (droppedCalls r d.queue) ++
      [.replied d.served .releasePath] ++ ss.map (.emitted object)) := by
  have hown := h.own hcall
  have hobject := h.objects object
  have hdropped := waitings_dropped_le r d.queue
  have hheld := held_dropped_le r d.queue
  rw [Ledger.covered_append, Ledger.covered_append, Ledger.covered_append]
  refine ⟨⟨⟨covered_map_bus es, ownership_answerEntries _ _ _ _ (fun o => ?_) fun i => ?_⟩,
    covered_map_replied [.releasePath] ?_⟩, covered_map_emitted ?_ ss⟩
  · have hobjects := h.objects o
    have hbound := hheld (.object o)
    simp [heldForSignal]
    omega
  · have hqueued := h.queued i
    have hbound := hdropped i
    simp
    omega
  · have hbound := hdropped d.served
    simp [balance_answerEntries_invocation]
    omega
  · have hbound := hheld (.object object)
    simp [ownership_answers_object, Entry.change, Entry.surrenders]
    omega

omit [MaybeBool M] in
/-- The pending activation is completed or canceled, and the report may be answered. -/
theorem Owns.drained (h : Owns d e owned) (hcall : e.isCall = true) (es : List (BusEntry V))
    (order : IterationOrder V) (reply : Reply) (suppress : Bool) (rs : List Reply)
    (hrs : rs.length ≤ 1) (sourceId playerId : String) :
    ownership.Covered owned (es.map .bus ++ drainEntries order reply suppress d.queue
      (rs.map (.replied d.served)) sourceId playerId) := by
  have hown := h.own hcall
  rw [Ledger.covered_append]
  refine ⟨covered_map_bus es, ?_⟩
  simp only [ownership_map_bus, add_zero]
  refine ownership_drainEntries _ _ _ _ _ _ _ _ (fun o => ?_) h.queued ?_
  · have hobjects := h.objects o
    omega
  · omega

omit [MaybeBool M] in
/-- The report is answered after the calls that are canceled, if there are any. -/
theorem Owns.canceled (h : Owns d e owned) (hcall : e.isCall = true) (es : List (BusEntry V))
    (order : IterationOrder V) (result : ActivateResult) (reply : Reply)
    (sourceId playerId : String) :
    ownership.Covered owned (es.map .bus ++
      (if result = .errorSourceUnknown then []
        else drainEntries order reply true d.queue [] sourceId playerId) ++
      [.replied d.served .setReadyState]) := by
  have hown := h.own hcall
  rw [Ledger.covered_append]
  split
  · refine ⟨by simpa using covered_map_bus es, covered_map_replied [.setReadyState] ?_⟩
    simp
    omega
  · have hdrained := h.drained hcall es order reply true [] (Nat.zero_le 1) sourceId playerId
    refine ⟨hdrained, covered_map_replied [.setReadyState] ?_⟩
    have hanswers : answers (drainEntries order reply true d.queue [] sourceId playerId)
        d.served = waitings d.queue d.served := by
      simp [answers, waitings, Function.comp_def]
    rw [Ledger.balance_append, ownership_map_bus, balance_ownership_invocation,
      balance_drainEntries, hanswers, held_invocation]
    simp
    omega

/-- Whatever the daemon does, it does with what it owns. -/
theorem Steps.covered (h : Owns d e owned) (hin : InStep d)
    (hsw : Consistent d.data.audioPaths d.data.audioPathSwitch) (hstep : Steps d e d') :
    ∃ entries, d'.log = d.log ++ entries ∧ ownership.Covered owned entries := by
  cases hstep with
  | @answered _ reply hpassive =>
      have hcall : e.isCall = true := by
        cases e with
        | registerPlayer | registerSource | query => rfl
        | proxyDone | requestSource | releasePath | setReadyState => exact hpassive.elim
      exact ⟨_, rfl, h.answered hcall reply⟩
  | creating | noCreation => exact ⟨[], (List.append_nil _).symm, trivial⟩
  | @playerRegistered _ _ object _ playerId playerName _ _ hcreation =>
      exact ⟨_, rfl, h.registered hcreation object _ (_ :: announcements _ _)⟩
  | @sourceRegistered _ _ object _ _ _ _ _ _ hcreation =>
      refine ⟨_, rfl, ?_⟩
      split
      · exact h.registered hcreation object _ [_]
      · exact h.registered hcreation object _ []
  | requested _ ha => exact ⟨_, rfl, h.requested rfl hin ha _⟩
  | @released object deactivatePlayer data outcomes r switch es hrun hr =>
      refine ⟨_, rfl, ?_⟩
      split
      · exact h.released rfl object _ es _ []
      · exact h.released rfl object _ es _ [_]
  | completed _ _ _ hc =>
      refine ⟨_, rfl, ?_⟩
      cases hc with
      | nothingPending => exact h.answered rfl _
      | sourceFailed => exact h.drained rfl _ _ _ _ [] (Nat.zero_le 1) _ _
      | selected hpending =>
          rcases hsw.phaseOne hpending with hphase | hphase
          all_goals
            rw [hphase]
            exact h.drained rfl _ _ _ _ [.setReadyState] (Nat.le_refl 1) _ _
  | canceled => exact ⟨_, rfl, h.canceled rfl _ _ _ _ _ _⟩
  | postponed hread hallowed => exact ⟨_, rfl, h.answered rfl _⟩

/-- Before a crash, nothing is used that could have gone. -/
theorem Daemon.Leaves.covered (h : d.Leaves e d') :
    ∃ entries, d'.log = d.log ++ entries ∧ ownership.Covered owned entries := by
  cases h with
  | requesting | releasing | readying => exact ⟨_, rfl, covered_map_bus _⟩
  | asking => exact ⟨[], (List.append_nil _).symm, trivial⟩

end Handling

/-! ## Whole runs -/

/-- The references given to the daemon: one for each call it has received, and one for each
manager object, which stays exported. -/
def entrusted (evs : List (Event V)) : Handle → Int
  | .object _ => 1
  | .invocation i => if evs[i]?.any Event.isCall then 1 else 0

theorem entrusted_le_concat (evs : List (Event V)) (e : Event V) (handle : Handle) :
    entrusted evs handle ≤ entrusted (evs ++ [e]) handle := by
  cases handle with
  | object => exact Int.le_refl 1
  | invocation i =>
      by_cases hi : i < evs.length
      · simp [entrusted, List.getElem?_append_left hi]
      · have hnone : evs[i]? = none := List.getElem?_eq_none (by omega)
        simp only [entrusted, hnone, Option.any_none, Bool.false_eq_true, if_false]
        split <;> simp

theorem entrusted_own (evs : List (Event V)) {e : Event V} (h : e.isCall = true) :
    entrusted (evs ++ [e]) (.invocation evs.length) = 1 := by
  simp [entrusted, h]

namespace Daemon

variable [MaybeBool M] {evs : List (Event V)} {d : Daemon M V}

theorem owed_le (d : Daemon M V) (e : Event V) : d.owed e ≤ if e.isCall then 1 else 0 := by
  cases e with
  | proxyDone => exact Nat.le_refl 0
  | setReadyState =>
      simp only [owed, Event.isCall]
      split <;> simp
  | registerPlayer | registerSource | requestSource | releasePath | query => exact Nat.le_refl 1

/-- Nobody is to be found anywhere without having called. -/
theorem account_le (h : (system M V).Run evs d) (i : Nat) :
    (account d i : Int) ≤ entrusted evs (.invocation i) := by
  induction h with
  | nil => exact Int.le_refl 0
  | @snoc evs d d' e hrun hstep ih =>
      have hreach := hrun.reachable
      have haccount := (inStep_of_reachable hreach).account_step
        (consistent_of_reachable hreach) (steps_of_step hreach hstep) i
      have hserved := (accounted_of_run hrun).served
      have hle := entrusted_le_concat evs e (.invocation i)
      rw [haccount, hserved]
      split
      · rename_i hi
        subst hi
        have hfuture := account_future hrun (Nat.le_refl evs.length)
        have howed := owed_le d e
        cases hcall : e.isCall with
        | true =>
            rw [entrusted_own evs hcall]
            simp only [hcall, if_true] at howed
            omega
        | false =>
            simp only [hcall] at howed
            simp at howed
            omega
      · omega

/-- The books of a run, for invocations. -/
theorem balance_invocation (h : (system M V).Run evs d) (i : Nat) :
    ownership.balance d.log (.invocation i) = waitings d.queue i - answers d.log i := by
  rw [balance_ownership_invocation, balanced_of_reachable h.reachable, held_invocation]

theorem owns_of_run (h : (system M V).Run evs d) (e : Event V) :
    Owns d e fun k => entrusted (evs ++ [e]) k + ownership.balance d.log k where
  objects o := by
    rw [balance_ownership_object, balanced_of_reachable h.reachable]
    simp only [entrusted]
    omega
  queued i := by
    have haccount := account_le h i
    have hle := entrusted_le_concat evs e (.invocation i)
    rw [balance_invocation h]
    simp only [account, tally] at haccount
    omega
  own hcall := by
    have hfuture := account_future h (Nat.le_refl evs.length)
    rw [balance_invocation h, (accounted_of_run h).served, entrusted_own evs hcall]
    simp only [account, tally] at hfuture
    omega
  creating c hc := by
    have haccount := account_le h c.invocation
    have hle := entrusted_le_concat evs e (.invocation c.invocation)
    have hcount : 0 < TapSwitch.creating d.creations c.invocation := by
      unfold TapSwitch.creating
      exact List.count_pos_iff.mpr (List.mem_map_of_mem hc)
    rw [balance_invocation h]
    simp only [account, tally] at haccount
    omega

/-- What happens next is covered. -/
theorem covered_next (h : (system M V).Run evs d)
    (hcovered : ownership.Covered (entrusted evs) d.log) (e : Event V) :
    ownership.Covered (entrusted (evs ++ [e])) (d.afterwards e).log := by
  have hreach := h.reachable
  have hsw := consistent_of_reachable hreach
  have hentries : ∃ entries, (d.afterwards e).log = d.log ++ entries ∧
      ownership.Covered (fun k => entrusted (evs ++ [e]) k + ownership.balance d.log k)
        entries := by
    rcases steps_or_leaves hsw e with hsteps | hleaves
    · exact hsteps.covered (owns_of_run h e) (inStep_of_reachable hreach) hsw
    · exact hleaves.covered
  obtain ⟨entries, hlog, hmore⟩ := hentries
  rw [hlog, Ledger.covered_append]
  exact ⟨hcovered.mono (entrusted_le_concat evs e), hmore⟩

theorem covered_of_run (h : (system M V).Run evs d) :
    ownership.Covered (entrusted evs) d.log := by
  refine System.run_induction (P := fun evs d => ownership.Covered (entrusted evs) d.log)
    (Ledger.covered_nil _) ?_ h
  intro evs d e d' hrun ih hstep
  have hnext : d' = d.afterwards e := by
    unfold afterwards
    rw [step_eq_some.mp hstep]
  rw [hnext]
  exact covered_next hrun ih e

/-- Whatever happens, also if it ends in a crash, no object and no invocation is used after its
last reference has been dropped or given away with a reply.  The references taken in addition
are those of the queue.  Of a call there are two references while it waits in the queue, one
while it waits for its proxy, and none after it has been answered; a call that is never
answered is never freed. -/
theorem references_sound (h : (system M V).Run evs d) :
    (∀ e, ownership.Covered (entrusted (evs ++ [e])) (d.afterwards e).log) ∧
    (∀ o, ownership.balance d.log (.object o) = d.queue.countP fun p => p.object = o) ∧
    (system M V).StepsAlong evs fun before e => e.isCall = true →
      1 + ownership.balance d.log (.invocation before.served) =
        2 * waitings d.queue before.served + creating d.creations before.served +
          (1 - before.owed e) := by
  refine ⟨covered_next h (covered_of_run h), fun o => ?_, ?_⟩
  · rw [balance_ownership_object, balanced_of_reachable h.reachable]
    simp [held, Pending.holds, eq_comm]
  · intro pre e before hpre hbefore hcall
    have hplace := (invocations_accounted h).1 pre e before hpre hbefore
    rw [balance_invocation h]
    omega

/-- The call that waits has two references, and its object one more. -/
theorem references_sound_deferred : ∃ d : Daemon (Option Bool) Unit,
    (system (Option Bool) Unit).Run deferralEvents d ∧
      1 + ownership.balance d.log (.invocation 5) = 2 ∧
      ownership.balance d.log (.object 0) = 1 := by
  have hend : ((system (Option Bool) Unit).exec (system (Option Bool) Unit).init
      deferralEvents).map (fun d => (waitings d.queue 5, creating d.creations 5,
        d.queue.countP fun p => p.object = 0)) = some (1, 0, 1) := by decide +kernel
  have hstart : ((system (Option Bool) Unit).exec (system (Option Bool) Unit).init
      (deferralEvents.take 5)).map (fun d => d.served) = some 5 := by decide +kernel
  obtain ⟨d, hrun, hseen⟩ := System.exists_run_of_exec hend
  obtain ⟨before, hbefore, hserved⟩ := System.exists_run_of_exec hstart
  simp only [Prod.mk.injEq] at hseen
  obtain ⟨hwaiting, hcreating, hobject⟩ := hseen
  obtain ⟨-, hobjects, hcalls⟩ := references_sound hrun
  have hcall := hcalls _ (.requestSource 0 "source" none fun _ => true) before
    (List.prefix_refl _) hbefore rfl
  have howed : before.owed (.requestSource 0 "source" none fun _ => true) = 1 := rfl
  rw [hserved, hwaiting, hcreating, howed] at hcall
  have hheld := hobjects 0
  rw [hobject] at hheld
  exact ⟨d, hrun, by simpa using hcall, by simpa using hheld⟩

end Daemon

end TapSwitch
