import TapSwitch.Library.Ledger
import TapSwitch.Queue

set_option autoImplicit false

/-!
# Draining the queue

Each queued call holds a reference to its manager object and one to its invocation.
Whoever drains the queue answers the calls in order and drops these references.  Manager
objects that are to be told are kept in a map in between, with a reference of their own.
This file proves that each call is answered and each object told as often as it should
be, and that the references add up.
-/

namespace TapSwitch

open Library

variable {M V : Type}

/-! ## Who will be told -/

theorem lookup_collect (suppress : Bool) (objects : ManagerObjects V) (p : Pending V)
    (object : Nat) :
    (collect suppress objects p).lookup object =
      (objects.lookup object).or
        (if suppress = false ∧ p.object = object then some p.requestData else none) := by
  unfold collect collects
  cases suppress with
  | true => simp
  | false =>
      by_cases hobject : p.object = object
      · subst hobject
        cases hlookup : objects.lookup p.object <;> simp [List.lookup_append, hlookup]
      · have hne : (object == p.object) = false := by simpa using fun h => hobject h.symm
        split <;> simp [List.lookup_append, hobject, List.lookup_cons, hne]

/-- An object is told the data of the first of its calls. -/
theorem lookup_collects (suppress : Bool) (queue : List (Pending V))
    (objects : ManagerObjects V) (object : Nat) :
    (queue.foldl (collect suppress) objects).lookup object =
      (objects.lookup object).or
        (if suppress then none
          else (queue.find? fun p => p.object = object).map (·.requestData)) := by
  induction queue generalizing objects with
  | nil => simp
  | cons p rest ih =>
      rw [List.foldl_cons, ih, lookup_collect, Option.or_assoc, List.find?_cons]
      cases suppress with
      | true => simp
      | false => by_cases hobject : p.object = object <;> simp [hobject]

theorem lookup_collected (queue : List (Pending V)) (object : Nat) :
    (collected false queue).lookup object =
      (queue.find? fun p => p.object = object).map (·.requestData) := by
  simpa [collected] using lookup_collects false queue [] object

theorem collect_nodup {suppress : Bool} {objects : ManagerObjects V} {p : Pending V}
    (h : (objects.map Prod.fst).Nodup) :
    ((collect suppress objects p).map Prod.fst).Nodup := by
  unfold collect
  split
  · rename_i hcollects
    have hnone : objects.lookup p.object = none := by
      simp only [collects, Bool.and_eq_true, Option.isNone_iff_eq_none] at hcollects
      exact hcollects.2
    rw [List.map_append, List.nodup_append]
    refine ⟨h, by simp, ?_⟩
    rintro a ha b hb rfl
    obtain ⟨entry, hentry, rfl⟩ := List.mem_map.mp ha
    have hobject : entry.1 = p.object := by simpa using hb
    have hne := List.lookup_eq_none_iff.mp hnone entry hentry
    rw [hobject] at hne
    simp at hne
  · exact h

/-- No object is told twice. -/
theorem collected_nodup (suppress : Bool) (queue : List (Pending V)) :
    ((collected suppress queue).map Prod.fst).Nodup := by
  have hfold : ∀ objects : ManagerObjects V, (objects.map Prod.fst).Nodup →
      ((queue.foldl (collect suppress) objects).map Prod.fst).Nodup := by
    induction queue with
    | nil => exact fun _ h => h
    | cons p rest ih => exact fun objects h => ih _ (collect_nodup h)
  exact hfold [] List.nodup_nil

/-- Those are told through whom a call has come in. -/
theorem mem_collected_iff {suppress : Bool} {queue : List (Pending V)} {object : Nat} :
    object ∈ (collected suppress queue).map Prod.fst ↔
      suppress = false ∧ ∃ p ∈ queue, p.object = object := by
  have hmem : object ∈ (collected suppress queue).map Prod.fst ↔
      (collected suppress queue).lookup object ≠ none := by
    rw [ne_eq, List.lookup_eq_none_iff, List.mem_map]
    simp only [bne_iff_ne, not_forall, ne_eq, exists_prop, not_not]
    exact ⟨fun ⟨e, he, heq⟩ => ⟨e, he, heq.symm⟩, fun ⟨e, he, heq⟩ => ⟨e, he, heq.symm⟩⟩
  rw [hmem]
  cases suppress with
  | true => simp [collected_suppressed]
  | false => simp [lookup_collected]

/-! ## References -/

/-- What an entry changes about the references to `handle`. -/
def Entry.change (entry : Entry V) (handle : Handle) : Int :=
  match entry with
  | .referenced h => if h = handle then 1 else 0
  | .unreferenced h => if h = handle then -1 else 0
  | .bus _ | .replied .. | .emitted .. => 0

/-- What must not have been released before. -/
def Entry.uses (entry : Entry V) (handle : Handle) : Prop :=
  match entry with
  -- A reply names its manager object, too; queued calls drop theirs right after it.
  | .replied invocation _ => handle = .invocation invocation
  | .emitted object _ => handle = .object object
  | .referenced h | .unreferenced h => handle = h
  | .bus _ => False

/-- The references the handlers take and drop. -/
def references : Ledger (Entry V) Handle := ⟨Entry.change, Entry.uses⟩

@[simp] theorem references_change (entry : Entry V) (handle : Handle) :
    references.change entry handle = entry.change handle := rfl

@[simp] theorem references_uses (entry : Entry V) (handle : Handle) :
    references.uses entry handle = entry.uses handle := rfl

/-- A queued call holds its object and its invocation. -/
def Pending.holds (p : Pending V) (handle : Handle) : Bool :=
  handle = .object p.object || handle = .invocation p.invocation

/-- The number of queued calls that hold `handle`. -/
def held (queue : List (Pending V)) (handle : Handle) : Int :=
  queue.countP (·.holds handle)

/-- The references held by the map of manager objects. -/
def heldForSignal (objects : ManagerObjects V) (handle : Handle) : Int :=
  (objects.map fun m => Handle.object m.1).count handle

@[simp] theorem held_nil (handle : Handle) : held ([] : List (Pending V)) handle = 0 := rfl

@[simp] theorem held_cons (p : Pending V) (queue : List (Pending V)) (handle : Handle) :
    held (p :: queue) handle = held queue handle + if p.holds handle then 1 else 0 := by
  unfold held
  rw [List.countP_cons]
  split <;> simp

@[simp] theorem held_append (queue more : List (Pending V)) (handle : Handle) :
    held (queue ++ more) handle = held queue handle + held more handle := by
  simp [held]

theorem held_nonneg (queue : List (Pending V)) (handle : Handle) : 0 ≤ held queue handle :=
  Int.natCast_nonneg _

theorem heldForSignal_nonneg (objects : ManagerObjects V) (handle : Handle) :
    0 ≤ heldForSignal objects handle := Int.natCast_nonneg _

theorem heldForSignal_collect (suppress : Bool) (objects : ManagerObjects V) (p : Pending V)
    (handle : Handle) :
    heldForSignal (collect suppress objects p) handle =
      heldForSignal objects handle +
        if collects suppress objects p ∧ handle = .object p.object then 1 else 0 := by
  unfold collect heldForSignal
  by_cases hcollects : collects suppress objects p = true
  · by_cases hhandle : handle = .object p.object
    · simp [hcollects, hhandle, List.count_append]
    · have hne : ¬ Handle.object p.object = handle := fun h => hhandle h.symm
      simp [hcollects, hhandle, hne, List.count_append]
  · simp [hcollects]

/-- Answering a call takes a reference for the map, if the object enters it, and drops
the two that the call has held. -/
theorem balance_answerEntry (reply : Reply) (p : Pending V) (collected : Bool)
    (handle : Handle) :
    references.balance (answerEntry reply p collected) handle =
      (if collected ∧ handle = .object p.object then 1 else 0) -
        if p.holds handle then 1 else 0 := by
  cases handle with
  | object o =>
      by_cases ho : p.object = o
      · cases collected <;> simp [answerEntry, Entry.change, Pending.holds, ho]
      · have hne : ¬ o = p.object := fun h => ho h.symm
        cases collected <;> simp [answerEntry, Entry.change, Pending.holds, ho, hne]
  | invocation i =>
      by_cases hi : p.invocation = i
      · cases collected <;> simp [answerEntry, Entry.change, Pending.holds, hi]
      · have hne : ¬ i = p.invocation := fun h => hi h.symm
        cases collected <;> simp [answerEntry, Entry.change, Pending.holds, hi, hne]

/-- That is safe for whoever owns these two references. -/
theorem covered_answerEntry {owned : Handle → Int} (reply : Reply) (p : Pending V)
    (collected : Bool) (hobject : 0 < owned (.object p.object))
    (hinvocation : 0 < owned (.invocation p.invocation)) :
    references.Covered owned (answerEntry reply p collected) := by
  cases collected with
  | true =>
      refine ⟨?_, ?_, ?_, ?_, trivial⟩
      · rintro _ rfl
        exact hinvocation
      · rintro _ rfl
        simpa [Entry.change] using hobject
      · rintro _ rfl
        simp [Entry.change]
        omega
      · rintro _ rfl
        simpa [Entry.change] using hinvocation
  | false =>
      refine ⟨?_, ?_, ?_, trivial⟩
      · rintro _ rfl
        exact hinvocation
      · rintro _ rfl
        simpa [Entry.change] using hobject
      · rintro _ rfl
        simpa [Entry.change] using hinvocation

section Answers

variable (reply : Reply) (suppress : Bool) (objects : ManagerObjects V)
  (queue : List (Pending V))

theorem balance_answerEntries (handle : Handle) :
    references.balance (answerEntries reply suppress objects queue) handle =
      heldForSignal (queue.foldl (collect suppress) objects) handle -
        heldForSignal objects handle - held queue handle := by
  induction queue generalizing objects with
  | nil => simp [answerEntries]
  | cons p rest ih =>
      rw [answerEntries, Ledger.balance_append, balance_answerEntry, ih, List.foldl_cons,
        heldForSignal_collect, held_cons]
      omega

/-- The references that the queue and the map hold are enough for answering all calls. -/
theorem covered_answerEntries :
    references.Covered (fun handle => held queue handle + heldForSignal objects handle)
      (answerEntries reply suppress objects queue) := by
  induction queue generalizing objects with
  | nil => trivial
  | cons p rest ih =>
      rw [answerEntries, Ledger.covered_append]
      refine ⟨covered_answerEntry _ _ _ ?_ ?_, ?_⟩
      · have hrest := held_nonneg rest (.object p.object)
        have hobjects := heldForSignal_nonneg objects (.object p.object)
        simp [Pending.holds]
        omega
      · have hrest := held_nonneg rest (.invocation p.invocation)
        have hobjects := heldForSignal_nonneg objects (.invocation p.invocation)
        simp [Pending.holds]
        omega
      · have howned : (fun handle => held (p :: rest) handle + heldForSignal objects handle +
            references.balance (answerEntry reply p (collects suppress objects p)) handle) =
            fun handle => held rest handle +
              heldForSignal (collect suppress objects p) handle := by
          funext handle
          rw [balance_answerEntry, heldForSignal_collect, held_cons]
          omega
        rw [howned]
        exact ih _

end Answers

section Signals

variable (order : IterationOrder V) (objects : ManagerObjects V) (sourceId playerId : String)

theorem balance_told (told : ManagerObjects V) (signal : GVariantWrapper V → Signal V)
    (handle : Handle) :
    references.balance (told.flatMap fun m =>
        [.emitted m.1 (signal m.2), .unreferenced (.object m.1)]) handle =
      - heldForSignal told handle := by
  induction told with
  | nil => rfl
  | cons m rest ih =>
      simp only [heldForSignal] at ih
      by_cases hm : Handle.object m.1 = handle
      · simp [ih, Entry.change, heldForSignal, hm, add_comm]
      · simp [ih, Entry.change, heldForSignal, hm]

theorem covered_told (told : ManagerObjects V) (signal : GVariantWrapper V → Signal V) :
    references.Covered (heldForSignal told) (told.flatMap fun m =>
      [.emitted m.1 (signal m.2), .unreferenced (.object m.1)]) := by
  induction told with
  | nil => trivial
  | cons m rest ih =>
      have hpos : 0 < heldForSignal (m :: rest) (.object m.1) := by simp [heldForSignal]
      have howned : (fun handle => heldForSignal (m :: rest) handle + 0 +
          if Handle.object m.1 = handle then -1 else 0) = heldForSignal rest := by
        funext handle
        by_cases hm : Handle.object m.1 = handle <;>
          simp [heldForSignal, hm]
      refine ⟨?_, ?_, ?_⟩
      · rintro _ rfl
        exact hpos
      · rintro _ rfl
        simpa [Entry.change] using hpos
      · exact howned ▸ ih

/-- The map is emptied by its own references. -/
theorem heldForSignal_arrange : heldForSignal (order.arrange objects) = heldForSignal objects := by
  funext handle
  exact congrArg _ (((order.perm objects).map _).count_eq handle)

theorem balance_activatedEntries (handle : Handle) :
    references.balance (activatedEntries order objects sourceId playerId) handle =
      - heldForSignal objects handle := by
  rw [← heldForSignal_arrange order]
  exact balance_told _ _ _

theorem covered_activatedEntries :
    references.Covered (heldForSignal objects)
      (activatedEntries order objects sourceId playerId) := by
  rw [← heldForSignal_arrange order]
  exact covered_told _ _

end Signals

/-! ## Draining as a whole -/

def Entry.emission? : Entry V → Option (Nat × Signal V)
  | .emitted object signal => some (object, signal)
  | _ => none

/-- The signals, with the objects through which they were emitted. -/
def emissions (log : List (Entry V)) : List (Nat × Signal V) := log.filterMap Entry.emission?

@[simp] theorem emissions_nil : emissions ([] : List (Entry V)) = [] := rfl

@[simp] theorem emissions_cons (entry : Entry V) (log : List (Entry V)) :
    emissions (entry :: log) = entry.emission?.toList ++ emissions log := by
  cases entry <;> rfl

/-- The entries `answering` finish all calls of the queue, then `telling` informs the
manager objects. -/
structure Drains (queue : List (Pending V)) (reply : Reply) (suppress : Bool)
    (sourceId playerId : String) (answering telling : List (Entry V)) : Prop where
  /-- Each call is answered once, in the order of the queue, all in the same way. -/
  replied : replies answering = queue.map fun p => (p.invocation, reply)
  /-- No signal is emitted before all calls have been answered, and no call later. -/
  ordered : signals answering = [] ∧ replies telling = []
  /-- No object is told twice. -/
  once : ((emissions telling).map Prod.fst).Nodup
  /-- All objects in the queue are told, or none if signals are suppressed. -/
  told : ∀ object, object ∈ (emissions telling).map Prod.fst ↔
    suppress = false ∧ ∃ p ∈ queue, p.object = object
  signal : ∀ m ∈ emissions telling, ∃ data, m.2 = .pathActivated sourceId playerId data
  /-- The references held by the queue are released, and no others. -/
  released : ∀ handle, references.balance (answering ++ telling) handle = - held queue handle
  /-- Nothing is used after its last reference has been dropped. -/
  covered : references.Covered (held queue) (answering ++ telling)

section Drains

variable (order : IterationOrder V) (reply : Reply) (suppress : Bool)
  (queue : List (Pending V)) (sourceId playerId : String)

theorem emissions_activatedEntries (objects : ManagerObjects V) :
    emissions (activatedEntries order objects sourceId playerId) =
      (order.arrange objects).map fun m => (m.1, .pathActivated sourceId playerId m.2) := by
  unfold activatedEntries
  induction order.arrange objects with
  | nil => rfl
  | cons m rest ih => simpa [Entry.emission?] using ih

theorem balance_answering_telling (handle : Handle) :
    references.balance (answerEntries reply suppress [] queue ++
        activatedEntries order (collected suppress queue) sourceId playerId) handle =
      - held queue handle := by
  rw [Ledger.balance_append, balance_answerEntries, balance_activatedEntries, collected]
  simp [heldForSignal]
  omega

theorem drains_completed :
    Drains queue reply suppress sourceId playerId (answerEntries reply suppress [] queue)
      (activatedEntries order (collected suppress queue) sourceId playerId) where
  replied := replies_answerEntries reply suppress [] queue
  ordered := ⟨signals_answerEntries reply suppress [] queue,
    replies_activatedEntries order (collected suppress queue) sourceId playerId⟩
  once := by
    rw [emissions_activatedEntries, List.map_map]
    exact ((order.perm _).map Prod.fst).nodup_iff.mpr (collected_nodup suppress queue)
  told object := by
    rw [emissions_activatedEntries, List.map_map, ← mem_collected_iff]
    exact ((order.perm _).map Prod.fst).mem_iff
  signal := by
    intro m hm
    rw [emissions_activatedEntries] at hm
    obtain ⟨told, -, rfl⟩ := List.mem_map.mp hm
    exact ⟨told.2, rfl⟩
  released := balance_answering_telling order reply suppress queue sourceId playerId
  covered := by
    have hanswers := covered_answerEntries reply suppress [] queue
    have hstart : (fun handle => held queue handle + heldForSignal ([] : ManagerObjects V) handle) =
        held queue := by
      funext handle
      simp [heldForSignal]
    have hrest : (fun handle => held queue handle +
        references.balance (answerEntries reply suppress [] queue) handle) =
        heldForSignal (collected suppress queue) := by
      funext handle
      rw [balance_answerEntries, collected]
      simp [heldForSignal]
    rw [Ledger.covered_append, hrest]
    exact ⟨hstart ▸ hanswers, covered_activatedEntries order _ sourceId playerId⟩

/-- Failing the calls is draining the queue without signals. -/
theorem drains_failed : Drains queue reply true sourceId playerId
    (answerEntries reply true [] queue) [] := by
  have h := drains_completed .insertion reply true queue sourceId playerId
  rw [collected_suppressed] at h
  exact h

end Drains

/-! ## The books of the daemon -/

@[simp] theorem balance_map_bus (es : List (BusEntry V)) (handle : Handle) :
    references.balance (es.map .bus) handle = 0 :=
  Ledger.balance_of_inert (by simp [Entry.change]) handle

@[simp] theorem balance_map_replied (invocation : Nat) (rs : List Reply) (handle : Handle) :
    references.balance (rs.map (.replied invocation) : List (Entry V)) handle = 0 :=
  Ledger.balance_of_inert (by simp [Entry.change]) handle

@[simp] theorem balance_map_emitted (object : Nat) (ss : List (Signal V)) (handle : Handle) :
    references.balance (ss.map (.emitted object)) handle = 0 :=
  Ledger.balance_of_inert (by simp [Entry.change]) handle

/-- Draining without signals. -/
theorem balance_answers (reply : Reply) (queue : List (Pending V)) (handle : Handle) :
    references.balance (answerEntries reply true [] queue) handle = - held queue handle := by
  simpa using (drains_failed reply queue "" "").released handle

@[simp] theorem balance_drainEntries (order : IterationOrder V) (reply : Reply) (suppress : Bool)
    (queue : List (Pending V)) (after : List (Entry V)) (sourceId playerId : String)
    (handle : Handle) :
    references.balance (drainEntries order reply suppress queue after sourceId playerId) handle =
      references.balance after handle - held queue handle := by
  have h := balance_answering_telling order reply suppress queue sourceId playerId handle
  rw [Ledger.balance_append] at h
  rw [drainEntries, Ledger.balance_append, Ledger.balance_append]
  omega

theorem held_dropped_kept (r : DeselectedAudioSourceResult) (queue : List (Pending V))
    (handle : Handle) :
    held (droppedCalls r queue) handle + held (keptCalls r queue) handle = held queue handle := by
  unfold droppedCalls keptCalls
  split <;> simp

variable [MaybeBool M]

namespace Daemon

/-- References have been taken for nothing but the calls in the queue. -/
def Balanced (d : Daemon M V) : Prop :=
  ∀ handle, references.balance d.log handle = held d.queue handle

/-- A call that is queued gets the references it will hold. -/
theorem balance_queued (waiting : Bool) (object invocation : Nat) (data : GVariantWrapper V)
    (handle : Handle) :
    references.balance (if waiting then
        [.referenced (.object object), .referenced (.invocation invocation)] else
        ([] : List (Entry V))) handle =
      held (if waiting then [⟨object, invocation, data⟩] else []) handle := by
  cases waiting with
  | false => rfl
  | true => cases handle <;> simp [Entry.change, Pending.holds, eq_comm]

theorem Balanced.requested {d : Daemon M V} (h : d.Balanced) (object : Nat) (sourceId : String)
    (data : GVariantWrapper V) (a : Activation) (switch : Switch V) (es : List (BusEntry V)) :
    (d.next.requested object d.served sourceId data a switch es).Balanced := by
  intro handle
  have hkept := held_dropped_kept a.deselectedResult d.queue handle
  have hbefore := h handle
  have hqueued := balance_queued (waits d.next.data.applianceState.enableAllowed a.result) object
    d.served data handle
  rw [queue_requested]
  simp only [Daemon.requested, next_log, Ledger.balance_append, balance_map_bus,
    balance_map_replied, balance_map_emitted, balance_answers, held_append, hqueued]
  simp only [Daemon.queue, next_data] at hkept hbefore ⊢
  omega

theorem Balanced.step {d d' : Daemon M V} {e : Event V} (h : d.Balanced)
    (hstep : Steps d e d') : d'.Balanced := by
  cases hstep with
  | answered =>
      intro handle
      simpa [Entry.change] using h handle
  | creating | noCreation => exact h
  | playerRegistered =>
      intro handle
      simpa [Daemon.playerRegistered, Entry.change] using h handle
  | sourceRegistered =>
      intro handle
      simp only [Daemon.sourceRegistered]
      split <;> simpa [Entry.change] using h handle
  | requested => exact h.requested _ _ _ _ _ _
  | @released object deactivatePlayer data outcomes r switch es =>
      intro handle
      have hkept := held_dropped_kept r.deselectedResult d.queue handle
      have hbefore := h handle
      have htold : references.balance (if r.result = .unchanged then []
          else [.emitted object (.pathActivated "" (r.playerId.getD "") data)]) handle = 0 := by
        split <;> simp [Entry.change]
      rw [queue_released]
      simp only [Daemon.released, next_log, Ledger.balance_append, balance_map_bus,
        balance_answers, htold]
      simp only [Daemon.queue, next_data] at hkept hbefore ⊢
      simp [Entry.change]
      omega
  | @completed audioState powerState outcomes order appliance suspended result =>
      intro handle
      have hbefore := h handle
      rw [queue_completed]
      simp only [Daemon.completed, next_log, Ledger.balance_append, balance_map_bus]
      cases result <;> simp [completionEntries, Entry.change, hbefore]
  | @canceled audioState powerState outcomes order appliance sourceId result =>
      intro handle
      have hbefore := h handle
      rw [queue_canceled]
      simp only [Daemon.canceled, next_log, Ledger.balance_append, balance_map_bus]
      split <;> simp [Entry.change, hbefore]
  | postponed =>
      intro handle
      simpa [Daemon.postponed, Daemon.withAppliance, Entry.change] using h handle

theorem balanced_of_reachable {d : Daemon M V} (h : (system M V).Reachable d) : d.Balanced := by
  refine System.reachable_induction (P := Balanced) (fun _ => rfl) ?_ h
  intro d e d' hreach ih hstep
  exact ih.step (steps_of_step hreach hstep)

/-- However long the queue is and whoever is in it: completing all calls answers each of
them once and in order, then runs the callback, and then tells each object once unless
signals are suppressed; failing all calls answers them and tells nobody.  The references
the queue has held are released, nothing is used after that, and in every reachable state
the queue holds all references there are. -/
theorem queue_drained :
    (∀ (order : IterationOrder V) (sourceId : String) (success suppress haveSwitched : Bool)
      (errorCode : GDBusError) (errorMessage : Option String)
      (after : Option (HandlerM M V Unit)) (d : Daemon M V),
      ∃ (answering : List (Entry V)) (telling : String → List (Entry V)),
        (completeAllPendingCalls order sourceId success suppress haveSwitched errorCode
            errorMessage after).run d =
          (match (after.getD (pure ())).run { d with log := d.log ++ answering } with
          | .ok _ d' => .ok ()
              { d' with
                data := { d'.data with pendingAudioSourceActivations := [] }
                log := d'.log ++ telling d'.data.audioPathSwitch.currentPlayerId }
          | .error fault d' => .error fault d') ∧
        ∀ playerId, Drains d.queue
          (queueReply d.data.audioPathSwitch.currentPlayerId haveSwitched errorCode errorMessage)
          suppress (if success then sourceId else "") playerId answering (telling playerId)) ∧
    (∀ (message : String) (d : Daemon M V), ∃ answering : List (Entry V),
      (failAllPendingCalls message).run d =
        .ok ()
          { d with
            data := { d.data with pendingAudioSourceActivations := [] }
            log := d.log ++ answering } ∧
      Drains d.queue (.error .failed message) true "" "" answering []) ∧
    ∀ d : Daemon M V, (system M V).Reachable d →
      ∀ handle, references.balance d.log handle = held d.queue handle := by
  refine ⟨?_, ?_, fun d hreach => balanced_of_reachable hreach⟩
  · intro order sourceId success suppress haveSwitched errorCode errorMessage after d
    exact ⟨_, _, completeAllPendingCalls_run order sourceId success suppress haveSwitched
      errorCode errorMessage after d, fun playerId => drains_completed order _ suppress d.queue
        _ playerId⟩
  · intro message d
    exact ⟨_, failAllPendingCalls_run message d, drains_failed _ d.queue "" ""⟩

/-- The call that waits holds the only reference to its invocation. -/
theorem queue_drained_deferred : ∃ d : Daemon (Option Bool) Unit,
    (system (Option Bool) Unit).Run deferralEvents d ∧
      references.balance d.log (.invocation 5) = 1 := by
  obtain ⟨d, hrun, hqueue, -⟩ := exists_deferred
  have hbalance := queue_drained.2.2 d hrun.reachable (.invocation 5)
  rw [hqueue] at hbalance
  exact ⟨d, hrun, hbalance⟩

end Daemon

end TapSwitch
