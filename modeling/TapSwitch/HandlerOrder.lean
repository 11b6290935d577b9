import TapSwitch.Draining
import TapSwitch.Library.Refinement
import TapSwitch.Readiness

set_option autoImplicit false

/-!
# The order in which things happen

A handler first calls players and sources, then it answers, then it emits its signals.
Only the order of the signals that end a pending activation is left open, because the
objects to be told are kept in an unordered map.  This file proves the first, and that
the second makes no difference to anybody.
-/

namespace TapSwitch

open Library

variable {M V : Type}

/-! ## One handler -/

/-- The method called. -/
def BusEntry.method? : BusEntry V → Option Method
  | .called call _ => some call.method
  | _ => none

/-- The methods called, in order. -/
def methods (es : List (BusEntry V)) : List Method := es.filterMap BusEntry.method?

@[simp] theorem methods_nil : methods ([] : List (BusEntry V)) = [] := rfl

@[simp] theorem methods_append (es fs : List (BusEntry V)) :
    methods (es ++ fs) = methods es ++ methods fs := List.filterMap_append

@[simp] theorem methods_called (call : Call V) (ok : Bool) :
    methods [.called call ok] = [call.method] := rfl

section Methods

variable {outcomes : Outcomes} {paths : Paths} {sw sw' : Switch V} {data : GVariantWrapper V}
  {es : List (BusEntry V)}

theorem Deselects.methods {d : DeselectedAudioSourceResult}
    (h : Deselects outcomes paths sw data d es) : (methods es).Sublist [.deselected] := by
  cases h with
  | nothing => exact List.nil_sublist _
  | active | pending => exact .refl _

theorem Deactivates.methods {playerId : String} (h : Deactivates outcomes paths data playerId es) :
    (methods es).Sublist [.deactivate] := by
  cases h with
  | nothing => exact List.nil_sublist _
  | player => exact .refl _

theorem SwitchesTo.methods {player : Player} (h : SwitchesTo outcomes paths sw data player es) :
    (methods es).Sublist [.deactivate, .activate] := by
  cases h with
  | same => exact List.nil_sublist _
  | changed _ hf =>
      rw [methods_append, methods_called]
      exact hf.methods.append (.refl [Method.activate])

/-- What may be called for a request, in this order. -/
def requestMethods (now : Bool) : List Method :=
  [.deselected, .deactivate, .activate, selectMethod now]

theorem Activates.methods {sourceId : String} {now : Bool} {a : Activation}
    (h : Activates outcomes paths sw data sourceId now a sw' es) :
    (methods es).Sublist (requestMethods now) := by
  cases h with
  | rejected | unchanged | alreadyPending => exact List.nil_sublist _
  | playerFailed _ _ _ hd hf =>
      rw [methods_append, methods_append, methods_called]
      have hcalls := (hd.methods.append hf.methods).append (.refl [Method.activate])
      exact hcalls.trans (List.sublist_append_left _ [selectMethod now])
  | sourceFailed _ _ hd hs | switched _ _ hd hs =>
      rw [methods_append, methods_append, methods_called]
      exact (hd.methods.append hs.methods).append (.refl [selectMethod now])

theorem ActivationCrashes.methods {sourceId : String} (now : Bool)
    (h : ActivationCrashes outcomes paths sw data sourceId es) :
    (methods es).Sublist (requestMethods now) := by
  have hbefore : (TapSwitch.methods es).Sublist [.deselected, .deactivate, .activate] := by
    cases h with
    | deselecting => exact List.nil_sublist _
    | deactivating hd =>
        exact hd.methods.trans (List.sublist_append_left _ [Method.deactivate, .activate])
    | activating _ hd hf =>
        rw [methods_append]
        exact (hd.methods.append hf.methods).trans (List.sublist_append_left _ [Method.activate])
    | selecting _ hd hs =>
        rw [methods_append]
        exact hd.methods.append hs.methods
  exact hbefore.trans (List.sublist_append_left _ [selectMethod now])

theorem Completes.methods {r : ActivateResult} (h : Completes outcomes paths sw r sw' es) :
    (methods es).Sublist [.selected] := by
  cases h with
  | nothingPending => exact List.nil_sublist _
  | sourceFailed | selected => exact .refl _

theorem Cancels.methods {r : ActivateResult} (h : Cancels outcomes paths sw r sw' es) :
    (methods es).Sublist [.deselected] := by
  cases h with
  | nothingPending => exact List.nil_sublist _
  | canceled => exact .refl _

theorem Releases.methods {killPlayer : Bool} {r : Release}
    (h : Releases outcomes paths sw data killPlayer r sw' es) :
    (methods es).Sublist [.deselected, .deactivate] := by
  cases h with
  | kept hd => exact hd.methods.trans (by decide)
  | killed hd hf =>
      rw [methods_append]
      exact hd.methods.append hf.methods

theorem ReleaseCrashes.methods (h : ReleaseCrashes outcomes paths sw data es) :
    (methods es).Sublist [.deselected, .deactivate] := by
  cases h with
  | deselecting => exact List.nil_sublist _
  | deactivating hd => exact hd.methods.trans (by decide)

end Methods

/-- The entry belongs to answering. -/
def Entry.Answers : Entry V → Prop
  | .replied .. | .referenced _ | .unreferenced _ => True
  | _ => False

/-- The entry belongs to telling everybody. -/
def Entry.Tells : Entry V → Prop
  | .emitted .. | .unreferenced _ => True
  | _ => False

/-- Calls come first, then the replies.  The calls are some of `allowed`, in that order. -/
def CallsThenAnswers (allowed : List Method) (entries : List (Entry V)) : Prop :=
  ∃ calls answering, entries = calls.map .bus ++ answering ∧ (methods calls).Sublist allowed ∧
    ∀ e ∈ answering, e.Answers

/-- The signals come last. -/
def InPhases (allowed : List Method) (entries : List (Entry V)) : Prop :=
  ∃ before telling, entries = before ++ telling ∧ CallsThenAnswers allowed before ∧
    ∀ e ∈ telling, e.Tells

section Phases

theorem answers_answerEntries (reply : Reply) (suppress : Bool) (objects : ManagerObjects V)
    (queue : List (Pending V)) :
    ∀ e ∈ answerEntries reply suppress objects queue, e.Answers := by
  induction queue generalizing objects with
  | nil => simp [answerEntries]
  | cons p rest ih =>
      rw [answerEntries, List.forall_mem_append]
      refine ⟨?_, ih _⟩
      unfold answerEntry
      split <;> simp [Entry.Answers]

theorem tells_activatedEntries (order : IterationOrder V) (objects : ManagerObjects V)
    (sourceId playerId : String) :
    ∀ e ∈ activatedEntries order objects sourceId playerId, e.Tells := by
  intro e hmem
  obtain ⟨m, -, he⟩ := List.mem_flatMap.mp hmem
  rw [List.mem_cons, List.mem_singleton] at he
  rcases he with rfl | rfl <;> trivial

variable {allowed : List Method} {entries more : List (Entry V)}

/-- Nothing but calls. -/
theorem callsThenAnswers_calls {es : List (BusEntry V)} (h : (methods es).Sublist allowed) :
    CallsThenAnswers allowed (es.map .bus) :=
  ⟨es, [], (List.append_nil _).symm, h, by simp⟩

theorem CallsThenAnswers.nil : CallsThenAnswers allowed ([] : List (Entry V)) :=
  ⟨[], [], rfl, List.nil_sublist allowed, by simp⟩

theorem CallsThenAnswers.answering (h : CallsThenAnswers allowed entries)
    (hmore : ∀ e ∈ more, e.Answers) : CallsThenAnswers allowed (entries ++ more) := by
  obtain ⟨calls, answering, rfl, hcalls, hanswers⟩ := h
  exact ⟨calls, answering ++ more, List.append_assoc .., hcalls,
    List.forall_mem_append.mpr ⟨hanswers, hmore⟩⟩

theorem CallsThenAnswers.telling (h : CallsThenAnswers allowed entries)
    (hmore : ∀ e ∈ more, e.Tells) : InPhases allowed (entries ++ more) :=
  ⟨entries, more, rfl, h, hmore⟩

theorem CallsThenAnswers.inPhases (h : CallsThenAnswers allowed entries) :
    InPhases allowed entries :=
  ⟨entries, [], (List.append_nil _).symm, h, by simp⟩

/-- Draining the queue is answering and telling. -/
theorem CallsThenAnswers.draining (h : CallsThenAnswers allowed entries)
    (order : IterationOrder V) (reply : Reply) (suppress : Bool) (queue : List (Pending V))
    (hmore : ∀ e ∈ more, e.Answers) (sourceId playerId : String) :
    InPhases allowed
      (entries ++ drainEntries order reply suppress queue more sourceId playerId) := by
  unfold drainEntries
  rw [← List.append_assoc, ← List.append_assoc]
  exact ((h.answering (answers_answerEntries _ _ _ _)).answering hmore).telling
    (tells_activatedEntries _ _ _ _)

/-- Nobody is told anything if the signals are suppressed. -/
theorem answers_suppressed (order : IterationOrder V) (reply : Reply) (queue : List (Pending V))
    (sourceId playerId : String) :
    ∀ e ∈ drainEntries order reply true queue [] sourceId playerId, e.Answers := by
  unfold drainEntries
  rw [collected_suppressed, activatedEntries, IterationOrder.arrange_nil, List.flatMap_nil,
    List.append_nil, List.append_nil]
  exact answers_answerEntries _ _ _ _

variable [MaybeBool M] {d d' : Daemon M V} {e : Event V}

/-- The methods that the handler of an event may call. -/
def Daemon.mayCall (d : Daemon M V) : Event V → List Method
  | .requestSource .. => requestMethods d.data.applianceState.enableAllowed
  | .releasePath .. => [.deselected, .deactivate]
  | .setReadyState audioState powerState _ _ =>
      if (readAppliance d.data.applianceState audioState powerState).1.enableAllowed then
        [.selected]
      else [.deselected]
  | _ => []

theorem answers_replied {invocation : Nat} {reply : Reply} :
    ∀ e ∈ ([.replied invocation reply] : List (Entry V)), e.Answers := by
  simp [Entry.Answers]

theorem Steps.inPhases (hsw : Consistent d.data.audioPaths d.data.audioPathSwitch)
    (h : Steps d e d') :
    ∃ entries, d'.log = d.log ++ entries ∧ InPhases (d.mayCall e) entries := by
  cases h with
  | answered => exact ⟨_, rfl, (CallsThenAnswers.nil.answering answers_replied).inPhases⟩
  | creating | noCreation => exact ⟨[], (List.append_nil _).symm, CallsThenAnswers.nil.inPhases⟩
  | playerRegistered =>
      refine ⟨_, rfl, (CallsThenAnswers.nil.answering answers_replied).telling ?_⟩
      simp [Entry.Tells]
  | sourceRegistered =>
      refine ⟨_, rfl, ?_⟩
      rw [← List.singleton_append]
      refine (CallsThenAnswers.nil.answering answers_replied).telling ?_
      split <;> simp [Entry.Tells]
  | requested _ ha =>
      refine ⟨_, rfl, ((((callsThenAnswers_calls ha.methods).answering ?_).answering
        (answers_answerEntries _ _ _ _)).answering ?_).telling ?_⟩
      · simp [Entry.Answers]
      · split <;> simp [Entry.Answers]
      · simp [Entry.Tells]
  | released _ hr =>
      refine ⟨_, rfl, (((callsThenAnswers_calls hr.methods).answering
        (answers_answerEntries _ _ _ _)).answering answers_replied).telling ?_⟩
      split <;> simp [Entry.Tells]
  | completed hread hallowed _ hc =>
      have hcalls := hc.methods
      simp only [Daemon.mayCall, hread, hallowed, if_true]
      refine ⟨_, rfl, ?_⟩
      cases hc with
      | nothingPending => exact ((callsThenAnswers_calls hcalls).answering answers_replied).inPhases
      | sourceFailed => exact (callsThenAnswers_calls hcalls).draining _ _ _ _ (by simp) _ _
      | selected hpending =>
          rcases hsw.phaseOne hpending with hphase | hphase
          all_goals
            rw [hphase]
            exact (callsThenAnswers_calls hcalls).draining _ _ _ _ answers_replied _ _
  | canceled hread hallowed _ hc =>
      simp only [Daemon.mayCall, hread, hallowed]
      refine ⟨_, rfl, (((callsThenAnswers_calls hc.methods).answering ?_).answering
        answers_replied).inPhases⟩
      split
      · simp
      · exact answers_suppressed _ _ _ _ _
  | postponed hread hallowed =>
      exact ⟨_, rfl, (CallsThenAnswers.nil.answering answers_replied).inPhases⟩

theorem Daemon.Leaves.inPhases (h : d.Leaves e d') :
    ∃ entries, d'.log = d.log ++ entries ∧ InPhases (d.mayCall e) entries := by
  cases h with
  | requesting hc => exact ⟨_, rfl, (callsThenAnswers_calls (hc.methods _)).inPhases⟩
  | releasing hc => exact ⟨_, rfl, (callsThenAnswers_calls hc.methods).inPhases⟩
  | readying => exact ⟨_, rfl, CallsThenAnswers.nil.inPhases⟩
  | asking => exact ⟨[], (List.append_nil _).symm, CallsThenAnswers.nil.inPhases⟩

/-- Whatever a daemon in operation handles, and also if it crashes on it: the calls come
first, then the replies, then the signals.  A request calls at most `Deselected`,
`Deactivate`, `Activate` and `Selected` or `SelectedOnHold`, each once and in this order; a
release at most the first two; the ready state at most `Selected` or `Deselected`; and
nothing else calls anybody. -/
theorem Daemon.handler_order (h : (Daemon.system M V).Reachable d) (e : Event V) :
    ∃ entries, (d.afterwards e).log = d.log ++ entries ∧ InPhases (d.mayCall e) entries := by
  have hsw := Daemon.consistent_of_reachable h
  rcases Daemon.steps_or_leaves hsw e with hsteps | hleaves
  · exact hsteps.inPhases hsw
  · exact hleaves.inPhases

/-- Another source is requested while one is pending. -/
theorem Daemon.handler_order_deferred : ∃ d : Daemon (Option Bool) Unit,
    (Daemon.system (Option Bool) Unit).Run deferralEvents d ∧
      ∃ entries, (d.afterwards (.requestSource 0 "other" none fun _ => true)).log =
        d.log ++ entries ∧
        InPhases [.deselected, .deactivate, .activate, .selectedOnHold] entries := by
  obtain ⟨d, hrun, -, hpending, -⟩ := exists_deferred
  have hallowed : d.data.applianceState.enableAllowed = false :=
    (Daemon.inStep_of_reachable hrun.reachable).gate (by rw [hpending]; decide)
  have horder := Daemon.handler_order hrun.reachable (.requestSource 0 "other" none fun _ => true)
  simp only [Daemon.mayCall, hallowed] at horder
  exact ⟨d, hrun, horder⟩

end Phases

/-! ## Handlers do not look back -/

/-- The daemon with a longer past. -/
def Daemon.recalling (past : List (Entry V)) (d : Daemon M V) : Daemon M V :=
  { d with log := past ++ d.log }

/-- The result of a handler, with a longer past. -/
def resultRecalling {α : Type} (past : List (Entry V)) :
    EStateM.Result Fault (Daemon M V) α → EStateM.Result Fault (Daemon M V) α
  | .ok a d => .ok a (d.recalling past)
  | .error fault d => .error fault (d.recalling past)

/-- What has been logged before makes no difference. -/
def Oblivious {α : Type} (x : HandlerM M V α) : Prop :=
  ∀ past d, x.run (d.recalling past) = resultRecalling past (x.run d)

section Oblivious

variable {α β : Type}

theorem oblivious_pure (a : α) : Oblivious (pure a : HandlerM M V α) := fun _ _ => rfl

theorem oblivious_deref (fault : Fault) (a : Option α) :
    Oblivious (deref fault a : HandlerM M V α) := by
  intro past d
  cases a <;> rfl

theorem Oblivious.bind {x : HandlerM M V α} {f : α → HandlerM M V β} (hx : Oblivious x)
    (hf : ∀ a, Oblivious (f a)) : Oblivious (x >>= f) := by
  intro past d
  rw [EStateM.run_bind, EStateM.run_bind, hx past d]
  cases x.run d with
  | ok a d' => exact hf a past d'
  | error fault d' => rfl

/-- The state may be read as long as the log is not. -/
theorem oblivious_get {f : Daemon M V → HandlerM M V β}
    (hf : ∀ past d, f (d.recalling past) = f d) (h : ∀ d, Oblivious (f d)) :
    Oblivious (get >>= f) := by
  intro past d
  rw [EStateM.run_bind, EStateM.run_bind, EStateM.run_get, EStateM.run_get]
  simp only [hf past d]
  exact h d past d

theorem oblivious_write (entries : List (Entry V)) :
    Oblivious (write entries : HandlerM M V Unit) := by
  intro past d
  simp [Daemon.recalling, resultRecalling]

theorem oblivious_modify {f : Daemon M V → Daemon M V}
    (h : ∀ past d, f (d.recalling past) = (f d).recalling past) :
    Oblivious (modify f : HandlerM M V Unit) := by
  intro past d
  simp [resultRecalling, h past d]

theorem oblivious_complete (invocation : Nat) (reply : Reply) :
    Oblivious (complete invocation reply : HandlerM M V Unit) := oblivious_write _

theorem oblivious_returnError (invocation : Nat) (code : GDBusError) (message : String) :
    Oblivious (returnError invocation code message : HandlerM M V Unit) := oblivious_write _

theorem oblivious_mkProxyDone (creation : Creation) (success : Bool) :
    Oblivious (mkProxyDone creation success : HandlerM M V Unit) := by
  intro past d
  cases creation with
  | player object invocation playerId playerName dest path =>
      simp [mkProxyDone, registerPlayerBottomHalf_run, resultRecalling, Daemon.recalling,
        Daemon.playerRegistered]
  | source object invocation sourceId sourceName playerId dest path =>
      simp [mkProxyDone, registerSourceBottomHalf_run, resultRecalling, Daemon.recalling,
        Daemon.sourceRegistered]

theorem oblivious_proxyDone (index : Nat) (success : Bool) :
    Oblivious (proxyDone index success : HandlerM M V Unit) := by
  refine oblivious_get (fun _ _ => rfl) fun d => ?_
  split
  · exact oblivious_pure ()
  · exact (oblivious_modify fun _ _ => rfl).bind fun _ => oblivious_mkProxyDone _ _

variable [MaybeBool M]

theorem oblivious_query (q : Query) (invocation : Nat) :
    Oblivious (q.handler invocation : HandlerM M V Unit) := by
  cases q with
  | activePlayer sourceId =>
      refine oblivious_get (fun _ _ => rfl) fun d => ?_
      dsimp only
      split
      · exact oblivious_complete _ _
      · exact oblivious_complete _ _
  | paths | currentPath | applianceState =>
      exact oblivious_get (fun _ _ => rfl) fun d => oblivious_complete _ _
  | playerInfo playerId =>
      refine oblivious_get (fun _ _ => rfl) fun d => ?_
      split
      · exact oblivious_returnError _ _ _
      · exact (oblivious_deref _ _).bind fun proxy => oblivious_complete _ _
  | sourceInfo sourceId =>
      refine oblivious_get (fun _ _ => rfl) fun d => ?_
      split
      · exact oblivious_returnError _ _ _
      · exact (oblivious_deref _ _).bind fun proxy => oblivious_complete _ _

/-- Registrations and queries do not look at the log. -/
theorem oblivious_passive {e : Event V} (h : e.Passive) (invocation : Nat) :
    Oblivious (e.handler invocation : HandlerM M V Unit) := by
  cases e with
  | proxyDone | requestSource | releasePath | setReadyState => exact h.elim
  | registerPlayer object playerId playerName path dest =>
      simp only [Event.handler, registerPlayer]
      split
      · exact oblivious_returnError _ _ _
      · exact oblivious_modify fun _ _ => rfl
  | registerSource object sourceId sourceName playerId path dest =>
      simp only [Event.handler, registerSource]
      split
      · exact oblivious_returnError _ _ _
      · exact oblivious_modify fun _ _ => rfl
  | query q => exact oblivious_query q invocation

end Oblivious

/-! ## Objects that are told -/

/-- The signals emitted through the object, in order. -/
def toldTo (object : Nat) (log : List (Entry V)) : List (Signal V) :=
  log.filterMap fun entry => match entry with
    | .emitted o signal => if o = object then some signal else none
    | _ => none

/-- Two logs that nobody can tell apart: the calls, the replies and what each object is
told come in the same order. -/
structure SameForAll (log log' : List (Entry V)) : Prop where
  perm : log'.Perm log
  bus : busLog log' = busLog log
  replies : replies log' = replies log
  told : ∀ object, toldTo object log' = toldTo object log

theorem toldTo_append (object : Nat) (log more : List (Entry V)) :
    toldTo object (log ++ more) = toldTo object log ++ toldTo object more :=
  List.filterMap_append

theorem SameForAll.refl (log : List (Entry V)) : SameForAll log log :=
  ⟨.refl _, rfl, rfl, fun _ => rfl⟩

theorem SameForAll.append {log log' more more' : List (Entry V)} (h : SameForAll log log')
    (hmore : SameForAll more more') : SameForAll (log ++ more) (log' ++ more') where
  perm := h.perm.append hmore.perm
  bus := by rw [busLog_append, busLog_append, h.bus, hmore.bus]
  replies := by rw [replies_append, replies_append, h.replies, hmore.replies]
  told object := by rw [toldTo_append, toldTo_append, h.told, hmore.told]

/-- An object is in the map at most once. -/
theorem filter_eq_of_perm {objects objects' : ManagerObjects V} (hperm : objects'.Perm objects)
    (hnodup : (objects.map Prod.fst).Nodup) (object : Nat) :
    objects'.filter (fun m => m.1 = object) = objects.filter (fun m => m.1 = object) := by
  have hfilter := hperm.filter fun m => m.1 = object
  have hsingle := hnodup.sublist ((List.filter_sublist (p := fun m => m.1 = object)).map _)
  have hkey : ∀ m ∈ objects.filter (fun m => m.1 = object), m.1 = object := by simp
  match h : objects.filter fun m => m.1 = object with
  | [] =>
      rw [h] at hfilter ⊢
      exact hfilter.eq_nil
  | [m] =>
      rw [h] at hfilter ⊢
      exact hfilter.eq_singleton
  | m :: m' :: rest =>
      rw [h] at hsingle hkey
      have hsame : m.1 = m'.1 := by
        rw [hkey m (by simp), hkey m' (by simp)]
      simp [hsame] at hsingle

theorem toldTo_activatedEntries (order : IterationOrder V) (objects : ManagerObjects V)
    (sourceId playerId : String) (object : Nat) :
    toldTo object (activatedEntries order objects sourceId playerId) =
      ((order.arrange objects).filter fun m => m.1 = object).map fun m =>
        .pathActivated sourceId playerId m.2 := by
  unfold activatedEntries
  induction order.arrange objects with
  | nil => rfl
  | cons m rest ih =>
      rw [List.flatMap_cons, toldTo_append, ih, List.filter_cons]
      by_cases hm : m.1 = object <;> simp [toldTo, hm]

theorem sameForAll_activatedEntries (order order' : IterationOrder V) (suppress : Bool)
    (queue : List (Pending V)) (sourceId playerId : String) :
    SameForAll (activatedEntries order (collected suppress queue) sourceId playerId)
      (activatedEntries order' (collected suppress queue) sourceId playerId) where
  perm := by
    unfold activatedEntries
    exact ((order'.perm _).trans (order.perm _).symm).flatMap_right _
  bus := by rw [busLog_activatedEntries, busLog_activatedEntries]
  replies := by rw [replies_activatedEntries, replies_activatedEntries]
  told object := by
    have hnodup := collected_nodup suppress queue
    rw [toldTo_activatedEntries, toldTo_activatedEntries,
      filter_eq_of_perm (order.perm _) hnodup, filter_eq_of_perm (order'.perm _) hnodup]

theorem sameForAll_drainEntries (order order' : IterationOrder V) (reply : Reply)
    (suppress : Bool) (queue : List (Pending V)) (after : List (Entry V))
    (sourceId playerId : String) :
    SameForAll (drainEntries order reply suppress queue after sourceId playerId)
      (drainEntries order' reply suppress queue after sourceId playerId) :=
  (SameForAll.refl _).append (sameForAll_activatedEntries order order' suppress queue sourceId
    playerId)

theorem sameForAll_completionEntries (order order' : IterationOrder V) (invocation : Nat)
    (queue : List (Pending V)) (sourceId playerId : String) (result : ActivateResult) :
    SameForAll (completionEntries order invocation queue sourceId playerId result)
      (completionEntries order' invocation queue sourceId playerId result) := by
  cases result with
  | errorSourceUnknown => exact .refl _
  | errorSourceFailed => exact sameForAll_drainEntries _ _ _ _ _ _ _ _
  | errorPlayerUnknown | errorPlayerFailed | okUnchanged | okPlayerSame
  | okPlayerSameSourceDeferred | okPlayerSwitched | okPlayerSwitchedSourceDeferred =>
      exact sameForAll_drainEntries _ _ _ _ _ _ _ _

/-! ## Iteration orders do not matter -/

/-- The same event, but for the order in which the objects are told. -/
inductive Event.Alike : Event V → Event V → Prop where
  | same (e : Event V) : Alike e e
  | ready (audioState powerState : UInt8) (outcomes : Outcomes) (order order' : IterationOrder V) :
      Alike (.setReadyState audioState powerState outcomes order)
        (.setReadyState audioState powerState outcomes order')

/-- The same daemon, but for what nobody can see in its log. -/
structure Daemon.Alike (d d' : Daemon M V) : Prop where
  data : d'.data = d.data
  creations : d'.creations = d.creations
  served : d'.served = d.served
  log : SameForAll d.log d'.log

section Alike

variable [MaybeBool M] {d d' : Daemon M V} {e e' : Event V}

/-- A handler that does not look at the log does the same wherever it starts. -/
theorem Oblivious.perform (h : Oblivious (e.handler d.served : HandlerM M V Unit))
    (hperform : d.perform e = .ok () d') (past : List (Entry V)) :
    ∃ new, d'.log = d.log ++ new ∧
      ({ d with log := past } : Daemon M V).perform e = .ok () { d' with log := past ++ new } := by
  have hbefore := h d.log { d.next with log := [] }
  have hhere : ({ d.next with log := [] } : Daemon M V).recalling d.log = d.next := by
    simp [Daemon.recalling, Daemon.next]
  rw [hhere] at hbefore
  cases hrun : (e.handler d.served).run ({ d.next with log := [] } : Daemon M V) with
  | error fault mid =>
      rw [hrun] at hbefore
      cases hperform.symm.trans hbefore
  | ok a mid =>
      rw [hrun] at hbefore
      have hresult := hperform.symm.trans hbefore
      rw [resultRecalling, EStateM.Result.ok.injEq] at hresult
      refine ⟨mid.log, by rw [hresult.2]; rfl, ?_⟩
      have hthere := h past { d.next with log := [] }
      rw [hrun] at hthere
      rw [hresult.2]
      refine Eq.trans ?_ hthere
      simp [Daemon.perform, Daemon.recalling, Daemon.next]

/-- The daemon `d'` with another past, after `e'` instead of `e`. -/
def Follows (d d' : Daemon M V) (e' : Event V) : Prop :=
  ∀ past, ∃ new new', d'.log = d.log ++ new ∧ SameForAll new new' ∧
    ({ d with log := past } : Daemon M V).perform e' = .ok () { d' with log := past ++ new' }

theorem Oblivious.follows (h : Oblivious (e.handler d.served : HandlerM M V Unit))
    (hperform : d.perform e = .ok () d') : Follows d d' e := by
  intro past
  obtain ⟨new, hlog, hthere⟩ := h.perform hperform past
  exact ⟨new, new, hlog, .refl new, hthere⟩

theorem follows_setReadyState (hsw : Consistent d.data.audioPaths d.data.audioPathSwitch)
    {audioState powerState : UInt8} {outcomes : Outcomes} {order : IterationOrder V}
    (hsteps : Steps d (.setReadyState audioState powerState outcomes order) d')
    (order' : IterationOrder V) :
    Follows d d' (.setReadyState audioState powerState outcomes order') := by
  intro past
  cases hsteps with
  | answered hpassive => exact hpassive.elim
  | creating hcreation => cases hcreation
  | completed hread hallowed hrun hc =>
      refine ⟨_, _, rfl, ?_, setReadyState_completed (d := { d.next with log := past })
        hread hallowed hsw hc hrun⟩
      exact (SameForAll.refl _).append (sameForAll_completionEntries order order' ..)
  | canceled hread hallowed hrun hc =>
      refine ⟨_, _, rfl, ?_, setReadyState_canceled (d := { d.next with log := past })
        hread hallowed hc hrun⟩
      refine ((SameForAll.refl _).append ?_).append (.refl _)
      split
      · exact .refl _
      · exact sameForAll_drainEntries order order' ..
  | postponed hread hallowed =>
      exact ⟨_, _, rfl, .refl _, setReadyState_postponed (d := { d.next with log := past })
        hread hallowed⟩

/-- What happens in alike daemons on alike events. -/
theorem Event.Alike.follows (hsw : Consistent d.data.audioPaths d.data.audioPathSwitch)
    (halike : e.Alike e') (hsteps : Steps d e d') (hperform : d.perform e = .ok () d') :
    Follows d d' e' := by
  cases halike with
  | ready => exact follows_setReadyState hsw hsteps _
  | same e =>
      cases e with
      | registerPlayer | registerSource | query =>
          refine Oblivious.follows ?_ hperform
          exact oblivious_passive (by exact trivial) _
      | proxyDone =>
          refine Oblivious.follows ?_ hperform
          exact oblivious_proxyDone _ _
      | setReadyState => exact follows_setReadyState hsw hsteps _
      | requestSource =>
          intro past
          cases hsteps with
          | answered hpassive => exact hpassive.elim
          | creating hcreation => cases hcreation
          | requested hrun ha =>
              exact ⟨_, _, rfl, .refl _, requestSource_run (d := { d.next with log := past }) hrun
                (Daemon.playerId_of_isOk ha)⟩
      | releasePath =>
          intro past
          cases hsteps with
          | answered hpassive => exact hpassive.elim
          | creating hcreation => cases hcreation
          | released hrun hr =>
              exact ⟨_, _, rfl, .refl _,
                releasePathHandler_run (d := { d.next with log := past }) hrun⟩

theorem Daemon.Alike.step {f : Daemon M V} (h : d.Alike f)
    (hreach : (Daemon.system M V).Reachable d)
    (hstep : (Daemon.system M V).step d e = some d') (halike : e.Alike e') :
    ∃ f', (Daemon.system M V).step f e' = some f' ∧ d'.Alike f' := by
  have hfollows := halike.follows (Daemon.consistent_of_reachable hreach)
    (Daemon.steps_of_step hreach hstep) (Daemon.step_eq_some.mp hstep)
  obtain ⟨new, new', hlog, hsame, hperform⟩ := hfollows f.log
  have hf : ({ d with log := f.log } : Daemon M V) = f := by
    obtain ⟨data, creations, log, served⟩ := f
    obtain ⟨rfl, rfl, rfl, -⟩ := h
    rfl
  rw [hf] at hperform
  refine ⟨_, Daemon.step_eq_some.mpr hperform, rfl, rfl, rfl, ?_⟩
  rw [hlog]
  exact h.log.append hsame

end Alike

namespace Daemon

variable [MaybeBool M] {d d' : Daemon M V}

theorem Alike.exec {evs evs' : List (Event V)} (hevs : List.Forall₂ Event.Alike evs evs')
    {f : Daemon M V} (h : d.Alike f) (hreach : (system M V).Reachable d)
    (hexec : (system M V).exec d evs = some d') :
    ∃ f', (system M V).exec f evs' = some f' ∧ d'.Alike f' := by
  induction hevs generalizing d f with
  | nil =>
      rw [System.exec_nil, Option.some.injEq] at hexec
      exact ⟨f, rfl, hexec ▸ h⟩
  | cons halike _ ih =>
      rw [System.exec_cons, Option.bind_eq_some_iff] at hexec
      obtain ⟨mid, hstep, hrest⟩ := hexec
      obtain ⟨mid', hstep', hmid⟩ := h.step hreach hstep halike
      rw [System.exec_cons_of_step hstep']
      exact ih hmid (hreach.step hstep) hrest

/-- Suppose two lists of events are the same except for the orders in which the objects to be
told are iterated over.  If one can be handled, so can the other, and both end with the same
data, the same creations, and the same calls and replies, and each object has been told the
same in the same order. -/
theorem iteration_order_irrelevant {evs evs' : List (Event V)}
    (hevs : List.Forall₂ Event.Alike evs evs') (h : (system M V).Run evs d) :
    ∃ d', (system M V).Run evs' d' ∧ d.Alike d' := by
  have hinit : (initial : Daemon M V).Alike initial := ⟨rfl, rfl, rfl, .refl _⟩
  obtain ⟨d', hexec, halike⟩ := hinit.exec hevs .init h.exec_eq
  exact ⟨d', System.run_of_exec hexec, halike⟩

/-- Iterating backwards. -/
def reversal : IterationOrder Unit where
  arrange := List.reverse
  perm := List.reverse_perm

/-- Two objects have asked for the source when it becomes ready. -/
def readyEvents (order : IterationOrder Unit) : List (Event Unit) :=
  deferralEvents ++ [.requestSource 1 "source" none fun _ => true,
    .setReadyState 2 2 (fun _ => true) order]

/-- The logs differ, but no object can tell. -/
theorem iteration_order_irrelevant_reversal : ∃ d d' : Daemon (Option Bool) Unit,
    (system (Option Bool) Unit).Run (readyEvents .insertion) d ∧
      (system (Option Bool) Unit).Run (readyEvents reversal) d' ∧
      d.Alike d' ∧ d.log ≠ d'.log := by
  have hexec : ((system (Option Bool) Unit).exec (system (Option Bool) Unit).init
      (readyEvents .insertion)).map (fun d => d.log.getLast?) =
      some (some (.unreferenced (.object 1))) := by decide +kernel
  have hexec' : ((system (Option Bool) Unit).exec (system (Option Bool) Unit).init
      (readyEvents reversal)).map (fun d => d.log.getLast?) =
      some (some (.unreferenced (.object 0))) := by decide +kernel
  obtain ⟨d, hrun, hlast⟩ := System.exists_run_of_exec hexec
  obtain ⟨f, hrun', hlast'⟩ := System.exists_run_of_exec hexec'
  have hevs : List.Forall₂ Event.Alike (readyEvents .insertion) (readyEvents reversal) := by
    refine List.rel_append (List.forall₂_same.mpr fun e _ => .same e) ?_
    exact .cons (.same _) (.cons (.ready ..) .nil)
  obtain ⟨d', hd', halike⟩ := iteration_order_irrelevant hevs hrun
  rw [hd'.functional hrun'] at halike
  refine ⟨d, f, hrun, hrun', halike, ?_⟩
  intro heq
  rw [heq, hlast'] at hlast
  cases hlast

end Daemon

end TapSwitch
