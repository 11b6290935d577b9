import TapSwitch.Library.Lifetime
import TapSwitch.CreationOrder
import TapSwitch.PlayerInstances
import TapSwitch.Readiness

set_option autoImplicit false

/-!
# The lifetimes of proxies

A proxy object is created when a registration is carried out, owned by the component
that is registered, and destroyed when another registration of that component replaces
it.  Calls go through the proxy that the registry has at that moment.  This file derives
that no proxy is used before it has been created or after it has been destroyed, that
none is destroyed twice, and that those which live are those in the registry.
-/

namespace TapSwitch

open Library

variable {M V : Type}

/-! ## Calls go through the registry -/

/-- The component that is called. -/
def Call.component (call : Call V) : Component :=
  match call.method with
  | .activate | .deactivate => .player call.id
  | .selected | .selectedOnHold | .deselected => .source call.id

/-- The proxy that is used. -/
def BusEntry.proxy? : BusEntry V → Option Proxy
  | .called call _ => some call.proxy
  | _ => none

/-- All calls go through the proxies in the registry. -/
def Through (paths : Paths) (es : List (BusEntry V)) : Prop :=
  ∀ call ok, .called call ok ∈ es → paths.proxyOf call.component = some (some call.proxy)

section Through

variable {outcomes : Outcomes} {paths : Paths} {sw sw' : Switch V} {data : GVariantWrapper V}
  {es fs : List (BusEntry V)} {sourceId : String} {source : Source} {player : Player}
  {proxy : Proxy}

theorem Through.nil : Through paths ([] : List (BusEntry V)) := by
  intro call ok hmem
  cases hmem

theorem Through.append (hes : Through paths es) (hfs : Through paths fs) :
    Through paths (es ++ fs) := by
  intro call ok hmem
  rcases List.mem_append.mp hmem with h | h
  · exact hes call ok h
  · exact hfs call ok h

theorem Through.call {call : Call V} {ok : Bool}
    (h : paths.proxyOf call.component = some (some call.proxy)) :
    Through paths [.called call ok] := by
  intro call' ok' hmem
  cases List.mem_singleton.mp hmem
  exact h

/-- Methods of a player. -/
theorem through_player {method : Method} {id : String} {ok : Bool}
    (hmethod : method = .activate ∨ method = .deactivate)
    (hlookup : paths.lookupPlayer id = some player) (hproxy : player.dbusProxy = some proxy) :
    Through paths [.called ⟨method, proxy, player.id, data⟩ ok] := by
  apply Through.call
  rw [Paths.id_of_lookupPlayer hlookup]
  rcases hmethod with rfl | rfl <;> simp [Call.component, Paths.proxyOf, hlookup, hproxy]

/-- Methods of a source. -/
theorem through_source {method : Method} {id : String} {ok : Bool}
    (hmethod : method ≠ .activate ∧ method ≠ .deactivate)
    (hlookup : paths.lookupSource id = some source) (hproxy : source.dbusProxy = some proxy) :
    Through paths [.called ⟨method, proxy, id, data⟩ ok] := by
  apply Through.call
  cases method with
  | activate => exact absurd rfl hmethod.1
  | deactivate => exact absurd rfl hmethod.2
  | selected | selectedOnHold | deselected =>
      simp [Call.component, Paths.proxyOf, hlookup, hproxy]

theorem Deselects.through {d : DeselectedAudioSourceResult}
    (h : Deselects outcomes paths sw data d es) : Through paths es := by
  cases h with
  | nothing => exact .nil
  | active _ hlookup hproxy | pending _ _ hlookup hproxy =>
      exact through_source (by simp) hlookup hproxy

theorem Deactivates.through {playerId : String}
    (h : Deactivates outcomes paths data playerId es) : Through paths es := by
  cases h with
  | nothing => exact .nil
  | player _ hlookup hproxy => exact through_player (.inr rfl) hlookup hproxy

theorem SwitchesTo.through (hlookup : paths.lookupPlayer player.id = some player)
    (h : SwitchesTo outcomes paths sw data player es) : Through paths es := by
  cases h with
  | same => exact .nil
  | changed _ hf hproxy => exact hf.through.append (through_player (.inl rfl) hlookup hproxy)

/-- Selecting the source of a path. -/
theorem through_select {now ok : Bool}
    (hpath : paths.lookupPath sourceId = (some source, some player))
    (hproxy : source.dbusProxy = some proxy) :
    Through paths [.called ⟨selectMethod now, proxy, source.id, data⟩ ok] := by
  have hlookup := (Paths.lookupPath_eq_some.mp hpath).1
  rw [← Paths.id_of_lookupSource hlookup] at hlookup
  exact through_source (by cases now <;> simp [selectMethod]) hlookup hproxy

theorem Activates.through {now : Bool} {a : Activation}
    (h : Activates outcomes paths sw data sourceId now a sw' es) : Through paths es := by
  cases h with
  | rejected | unchanged | alreadyPending => exact .nil
  | playerFailed _ hpath _ hd hf hproxy =>
      have hlookup := (Paths.lookupPath_eq_some.mp hpath).2
      exact (hd.through.append hf.through).append (through_player (.inl rfl) hlookup hproxy)
  | sourceFailed _ hpath hd hs hproxy | switched _ hpath hd hs hproxy =>
      exact (hd.through.append (hs.through (lookupPlayer_of_path hpath))).append
        (through_select hpath hproxy)

theorem ActivationCrashes.through (h : ActivationCrashes outcomes paths sw data sourceId es) :
    Through paths es := by
  cases h with
  | deselecting => exact .nil
  | deactivating hd => exact hd.through
  | activating _ hd hf => exact hd.through.append hf.through
  | selecting hpath hd hs => exact hd.through.append (hs.through (lookupPlayer_of_path hpath))

theorem Completes.through {r : ActivateResult} (h : Completes outcomes paths sw r sw' es) :
    Through paths es := by
  cases h with
  | nothingPending => exact .nil
  | sourceFailed _ hlookup hproxy | selected _ hlookup hproxy =>
      exact through_source (by simp) hlookup hproxy

theorem Cancels.through {r : ActivateResult} (h : Cancels outcomes paths sw r sw' es) :
    Through paths es := by
  cases h with
  | nothingPending => exact .nil
  | canceled _ hlookup hproxy => exact through_source (by simp) hlookup hproxy

theorem Releases.through {killPlayer : Bool} {r : Release}
    (h : Releases outcomes paths sw data killPlayer r sw' es) : Through paths es := by
  cases h with
  | kept hd => exact hd.through
  | killed hd hf => exact hd.through.append hf.through

theorem ReleaseCrashes.through (h : ReleaseCrashes outcomes paths sw data es) :
    Through paths es := by
  cases h with
  | deselecting => exact .nil
  | deactivating hd => exact hd.through

end Through

variable [MaybeBool M] {d d' : Daemon M V} {e : Event V}

/-- What is called while an event is handled. -/
def Daemon.sent (d : Daemon M V) (e : Event V) : List (BusEntry V) :=
  (busLog (d.afterwards e).log).drop (busLog d.log).length

theorem Steps.through (h : Steps d e d') :
    ∃ es, busLog d'.log = busLog d.log ++ es ∧ Through d.data.audioPaths es := by
  cases h with
  | answered | creating | noCreation | playerRegistered | sourceRegistered | postponed =>
      exact ⟨[], by simp, .nil⟩
  | requested _ ha => exact ⟨_, by simp, ha.through⟩
  | released _ hr => exact ⟨_, by simp, hr.through⟩
  | completed _ _ _ hc => exact ⟨_, by simp, hc.through⟩
  | canceled _ _ _ hc => exact ⟨_, by simp, hc.through⟩

theorem Daemon.Leaves.through (h : d.Leaves e d') :
    ∃ es, busLog d'.log = busLog d.log ++ es ∧ Through d.data.audioPaths es := by
  cases h with
  | requesting hc => exact ⟨_, by simp [Daemon.absorb], hc.through⟩
  | releasing hc => exact ⟨_, by simp [Daemon.absorb], hc.through⟩
  | readying => exact ⟨[], by simp [Daemon.absorb, Daemon.withAppliance], .nil⟩
  | asking => exact ⟨[], by simp, .nil⟩

/-- Whatever happens, calls go through the registry. -/
theorem Daemon.sent_through (h : Consistent d.data.audioPaths d.data.audioPathSwitch)
    (e : Event V) :
    busLog (d.afterwards e).log = busLog d.log ++ d.sent e ∧
      Through d.data.audioPaths (d.sent e) := by
  have hthrough : ∃ es, busLog (d.afterwards e).log = busLog d.log ++ es ∧
      Through d.data.audioPaths es := by
    rcases Daemon.steps_or_leaves h e with hsteps | hleaves
    · exact hsteps.through
    · exact hleaves.through
  obtain ⟨es, hlog, hes⟩ := hthrough
  have hsent : d.sent e = es := by rw [Daemon.sent, hlog, List.drop_left]
  rw [hsent]
  exact ⟨hlog, hes⟩

/-! ## Histories of proxies -/

/-- The proxy that is stored for each component. -/
def Paths.held (paths : Paths) (k : Component) : Option Proxy := (paths.proxyOf k).join

omit [MaybeBool M] in
theorem held_of_proxyOf {paths : Paths} {k : Component} {proxy : Proxy} :
    paths.held k = some proxy ↔ paths.proxyOf k = some (some proxy) := by
  rw [Paths.held, Option.join_eq_some_iff]

/-- What an event means for the proxy objects.  The proxy that a creation has yielded is
moved to the component, which destroys the one it has had.  Asking for a component asks
its proxy. -/
def Daemon.lifetimes (d : Daemon M V) : Event V → List (Lifetime Proxy)
  | .proxyDone index success =>
      match d.creations[index]? with
      | none => []
      | some creation =>
          (yielded (creation, success)).toList.map .created ++
            (d.data.audioPaths.held creation.component).toList.map .destroyed
  | .query (.playerInfo playerId) =>
      (d.data.audioPaths.held (.player playerId)).toList.map .used
  | .query (.sourceInfo sourceId) =>
      (d.data.audioPaths.held (.source sourceId)).toList.map .used
  | e => (d.sent e).filterMap BusEntry.proxy? |>.map .used

/-- The daemon and the history of its proxies agree. -/
structure Lives (d : Daemon M V) (stages : Proxy → Stage) : Prop where
  held : Lifetime.Held d.data.audioPaths.held stages
  /-- Proxies to be created are new. -/
  later : ∀ p, d.served ≤ p.registration → stages p = .unborn
  waiting : ∀ c ∈ d.creations, stages c.proxy = .unborn
  past : ∀ c ∈ d.creations, c.invocation < d.served
  distinct : (d.creations.map Creation.invocation).Nodup

/-- Unless a creation completes, proxies are only used, and they are in the registry. -/
theorem Daemon.lifetimes_used (h : Consistent d.data.audioPaths d.data.audioPathSwitch)
    (hdone : ∀ index success, e ≠ .proxyDone index success) :
    ∃ ps : List Proxy, d.lifetimes e = ps.map .used ∧
      ∀ p ∈ ps, ∃ k, d.data.audioPaths.held k = some p := by
  have hsent : ∃ ps : List Proxy, ps = (d.sent e).filterMap BusEntry.proxy? ∧
      ∀ p ∈ ps, ∃ k, d.data.audioPaths.held k = some p := by
    refine ⟨_, rfl, fun p hp => ?_⟩
    obtain ⟨entry, hmem, hproxy⟩ := List.mem_filterMap.mp hp
    cases entry with
    | called call ok =>
        cases hproxy
        exact ⟨_, held_of_proxyOf.mpr ((d.sent_through h e).2 call ok hmem)⟩
    | bug | assertionFailed => cases hproxy
  have hasked : ∀ k, ∀ p ∈ (d.data.audioPaths.held k).toList,
      ∃ k, d.data.audioPaths.held k = some p :=
    fun k p hp => ⟨k, Option.mem_toList.mp hp⟩
  obtain ⟨ps, rfl, hps⟩ := hsent
  cases e with
  | proxyDone index success => exact absurd rfl (hdone index success)
  | registerPlayer | registerSource | requestSource | releasePath | setReadyState =>
      exact ⟨_, rfl, hps⟩
  | query q =>
      cases q with
      | activePlayer | paths | currentPath | applianceState => exact ⟨_, rfl, hps⟩
      | playerInfo playerId => exact ⟨_, rfl, hasked (.player playerId)⟩
      | sourceInfo sourceId => exact ⟨_, rfl, hasked (.source sourceId)⟩

section Step

variable {stages : Proxy → Stage}

/-- Such an event is lawful, even if it is not handled to its end. -/
theorem Lives.exec_used (h : Lives d stages)
    (hsw : Consistent d.data.audioPaths d.data.audioPathSwitch)
    (hdone : ∀ index success, e ≠ .proxyDone index success) :
    (Lifetime.system Proxy).exec stages (d.lifetimes e) = some stages := by
  obtain ⟨ps, hps, hheld⟩ := Daemon.lifetimes_used hsw hdone
  rw [hps]
  apply Lifetime.exec_used
  intro p hp
  exact (h.held.live p).mpr (hheld p hp)

omit [MaybeBool M] in
/-- Nothing happens to the registry, and no creation is started. -/
theorem Lives.keep (h : Lives d stages) (hserved : d'.served = d.served + 1)
    (hpaths : d'.data.audioPaths = d.data.audioPaths) (hcreations : d'.creations = d.creations) :
    Lives d' stages where
  held := hpaths ▸ h.held
  later p hp := h.later p (by omega)
  waiting c hc := h.waiting c (hcreations ▸ hc)
  past c hc := by
    have hlt := h.past c (hcreations ▸ hc)
    omega
  distinct := hcreations ▸ h.distinct

omit [MaybeBool M] in
/-- A creation is started. -/
theorem Lives.creating (h : Lives d stages) {creation : Creation}
    (hinvocation : creation.invocation = d.served) (hserved : d'.served = d.served + 1)
    (hpaths : d'.data.audioPaths = d.data.audioPaths)
    (hcreations : d'.creations = d.creations ++ [creation]) : Lives d' stages where
  held := hpaths ▸ h.held
  later p hp := h.later p (by omega)
  waiting c hc := by
    rw [hcreations, List.mem_append, List.mem_singleton] at hc
    rcases hc with hold | rfl
    · exact h.waiting c hold
    · apply h.later
      rw [c.proxy_registration, hinvocation]
  past c hc := by
    rw [hcreations, List.mem_append, List.mem_singleton] at hc
    rcases hc with hold | rfl
    · have hlt := h.past c hold
      omega
    · omega
  distinct := by
    rw [hcreations, List.map_append, List.nodup_append]
    refine ⟨h.distinct, by simp, ?_⟩
    intro i hi j hj heq
    obtain ⟨c, hc, rfl⟩ := List.mem_map.mp hi
    have hlt := h.past c hc
    rw [List.map_singleton, List.mem_singleton, hinvocation] at hj
    omega

omit [MaybeBool M] in
/-- The proxies of two creations that are under way differ. -/
theorem Lives.proxy_ne (h : Lives d stages) {index : Nat} {creation c : Creation}
    (hcreation : d.creations[index]? = some creation) (hc : c ∈ d.creations.eraseIdx index) :
    c.proxy ≠ creation.proxy := by
  intro heq
  have hinvocation : c.invocation = creation.invocation := by
    rw [← c.proxy_registration, ← creation.proxy_registration, heq]
  obtain ⟨i, hi, hfound⟩ := List.mem_eraseIdx_iff_getElem?.mp hc
  have hlt : i < (d.creations.map Creation.invocation).length := by
    rw [List.length_map]
    exact (List.getElem?_eq_some_iff.mp hfound).1
  apply hi
  apply (List.getElem?_inj hlt h.distinct).mp
  rw [List.getElem?_map, List.getElem?_map, hfound, hcreation, Option.map_some,
    Option.map_some, hinvocation]

theorem proxy_of_yielded {creation : Creation} {success : Bool} {p : Proxy}
    (h : yielded (creation, success) = some p) : p = creation.proxy := by
  unfold yielded at h
  split at h
  · exact (Option.some.inj h).symm
  · cases h

omit [MaybeBool M] in
theorem Lives.unborn_of_yielded (h : Lives d stages) {index : Nat} {success : Bool}
    {creation : Creation} (hcreation : d.creations[index]? = some creation) {p : Proxy}
    (hp : yielded (creation, success) = some p) : stages p = .unborn := by
  rw [proxy_of_yielded hp]
  exact h.waiting creation (List.mem_of_getElem? hcreation)

/-- A creation completes. -/
theorem Lives.done (h : Lives d stages) {index : Nat} {success : Bool} {creation : Creation}
    (hcreation : d.creations[index]? = some creation) (hserved : d'.served = d.served + 1)
    (hpaths : d'.data.audioPaths.held = Function.update d.data.audioPaths.held
      creation.component (yielded (creation, success)))
    (hcreations : d'.creations = d.creations.eraseIdx index) :
    ∃ stages', (Lifetime.system Proxy).exec stages (d.lifetimes (.proxyDone index success)) =
      some stages' ∧ Lives d' stages' := by
  have hmem := List.mem_of_getElem? hcreation
  have hnew : ∀ p ∈ yielded (creation, success), stages p = .unborn :=
    fun p hp => h.unborn_of_yielded hcreation hp
  obtain ⟨stages', hexec, hheld, hunborn⟩ := h.held.replace creation.component hnew
  refine ⟨stages', ?_, ?_⟩
  · simp only [Daemon.lifetimes, hcreation]
    exact hexec
  · refine ⟨hpaths ▸ hheld, fun p hp => ?_, fun c hc => ?_, fun c hc => ?_, ?_⟩
    · apply hunborn p _ (h.later p (by omega))
      intro hp'
      have hlt := h.past creation hmem
      rw [proxy_of_yielded hp', creation.proxy_registration] at hp
      omega
    · rw [hcreations] at hc
      apply hunborn c.proxy _ (h.waiting c (List.mem_of_mem_eraseIdx hc))
      intro hp'
      exact h.proxy_ne hcreation hc (proxy_of_yielded hp')
    · have hlt := h.past c (List.mem_of_mem_eraseIdx (hcreations ▸ hc))
      omega
    · rw [hcreations]
      exact h.distinct.sublist ((List.eraseIdx_sublist _ _).map _)

omit [MaybeBool M] in
theorem held_registered {paths paths' : Paths} {k : Component} {proxy : Option Proxy}
    (h : paths'.proxyOf = Function.update paths.proxyOf k (some proxy)) :
    paths'.held = Function.update paths.held k proxy := by
  funext j
  unfold Paths.held
  rw [h]
  by_cases hj : j = k
  · rw [hj, Function.update_self, Function.update_self]
    rfl
  · rw [Function.update_of_ne hj, Function.update_of_ne hj]

omit [MaybeBool M] in
/-- A registration stores a new proxy or none, and moves no other. -/
theorem Lives.stays_registered {d' : Daemon M V} (h : Lives d stages) {index : Nat}
    {success : Bool} {creation : Creation} (hcreation : d.creations[index]? = some creation)
    (hpaths : d'.data.audioPaths.proxyOf = Function.update d.data.audioPaths.proxyOf
      creation.component (some (yielded (creation, success)))) {k : Component} {p : Proxy}
    (hborn : stages p ≠ .unborn) (hheld : d'.data.audioPaths.held k = some p) :
    d.data.audioPaths.held k = some p := by
  rw [held_registered hpaths] at hheld
  by_cases hk : k = creation.component
  · rw [hk, Function.update_self] at hheld
    exact absurd (h.unborn_of_yielded hcreation hheld) hborn
  · rwa [Function.update_of_ne hk] at hheld

/-- A proxy never moves to another component. -/
theorem Lives.stays (h : Lives d stages) (hstep : Steps d e d') {k : Component} {p : Proxy}
    (hborn : stages p ≠ .unborn) (hheld : d'.data.audioPaths.held k = some p) :
    d.data.audioPaths.held k = some p := by
  cases hstep with
  | playerRegistered hcreation =>
      exact h.stays_registered hcreation (proxyOf_addPlayer _ _) hborn hheld
  | sourceRegistered hcreation =>
      exact h.stays_registered hcreation (proxyOf_addSource _ _) hborn hheld
  | answered | creating | noCreation | requested | released | completed | canceled
  | postponed => exact hheld

theorem Lives.step (h : Lives d stages)
    (hsw : Consistent d.data.audioPaths d.data.audioPathSwitch) (hstep : Steps d e d') :
    ∃ stages', (Lifetime.system Proxy).exec stages (d.lifetimes e) = some stages' ∧
      Lives d' stages' := by
  have hused : (∀ index success, e ≠ .proxyDone index success) → Lives d' stages →
      ∃ stages', (Lifetime.system Proxy).exec stages (d.lifetimes e) = some stages' ∧
        Lives d' stages' :=
    fun hdone hlives => ⟨stages, h.exec_used hsw hdone, hlives⟩
  cases hstep with
  | answered hpassive =>
      refine hused ?_ (h.keep rfl rfl rfl)
      rintro index success rfl
      exact hpassive
  | creating hcreation =>
      refine hused ?_ (h.creating (invocation_of_creation hcreation).1 rfl rfl rfl)
      rintro index success rfl
      cases hcreation
  | noCreation hnone =>
      refine ⟨stages, ?_, h.keep rfl rfl rfl⟩
      simp only [Daemon.lifetimes, hnone]
      rfl
  | playerRegistered hcreation =>
      exact h.done hcreation rfl (held_registered (proxyOf_addPlayer _ _)) rfl
  | sourceRegistered hcreation =>
      exact h.done hcreation rfl (held_registered (proxyOf_addSource _ _)) rfl
  | requested | released | completed | canceled | postponed =>
      exact hused (by simp) (h.keep rfl rfl rfl)

end Step

namespace Daemon

/-- The history of the proxies follows the daemon. -/
theorem implementedBy_lifetimes :
    (system M V).ImplementedBy (Lifetime.system Proxy) Lives lifetimes where
  init := by
    have hnone : (initial (M := M) (V := V)).data.audioPaths.held = fun _ => none := by
      funext k
      cases k <;> simp [Paths.held, Paths.proxyOf, initial]
    refine ⟨?_, fun _ _ => rfl, by simp [system, initial], by simp [system, initial],
      by simp [system, initial]⟩
    rw [show (system M V).init.data.audioPaths.held = _ from hnone]
    exact .empty
  step h hlives hstep := hlives.step (consistent_of_reachable h) (steps_of_step h hstep)

/-- In every run, proxies are created once, used only between their creation and their
destruction, and destroyed at most once, and a further event keeps to this even if the
daemon crashes on it.  Those that live are those stored in the registry. -/
theorem proxies_lawful {evs : List (Event V)} (h : (system M V).Run evs d) :
    ∃ stages, (Lifetime.system Proxy).Run
        ((system M V).translate lifetimes (system M V).init evs) stages ∧
      (∀ p, stages p = .live ↔ ∃ k, d.data.audioPaths.proxyOf k = some (some p)) ∧
      ∀ e, ∃ stages', (Lifetime.system Proxy).exec stages (d.lifetimes e) = some stages' := by
  obtain ⟨stages, hrun, hlives⟩ := implementedBy_lifetimes.run h
  have hsw := consistent_of_reachable h.reachable
  refine ⟨stages, hrun, fun p => ?_, fun e => ?_⟩
  · rw [hlives.held.live p]
    exact exists_congr fun k => held_of_proxyOf
  · rcases listed hsw e with ⟨d', hsteps, -⟩ | ⟨-, hcrashes, -⟩
    · obtain ⟨stages', hexec, -⟩ := hlives.step hsw hsteps
      exact ⟨stages', hexec⟩
    · refine ⟨stages, hlives.exec_used hsw ?_⟩
      rintro index success rfl
      cases hcrashes

/-- The player of `deferralEvents` registers again. -/
def replacementEvents : List (Event Unit) :=
  [.registerPlayer 0 "player" "Player" "/player" ":1.2", .proxyDone 0 true]

/-- Its old proxy is gone, the new one lives. -/
theorem proxies_lawful_replaced : ∃ (d : Daemon (Option Bool) Unit) (stages : Proxy → Stage),
    (Lifetime.system Proxy).Run ((system (Option Bool) Unit).translate lifetimes
        (system (Option Bool) Unit).init (deferralEvents ++ replacementEvents)) stages ∧
      d.data.audioPaths.proxyOf (.player "player") = some (some ⟨6, ":1.2", "/player"⟩) ∧
      stages ⟨6, ":1.2", "/player"⟩ = .live := by
  have hexec : ((system (Option Bool) Unit).exec (system (Option Bool) Unit).init
      (deferralEvents ++ replacementEvents)).map
        (fun d => d.data.audioPaths.proxyOf (.player "player")) =
      some (some (some ⟨6, ":1.2", "/player"⟩)) := by decide +kernel
  obtain ⟨d, hrun, hproxy⟩ := System.exists_run_of_exec hexec
  obtain ⟨stages, hstages, hlive, -⟩ := proxies_lawful hrun
  exact ⟨d, stages, hstages, hproxy, (hlive _).mpr ⟨_, hproxy⟩⟩

end Daemon

/-! ## Replaced proxies -/

section Replaced

variable {stages : Proxy → Stage} {p : Proxy}

theorem Lives.not_sent (h : Lives d stages)
    (hsw : Consistent d.data.audioPaths d.data.audioPathSwitch) (hdead : stages p = .dead)
    (e : Event V) : ∀ call ok, .called call ok ∈ d.sent e → call.proxy ≠ p := by
  rintro call ok hmem rfl
  have hheld := held_of_proxyOf.mpr ((d.sent_through hsw e).2 call ok hmem)
  rw [(h.held.live call.proxy).mpr ⟨_, hheld⟩] at hdead
  cases hdead

/-- Nobody tells it anything. -/
theorem Lives.told_iff (h : Lives d stages)
    (hsw : Consistent d.data.audioPaths d.data.audioPathSwitch) (hdead : stages p = .dead)
    (e : Event V) : Told (busLog (d.afterwards e).log) p ↔ Told (busLog d.log) p := by
  unfold Told
  rw [(d.sent_through hsw e).1, latest_append_of_other]
  intro entry hmem a hgrant
  unfold instanceGrant at hgrant
  split at hgrant
  · cases hgrant
    exact h.not_sent hsw hdead e _ _ hmem rfl
  · cases hgrant
    exact h.not_sent hsw hdead e _ _ hmem rfl
  · cases hgrant

/-- It does not come back, and keeps believing what it believes. -/
theorem Lives.told_of_exec {evs : List (Event V)} (h : Lives d stages)
    (hreach : (Daemon.system M V).Reachable d) (hdead : stages p = .dead)
    (hexec : (Daemon.system M V).exec d evs = some d') :
    ∃ stages', Lives d' stages' ∧ stages' p = .dead ∧
      (Told (busLog d'.log) p ↔ Told (busLog d.log) p) := by
  induction evs generalizing d stages with
  | nil =>
      rw [System.exec_nil, Option.some.injEq] at hexec
      exact ⟨stages, hexec ▸ h, hdead, by rw [hexec]⟩
  | cons e rest ih =>
      rw [System.exec_cons, Option.bind_eq_some_iff] at hexec
      obtain ⟨mid, hstep, hrest⟩ := hexec
      have hsw := Daemon.consistent_of_reachable hreach
      obtain ⟨next, hnext, hlives⟩ := h.step hsw (Daemon.steps_of_step hreach hstep)
      obtain ⟨stages', hlives', hdead', htold⟩ :=
        ih hlives (hreach.step hstep) (Lifetime.dead_of_exec hdead hnext) hrest
      refine ⟨stages', hlives', hdead', htold.trans ?_⟩
      have hafter : d.afterwards e = mid := by
        rw [Daemon.afterwards, Daemon.step_eq_some.mp hstep]
      rw [← hafter]
      exact h.told_iff hsw hdead e

/-- What a component has had and has lost has been destroyed. -/
theorem Lives.dead_of_exec {evs : List (Event V)} {k : Component} (h : Lives d stages)
    (hreach : (Daemon.system M V).Reachable d) (hlived : stages p ≠ .unborn)
    (hstored : ∀ j, d.data.audioPaths.held j = some p → j = k)
    (hexec : (Daemon.system M V).exec d evs = some d')
    (hgone : d'.data.audioPaths.held k ≠ some p) :
    ∃ stages', Lives d' stages' ∧ stages' p = .dead := by
  induction evs generalizing d stages with
  | nil =>
      rw [System.exec_nil, Option.some.injEq] at hexec
      subst hexec
      refine ⟨stages, h, ?_⟩
      cases hstage : stages p with
      | unborn => exact absurd hstage hlived
      | dead => rfl
      | live =>
          obtain ⟨j, hj⟩ := (h.held.live p).mp hstage
          exact absurd (hstored j hj ▸ hj) hgone
  | cons e rest ih =>
      rw [System.exec_cons, Option.bind_eq_some_iff] at hexec
      obtain ⟨mid, hstep, hrest⟩ := hexec
      have hsteps := Daemon.steps_of_step hreach hstep
      obtain ⟨next, hnext, hlives⟩ := h.step (Daemon.consistent_of_reachable hreach) hsteps
      refine ih hlives (hreach.step hstep) ?_ ?_ hrest
      · exact Lifetime.born_of_exec hlived hnext
      · exact fun j hj => hstored j (h.stays hsteps hlived hj)

end Replaced

namespace Daemon

/-- Once another registration of a component has replaced its proxy, the old one is out of
reach for good: no later event calls it, and if it has been told that it may use the audio
device, then it is never told otherwise. -/
theorem replaced_never_called {evs more later : List (Event V)} {d d' d'' : Daemon M V}
    {k : Component} {p : Proxy} (h : (system M V).Run evs d)
    (hstored : d.data.audioPaths.proxyOf k = some (some p))
    (hmore : (system M V).exec d more = some d')
    (hgone : d'.data.audioPaths.proxyOf k ≠ some (some p))
    (hlater : (system M V).exec d' later = some d'') (e : Event V) :
    (∀ call ok, .called call ok ∈ d''.sent e → call.proxy ≠ p) ∧
      (Told (busLog (d''.afterwards e).log) p ↔ Told (busLog d'.log) p) := by
  obtain ⟨stages, -, hlives⟩ := implementedBy_lifetimes.run h
  have hheld := held_of_proxyOf.mpr hstored
  have hlive : stages p ≠ .unborn := by
    rw [(hlives.held.live p).mpr ⟨k, hheld⟩]
    decide
  obtain ⟨stages', hlives', hdead⟩ := hlives.dead_of_exec h.reachable hlive
    (fun j hj => hlives.held.unique hj hheld) hmore (mt held_of_proxyOf.mp hgone)
  have hreach' := h.reachable.exec hmore
  obtain ⟨stages'', hlives'', hdead'', htold⟩ := hlives'.told_of_exec hreach' hdead hlater
  have hsw := consistent_of_reachable (hreach'.exec hlater)
  exact ⟨hlives''.not_sent hsw hdead'' e, (hlives''.told_iff hsw hdead'' e).trans htold⟩

/-- The audio path is released, but the process behind the old proxy never hears of it. -/
theorem replaced_never_called_released : ∃ d : Daemon (Option Bool) Unit,
    (system (Option Bool) Unit).Run (deferralEvents ++ replacementEvents) d ∧
      (d.afterwards (.releasePath 0 true none fun _ => true)).data.audioPathSwitch = {} ∧
      Told (busLog (d.afterwards (.releasePath 0 true none fun _ => true)).log)
        ⟨0, ":1.1", "/player"⟩ := by
  obtain ⟨before, hbefore, -⟩ := exists_deferred
  have hexec : ((system (Option Bool) Unit).exec (system (Option Bool) Unit).init
      (deferralEvents ++ replacementEvents)).map (fun d =>
        (d.data.audioPaths.proxyOf (.player "player"),
          (d.afterwards (.releasePath 0 true none fun _ => true)).data.audioPathSwitch,
          latest instanceGrant false (busLog d.log) ⟨0, ":1.1", "/player"⟩)) =
      some (some (some ⟨6, ":1.2", "/player"⟩), {}, true) := by decide +kernel
  have hstored : ((system (Option Bool) Unit).exec (system (Option Bool) Unit).init
      deferralEvents).map (fun d => d.data.audioPaths.proxyOf (.player "player")) =
      some (some (some ⟨0, ":1.1", "/player"⟩)) := by decide +kernel
  rw [hbefore.exec_eq, Option.map_some, Option.some.injEq] at hstored
  obtain ⟨d, hrun, hseen⟩ := System.exists_run_of_exec hexec
  simp only [Prod.mk.injEq] at hseen
  obtain ⟨hproxy, hswitch, htold⟩ := hseen
  have hmore := System.exec_append_of_exec hbefore.exec_eq replacementEvents
  rw [hrun.exec_eq] at hmore
  have hgone : d.data.audioPaths.proxyOf (.player "player") ≠
      some (some ⟨0, ":1.1", "/player"⟩) := by
    rw [hproxy]
    decide
  refine ⟨d, hrun, hswitch, ?_⟩
  exact (replaced_never_called hbefore hstored hmore.symm hgone
    (System.exec_nil _ d) _).2.mpr htold

end Daemon

end TapSwitch
