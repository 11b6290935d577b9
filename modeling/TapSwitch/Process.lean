import TapSwitch.Daemon
import TapSwitch.Library.Lifetime

set_option autoImplicit false

/-!
# The process (`dbus_iface.cc`, `tapswitch.cc`)

`main()` waits in `dbus_setup()` until the bus name is acquired or lost, runs the main loop
until a signal arrives, and calls `dbus_shutdown()`.  Everything else happens in callbacks
that the main context dispatches, many of them in one iteration if need be; loop conditions
are only looked at between iterations.

The objects of the D-Bus interface are numbered as they are created.  What GLib promises
about the order of its callbacks is part of the transition system: it connects to the bus
first, or reports the name as lost; only then it acquires or loses the name, and the two
alternate.
-/

namespace TapSwitch

open Library

/-- `DBusData` -/
structure DBusData where
  nameAcquired : Int := 0
  audiopathManagerIface : Option Nat := none
  audiopathApplianceIface : Option Nat := none
  debugLoggingIface : Option Nat := none
  debugLoggingConfigProxy : Option Nat := none
  deriving DecidableEq, Repr

/-- What the main context dispatches. -/
inductive Callback (V : Type) where
  | busAcquired
  /-- The proxy for the configuration of debug logging may fail to be created. -/
  | nameAcquired (created : Bool)
  | nameLost
  | handle (e : Event V)
  /-- `signal_handler()` -/
  | unixSignal

/-- The bus name, as GLib keeps track of it. -/
inductive BusName where
  | wanted
  | unreachable
  | requested
  | owned
  | lost
  deriving DecidableEq, Repr

/-- There is a connection to the bus. -/
def BusName.connected : BusName → Bool
  | .wanted | .unreachable => false
  | .requested | .owned | .lost => true

/-- Which callbacks GLib may invoke. -/
def BusName.after {V : Type} : BusName → Callback V → Option BusName
  | .wanted, .busAcquired => some .requested
  | .wanted, .nameLost => some .unreachable
  | .requested, .nameAcquired _ | .lost, .nameAcquired _ => some .owned
  | .requested, .nameLost | .owned, .nameLost => some .lost
  | name, .handle _ => if name.connected then some name else none
  | name, .unixSignal => some name
  | _, _ => none

theorem BusName.after_handle {V : Type} (name : BusName) (e : Event V) :
    name.after (.handle e) = if name.connected then some name else none := by
  cases name <;> rfl

/-- Where `main()` is. -/
inductive Phase where
  /-- In the loop of `dbus_setup()`. -/
  | acquiring
  /-- In the main loop. -/
  | serving
  | exited (status : Nat)
  /-- A handler has crashed. -/
  | crashed
  deriving DecidableEq, Repr

/-- Signals are handled from the main loop on. -/
def Phase.dispatches {V : Type} : Phase → Callback V → Bool
  | .acquiring, .unixSignal => false
  | .acquiring, _ | .serving, _ => true
  | .exited _, _ | .crashed, _ => false

/-- What the process did with an object.  It destroys an object by dropping its only
reference. -/
inductive ProcessEntry where
  | object (event : Lifetime Nat)
  /-- A function of GLib was called with the null pointer. -/
  | critical
  /-- `msg_log_assert` fired. -/
  | assertionFailed
  deriving DecidableEq, Repr

/-- An object is passed to a function. -/
def ProcessEntry.use : Option Nat → ProcessEntry
  | some k => .object (.used k)
  | none => .critical

/-- `g_object_unref()` -/
def ProcessEntry.unref : Option Nat → ProcessEntry
  | some k => .object (.destroyed k)
  | none => .critical

/-- `msg_log_assert`, for a pointer that must not be null. -/
def ProcessEntry.assertNotNull : Option Nat → List ProcessEntry
  | some _ => []
  | none => [.assertionFailed]

/-- The process. -/
structure Process (M V : Type) where
  phase : Phase
  name : BusName
  dbusData : DBusData
  daemon : Daemon M V
  /-- `g_main_loop_quit()` has been called. -/
  quit : Bool
  loopReferences : Nat
  /-- The number of objects created so far. -/
  made : Nat
  log : List ProcessEntry

/-- A callback is dispatched, or an iteration of the main context has ended. -/
inductive Moment (V : Type) where
  | dispatched (callback : Callback V)
  | iterated

/-- The interface objects that are used when an event is handled: the one that was called,
and the manager for signals. -/
def DBusData.involved {V : Type} (data : DBusData) : Event V → List (Option Nat)
  | .setReadyState .. => [data.audiopathApplianceIface, data.audiopathManagerIface]
  | .query .applianceState => [data.audiopathApplianceIface]
  | _ => [data.audiopathManagerIface]

namespace Process

variable {M V : Type}

/-- When `dbus_setup()` is entered. -/
def initial [MaybeBool M] : Process M V where
  phase := .acquiring
  name := .wanted
  dbusData := {}
  daemon := Daemon.initial
  quit := false
  loopReferences := 1
  made := 0
  log := []

/-- `bus_acquired()`: the skeletons are created, connected to the handlers, and exported. -/
def busAcquired (p : Process M V) : Process M V :=
  let ifaces := [p.made, p.made + 1, p.made + 2]
  { p with
    dbusData := { p.dbusData with
      audiopathManagerIface := some p.made
      audiopathApplianceIface := some (p.made + 1)
      debugLoggingIface := some (p.made + 2) }
    made := p.made + 3
    log := p.log ++ (ifaces.map fun k => .object (.created k)) ++
      ifaces.map fun k => .object (.used k) }

/-- `name_acquired()`; what has been in `debug_logging_config_proxy` is overwritten. -/
def nameAcquired (p : Process M V) (created : Bool) : Process M V :=
  let dbusData := { p.dbusData with nameAcquired := 1 }
  if created then
    { p with
      dbusData := { dbusData with debugLoggingConfigProxy := some p.made }
      made := p.made + 1
      log := p.log ++ [.object (.created p.made)] }
  else { p with dbusData := { dbusData with debugLoggingConfigProxy := none } }

/-- `name_lost()` -/
def nameLost (p : Process M V) : Process M V :=
  { p with dbusData := { p.dbusData with nameAcquired := -1 } }

/-- A method call or a new proxy is handled. -/
def handle [MaybeBool M] (p : Process M V) (e : Event V) : Process M V :=
  let log := p.log ++ (p.dbusData.involved e).map .use
  match p.daemon.perform e with
  | .ok _ d => { p with daemon := d, log }
  | .error _ d => { p with phase := .crashed, daemon := d, log }

/-- A callback is carried out. -/
def callback [MaybeBool M] (p : Process M V) : Callback V → Process M V
  | .busAcquired => p.busAcquired
  | .nameAcquired created => p.nameAcquired created
  | .nameLost => p.nameLost
  | .handle e => p.handle e
  | .unixSignal => { p with quit := true }

/-- The end of `dbus_setup()`. -/
def endSetup (p : Process M V) : Process M V :=
  if p.dbusData.nameAcquired < 0 then { p with phase := .exited 1 }
  else
    { p with
      phase := .serving
      loopReferences := p.loopReferences + 1
      log := p.log ++ ProcessEntry.assertNotNull p.dbusData.audiopathManagerIface ++
        ProcessEntry.assertNotNull p.dbusData.audiopathApplianceIface ++
        ProcessEntry.assertNotNull p.dbusData.debugLoggingIface ++
        ProcessEntry.assertNotNull p.dbusData.debugLoggingConfigProxy ++
        [.use p.dbusData.debugLoggingConfigProxy] }

/-- `dbus_shutdown()`, and the end of `main()` -/
def dbusShutdown (p : Process M V) : Process M V :=
  { p with
    phase := .exited 0
    loopReferences := p.loopReferences - 1
    log := p.log ++ [.unref p.dbusData.audiopathManagerIface,
      .unref p.dbusData.audiopathApplianceIface, .unref p.dbusData.debugLoggingIface,
      .unref p.dbusData.debugLoggingConfigProxy] }

/-- The loop conditions. -/
def iterate (p : Process M V) : Option (Process M V) :=
  match p.phase with
  | .acquiring => some (if p.dbusData.nameAcquired = 0 then p else p.endSetup)
  | .serving => some (if p.quit then p.dbusShutdown else p)
  | .exited _ | .crashed => none

variable [MaybeBool M]

variable (M V) in
/-- The process as a transition system. -/
def system : System (Process M V) (Moment V) where
  init := initial
  step p
    | .dispatched callback =>
        if p.phase.dispatches callback then
          (p.name.after callback).map fun name => { p.callback callback with name }
        else none
    | .iterated => p.iterate

end Process

/-! ## What has happened -/

/-- The attempts to create the debug proxy, and which succeeded. -/
def Moment.proxyCreated? {V : Type} : Moment V → Option Bool
  | .dispatched (.nameAcquired created) => some created
  | _ => none

/-- The event that the daemon is given. -/
def Moment.event? {V : Type} : Moment V → Option (Event V)
  | .dispatched (.handle e) => some e
  | _ => none

/-- What an entry says about an object. -/
def ProcessEntry.object? : ProcessEntry → Option (Lifetime Nat)
  | .object event => some event
  | _ => none

namespace Process

variable {M V : Type}

/-- The attempts to create the debug proxy. -/
def attempts (evs : List (Moment V)) : List Bool := evs.filterMap Moment.proxyCreated?

/-- The daemon's events. -/
def handled (evs : List (Moment V)) : List (Event V) := evs.filterMap Moment.event?

theorem attempts_concat (evs : List (Moment V)) (m : Moment V) :
    attempts (evs ++ [m]) = attempts evs ++ m.proxyCreated?.toList := by
  unfold attempts
  rw [List.filterMap_append]
  cases hm : m.proxyCreated? <;> simp [hm]

theorem handled_concat (evs : List (Moment V)) (m : Moment V) :
    handled (evs ++ [m]) = handled evs ++ m.event?.toList := by
  unfold handled
  rw [List.filterMap_append]
  cases hm : m.event? <;> simp [hm]

/-- The objects with the first numbers live, and there are no others. -/
def firstLive (made : Nat) (k : Nat) : Stage := if k < made then .live else .unborn

/-- How far the objects have come.  In the end, those that `dbus_data` refers to are
destroyed. -/
def stages (p : Process M V) (k : Nat) : Stage :=
  if p.phase = .exited 0 ∧ (k < 3 ∨ p.dbusData.debugLoggingConfigProxy = some k) then .dead
  else firstLive p.made k

/-- The history of the objects. -/
def objects (p : Process M V) : List (Lifetime Nat) := p.log.filterMap ProcessEntry.object?

variable [MaybeBool M]

/-- What holds after these attempts and events. -/
structure Sound (tries : List Bool) (events : List (Event V)) (p : Process M V) : Prop where
  unconnected : p.name.connected = false → p.made = 0 ∧ tries = []
  made : p.name.connected = true → p.made = 3 + tries.count true
  ifaces : p.name.connected = true → p.dbusData.audiopathManagerIface = some 0 ∧
    p.dbusData.audiopathApplianceIface = some 1 ∧ p.dbusData.debugLoggingIface = some 2
  config : p.dbusData.debugLoggingConfigProxy =
    if tries.getLast? = some true then some (p.made - 1) else none
  acquired : 0 < p.dbusData.nameAcquired → tries ≠ []
  serving : p.phase = .serving ∨ p.phase = .exited 0 → tries ≠ []
  objects : (Lifetime.system Nat).exec (Lifetime.system Nat).init p.objects = some p.stages
  clean : (∀ created ∈ tries, created = true) → ∀ entry ∈ p.log, entry.object?.isSome = true
  daemon : (Daemon.system M V).exec (Daemon.system M V).init events =
    if p.phase = .crashed then none else some p.daemon
  loop : p.phase ≠ .crashed → p.loopReferences = if p.phase = .serving then 2 else 1

variable {tries : List Bool} {events : List (Event V)} {p p' : Process M V}

theorem Sound.initial : Sound [] [] (initial : Process M V) where
  unconnected _ := ⟨rfl, rfl⟩
  made h := by cases h
  ifaces h := by cases h
  config := rfl
  acquired h := by cases h
  serving h := by rcases h with h | h <;> cases h
  objects := rfl
  clean _ entry h := by cases h
  daemon := rfl
  loop _ := rfl

omit [MaybeBool M] in
theorem stages_eq_firstLive (h : p.phase ≠ .exited 0) : p.stages = firstLive p.made := by
  funext k
  exact if_neg fun hexited => h hexited.1

omit [MaybeBool M] in
theorem stages_eq_live {k : Nat} : p.stages k = .live ↔
    ¬ (p.phase = .exited 0 ∧ (k < 3 ∨ p.dbusData.debugLoggingConfigProxy = some k)) ∧
      k < p.made := by
  unfold stages firstLive
  split
  next hdead => simp [hdead]
  next hdead =>
    rw [ite_eq_left_iff, and_iff_right hdead]
    simp

/-- The next object is created. -/
theorem step_created_firstLive (made : Nat) :
    (Lifetime.system Nat).step (firstLive made) (.created made) =
      some (firstLive (made + 1)) := by
  have hunborn : firstLive made made = .unborn := if_neg (Nat.lt_irrefl made)
  rw [Lifetime.step_created hunborn]
  congr 1
  funext k
  unfold firstLive
  by_cases hk : k = made
  · rw [hk, Function.update_self, if_pos (Nat.lt_succ_self made)]
  · rw [Function.update_of_ne hk]
    congr 1
    rw [eq_iff_iff]
    omega

/-- Pointers to live objects are passed around, perhaps also null pointers. -/
theorem exec_use {live : Nat → Stage} (pointers : List (Option Nat))
    (h : ∀ pointer ∈ pointers, ∀ k ∈ pointer, live k = .live) :
    (Lifetime.system Nat).exec live
      ((pointers.map ProcessEntry.use).filterMap ProcessEntry.object?) = some live := by
  have hused : (pointers.map ProcessEntry.use).filterMap ProcessEntry.object? =
      (pointers.filterMap id).map .used := by
    rw [List.filterMap_map, List.map_filterMap]
    congr 1
    funext pointer
    cases pointer <;> rfl
  rw [hused]
  apply Lifetime.exec_used
  intro k hk
  obtain ⟨pointer, hpointer, hsome⟩ := List.mem_filterMap.mp hk
  exact h pointer hpointer k hsome

theorem Sound.connected (h : Sound tries events p) (htries : tries ≠ []) :
    p.name.connected = true := by
  cases hname : p.name.connected with
  | true => rfl
  | false => exact absurd (h.unconnected hname).2 htries

/-- Interfaces that exist are alive. -/
theorem Sound.involved (h : Sound tries events p) (hname : p.name.connected = true)
    (hphase : p.phase ≠ .exited 0) (e : Event V) :
    ∀ pointer ∈ p.dbusData.involved e, ∃ k, pointer = some k ∧ p.stages k = .live := by
  obtain ⟨hmanager, happliance, -⟩ := h.ifaces hname
  have hlive : ∀ k, k < 3 → p.stages k = .live := by
    intro k hk
    rw [stages_eq_firstLive hphase]
    apply if_pos
    rw [h.made hname]
    omega
  intro pointer hpointer
  have hpointers : pointer = some 0 ∨ pointer = some 1 := by
    unfold DBusData.involved at hpointer
    rw [hmanager, happliance] at hpointer
    split at hpointer <;> simp at hpointer <;> tauto
  cases hpointers with
  | inl hzero => exact ⟨0, hzero, hlive 0 (by decide)⟩
  | inr hone => exact ⟨1, hone, hlive 1 (by decide)⟩

/-- The history goes on. -/
theorem Sound.objects_next (h : Sound tries events p) {new : List ProcessEntry}
    (hlog : p'.log = p.log ++ new)
    (hexec : (Lifetime.system Nat).exec p.stages (new.filterMap ProcessEntry.object?) =
      some p'.stages) :
    (Lifetime.system Nat).exec (Lifetime.system Nat).init p'.objects = some p'.stages := by
  unfold Process.objects
  rw [hlog, List.filterMap_append, ← hexec]
  exact System.exec_append_of_exec h.objects _

theorem Sound.clean_next (h : Sound tries events p)
    (hcreated : ∀ created ∈ tries, created = true) {new : List ProcessEntry}
    (hlog : p'.log = p.log ++ new) (hnew : ∀ entry ∈ new, entry.object?.isSome = true) :
    ∀ entry ∈ p'.log, entry.object?.isSome = true := by
  intro entry hentry
  rw [hlog, List.mem_append] at hentry
  cases hentry with
  | inl hold => exact h.clean hcreated entry hold
  | inr hentry => exact hnew entry hentry

/-! ## Callbacks -/

/-- Three objects are created and used. -/
theorem exec_busAcquired :
    (Lifetime.system Nat).exec (firstLive 0)
      ([.created 0, .created 1, .created 2] ++ [0, 1, 2].map .used) = some (firstLive 3) := by
  rw [List.cons_append, System.exec_cons_of_step (step_created_firstLive 0),
    List.cons_append, System.exec_cons_of_step (step_created_firstLive 1),
    List.cons_append, System.exec_cons_of_step (step_created_firstLive 2), List.nil_append]
  apply Lifetime.exec_used
  decide

theorem Sound.busAcquired (h : Sound tries events p) (hname : p.name.connected = false)
    (hphase : p.phase ≠ .exited 0) :
    Sound tries events { p.busAcquired with name := .requested } := by
  obtain ⟨hmade, htries⟩ := h.unconnected hname
  refine ⟨?_, ?_, ?_, ?_, h.acquired, h.serving, ?_, ?_, h.daemon, h.loop⟩
  · intro hconnected
    cases hconnected
  · intro _
    simp [Process.busAcquired, hmade, htries]
  · intro _
    simp [Process.busAcquired, hmade]
  · have hconfig := h.config
    rw [htries] at hconfig ⊢
    exact hconfig
  · refine h.objects_next (List.append_assoc ..) ?_
    rw [stages_eq_firstLive hphase, stages_eq_firstLive (by exact hphase), hmade]
    simp only [Process.busAcquired, hmade]
    exact exec_busAcquired
  · intro hcreated
    refine h.clean_next hcreated (List.append_assoc ..) ?_
    simp [ProcessEntry.object?]

theorem Sound.nameAcquired (h : Sound tries events p) (hname : p.name.connected = true)
    (hphase : p.phase ≠ .exited 0) (created : Bool) :
    Sound (tries ++ [created]) events { p.nameAcquired created with name := .owned } := by
  have hmade := h.made hname
  have hnonempty : tries ++ [created] ≠ [] := by simp
  refine ⟨?_, ?_, ?_, ?_, fun _ => hnonempty, fun _ => hnonempty, ?_, ?_, ?_, ?_⟩
  · intro hunconnected
    cases hunconnected
  · intro _
    cases created <;> simp [Process.nameAcquired, hmade, Nat.add_assoc]
  · intro _
    cases created <;> exact h.ifaces hname
  · cases created <;> simp [Process.nameAcquired]
  · cases created with
    | false =>
        refine h.objects_next (List.append_nil _).symm ?_
        rw [stages_eq_firstLive hphase, stages_eq_firstLive (by exact hphase)]
        rfl
    | true =>
        refine h.objects_next rfl ?_
        rw [stages_eq_firstLive hphase, stages_eq_firstLive (by exact hphase)]
        exact (System.exec_singleton).trans (step_created_firstLive p.made)
  · intro hcreated
    have hbefore : ∀ created ∈ tries, created = true := fun created hmem =>
      hcreated created (List.mem_append_left _ hmem)
    cases created with
    | false => exact h.clean hbefore
    | true =>
        refine h.clean_next hbefore rfl ?_
        simp [ProcessEntry.object?]
  · cases created <;> exact h.daemon
  · cases created <;> exact h.loop

theorem Sound.nameLost (h : Sound tries events p) {name : BusName}
    (hname : name.connected = p.name.connected) :
    Sound tries events { p.nameLost with name } := by
  refine ⟨?_, ?_, ?_, h.config, ?_, h.serving, h.objects, h.clean, h.daemon, h.loop⟩
  · rw [hname]
    exact h.unconnected
  · rw [hname]
    exact h.made
  · rw [hname]
    exact h.ifaces
  · intro hacquired
    cases hacquired

theorem Sound.unixSignal (h : Sound tries events p) :
    Sound tries events { p with quit := true } :=
  ⟨h.unconnected, h.made, h.ifaces, h.config, h.acquired, h.serving, h.objects, h.clean,
    h.daemon, h.loop⟩

/-- The daemon handles an event, or crashes. -/
theorem Sound.handle (h : Sound tries events p) (hname : p.name.connected = true)
    (hphase : p.phase = .acquiring ∨ p.phase = .serving) (e : Event V) :
    Sound tries (events ++ [e]) (p.handle e) := by
  have hexited : p.phase ≠ .exited 0 ∧ p.phase ≠ .crashed := by
    rcases hphase with hphase | hphase <;> simp [hphase]
  have hinvolved := h.involved hname hexited.1 e
  have hobjects : (Lifetime.system Nat).exec p.stages
      (((p.dbusData.involved e).map .use).filterMap ProcessEntry.object?) = some p.stages := by
    apply exec_use
    intro pointer hpointer k hk
    obtain ⟨j, rfl, hlive⟩ := hinvolved pointer hpointer
    rw [← Option.mem_some.mp hk]
    exact hlive
  have hclean : ∀ entry ∈ (p.dbusData.involved e).map ProcessEntry.use,
      entry.object?.isSome = true := by
    intro entry hentry
    obtain ⟨pointer, hpointer, rfl⟩ := List.mem_map.mp hentry
    obtain ⟨k, rfl, -⟩ := hinvolved pointer hpointer
    rfl
  have hdaemon := h.daemon
  rw [if_neg hexited.2] at hdaemon
  rw [stages_eq_firstLive hexited.1] at hobjects
  unfold Process.handle
  cases hperform : p.daemon.perform e with
  | ok _ d =>
      refine ⟨h.unconnected, h.made, h.ifaces, h.config, h.acquired, h.serving, ?_, ?_, ?_,
        h.loop⟩
      · refine h.objects_next rfl ?_
        rw [stages_eq_firstLive hexited.1, stages_eq_firstLive (by exact hexited.1)]
        exact hobjects
      · intro hcreated
        exact h.clean_next hcreated rfl hclean
      · rw [System.exec_append_of_exec hdaemon, System.exec_singleton, if_neg hexited.2]
        exact Daemon.step_eq_some.mpr hperform
  | error fault d =>
      refine ⟨h.unconnected, h.made, h.ifaces, h.config, h.acquired, ?_, ?_, ?_, ?_,
        fun hrunning => absurd rfl hrunning⟩
      · intro hserving
        rcases hserving with hserving | hserving <;> cases hserving
      · refine h.objects_next rfl ?_
        rw [stages_eq_firstLive hexited.1, stages_eq_firstLive (by simp)]
        exact hobjects
      · intro hcreated
        exact h.clean_next hcreated rfl hclean
      · rw [System.exec_append_of_exec hdaemon, System.exec_singleton, if_pos rfl]
        exact Daemon.step_of_error hperform

/-! ## The loops -/

/-- The debug proxy is not one of the interfaces, and it exists. -/
theorem Sound.config_bounds (h : Sound tries events p) {k : Nat}
    (hk : p.dbusData.debugLoggingConfigProxy = some k) : 3 ≤ k ∧ k < p.made := by
  rw [h.config] at hk
  split at hk
  next hlast =>
    have hmem : true ∈ tries := List.mem_of_getLast? hlast
    have hcount := List.count_pos_iff.mpr hmem
    have hmade := h.made (h.connected (List.ne_nil_of_mem hmem))
    rw [Option.some.injEq] at hk
    omega
  next => cases hk

/-- If every attempt has succeeded, then there is a debug proxy after one. -/
theorem Sound.config_eq (h : Sound tries events p) (htries : tries ≠ [])
    (hcreated : ∀ created ∈ tries, created = true) :
    p.dbusData.debugLoggingConfigProxy = some (p.made - 1) := by
  rw [h.config, List.getLast?_eq_some_getLast htries, hcreated _ (List.getLast_mem htries),
    if_pos rfl]

theorem Sound.endSetup (h : Sound tries events p) (hphase : p.phase = .acquiring)
    (hacquired : p.dbusData.nameAcquired ≠ 0) : Sound tries events p.endSetup := by
  have hrunning : p.phase ≠ .exited 0 := by simp [hphase]
  have hdaemon := h.daemon
  rw [if_neg (by simp [hphase])] at hdaemon
  have hobjects := h.objects
  rw [stages_eq_firstLive hrunning] at hobjects
  have hloop := h.loop (by simp [hphase])
  rw [if_neg (by simp [hphase])] at hloop
  unfold Process.endSetup
  split
  next hlost =>
    refine ⟨h.unconnected, h.made, h.ifaces, h.config, h.acquired, ?_, ?_, h.clean, hdaemon,
      ?_⟩
    · intro hserving
      rcases hserving with hserving | hserving <;> cases hserving
    · rw [stages_eq_firstLive (by simp)]
      exact hobjects
    · intro _
      exact hloop
  next hlost =>
    have htries := h.acquired (by omega)
    obtain ⟨hmanager, happliance, hdebug⟩ := h.ifaces (h.connected htries)
    have hlog : p.log ++ ProcessEntry.assertNotNull p.dbusData.audiopathManagerIface ++
        ProcessEntry.assertNotNull p.dbusData.audiopathApplianceIface ++
        ProcessEntry.assertNotNull p.dbusData.debugLoggingIface ++
        ProcessEntry.assertNotNull p.dbusData.debugLoggingConfigProxy ++
        [.use p.dbusData.debugLoggingConfigProxy] =
        p.log ++ (ProcessEntry.assertNotNull p.dbusData.debugLoggingConfigProxy ++
          [.use p.dbusData.debugLoggingConfigProxy]) := by
      rw [hmanager, happliance, hdebug]
      simp [ProcessEntry.assertNotNull]
    refine ⟨h.unconnected, h.made, h.ifaces, h.config, h.acquired, fun _ => htries, ?_, ?_,
      hdaemon, fun _ => congrArg (· + 1) hloop⟩
    · refine h.objects_next hlog ?_
      rw [stages_eq_firstLive hrunning, stages_eq_firstLive (by simp)]
      cases hconfig : p.dbusData.debugLoggingConfigProxy with
      | none => rfl
      | some k =>
          apply exec_use [some k]
          intro pointer hpointer j hj
          rw [List.mem_singleton.mp hpointer] at hj
          rw [← Option.mem_some.mp hj]
          exact if_pos (h.config_bounds hconfig).2
    · intro hcreated
      refine h.clean_next hcreated hlog ?_
      rw [h.config_eq htries hcreated]
      simp [ProcessEntry.assertNotNull, ProcessEntry.use, ProcessEntry.object?]

theorem Sound.dbusShutdown (h : Sound tries events p) (hphase : p.phase = .serving) :
    Sound tries events p.dbusShutdown := by
  have htries := h.serving (.inl hphase)
  have hconnected := h.connected htries
  obtain ⟨hmanager, happliance, hdebug⟩ := h.ifaces hconnected
  have hdaemon := h.daemon
  rw [if_neg (by simp [hphase])] at hdaemon
  have hloop := h.loop (by simp [hphase])
  rw [if_pos hphase] at hloop
  refine ⟨h.unconnected, h.made, h.ifaces, h.config, h.acquired, fun _ => htries, ?_, ?_,
    hdaemon, fun _ => congrArg (· - 1) hloop⟩
  · refine h.objects_next rfl ?_
    have hevents : [ProcessEntry.unref (some 0), .unref (some 1), .unref (some 2),
        .unref p.dbusData.debugLoggingConfigProxy].filterMap ProcessEntry.object? =
        ([0, 1, 2] ++ p.dbusData.debugLoggingConfigProxy.toList).map .destroyed := by
      cases p.dbusData.debugLoggingConfigProxy <;> rfl
    have hmember : ∀ k, k ∈ [0, 1, 2] ++ p.dbusData.debugLoggingConfigProxy.toList ↔
        k < 3 ∨ p.dbusData.debugLoggingConfigProxy = some k := by
      intro k
      have hfirst : k ∈ [0, 1, 2] ↔ k < 3 := by
        simp only [List.mem_cons, List.not_mem_nil, or_false]
        omega
      rw [List.mem_append, Option.mem_toList, hfirst]
    rw [stages_eq_firstLive (by simp [hphase]), hmanager, happliance, hdebug, hevents,
      Lifetime.exec_destroyed]
    · congr 1
      funext k
      unfold Process.stages Process.dbusShutdown
      simp only [hmember, true_and]
    · cases hconfig : p.dbusData.debugLoggingConfigProxy with
      | none => decide
      | some k =>
          have hbounds := h.config_bounds hconfig
          simp
          omega
    · intro k hk
      apply if_pos
      rcases (hmember k).mp hk with hk | hk
      · have hmade := h.made hconnected
        omega
      · exact (h.config_bounds hk).2
  · intro hcreated
    refine h.clean_next hcreated rfl ?_
    rw [hmanager, happliance, hdebug, h.config_eq htries hcreated]
    simp [ProcessEntry.unref, ProcessEntry.object?]

/-! ## Runs -/

omit [MaybeBool M] in
theorem running_of_dispatches {phase : Phase} {callback : Callback V}
    (h : phase.dispatches callback = true) : phase = .acquiring ∨ phase = .serving := by
  cases phase with
  | acquiring => exact .inl rfl
  | serving => exact .inr rfl
  | exited status => cases h
  | crashed => cases h

theorem Sound.iterate (h : Sound tries events p) (hiterate : p.iterate = some p') :
    Sound tries events p' := by
  unfold Process.iterate at hiterate
  cases hphase : p.phase with
  | acquiring =>
      simp only [hphase, Option.some.injEq] at hiterate
      rw [← hiterate]
      split
      next => exact h
      next hacquired => exact h.endSetup hphase hacquired
  | serving =>
      simp only [hphase, Option.some.injEq] at hiterate
      rw [← hiterate]
      split
      next => exact h.dbusShutdown hphase
      next => exact h
  | exited status => simp [hphase] at hiterate
  | crashed => simp [hphase] at hiterate

theorem Sound.dispatched (h : Sound tries events p) {callback : Callback V} {name : BusName}
    (hphase : p.phase.dispatches callback = true) (hname : p.name.after callback = some name) :
    Sound (tries ++ (Moment.dispatched callback).proxyCreated?.toList)
      (events ++ (Moment.dispatched callback).event?.toList)
      { p.callback callback with name } := by
  have hrunning := running_of_dispatches hphase
  have hexited : p.phase ≠ .exited 0 := by
    rcases hrunning with hrunning | hrunning <;> simp [hrunning]
  cases callback with
  | busAcquired =>
      simp only [Moment.proxyCreated?, Moment.event?, Option.toList_none, List.append_nil]
      cases hbefore : p.name with
      | wanted =>
          rw [hbefore] at hname
          obtain rfl : BusName.requested = name := Option.some.inj hname
          exact h.busAcquired (by rw [hbefore]; rfl) hexited
      | unreachable | requested | owned | lost =>
          rw [hbefore] at hname
          cases hname
  | nameAcquired created =>
      simp only [Moment.proxyCreated?, Moment.event?, Option.toList_none, List.append_nil,
        Option.toList_some]
      cases hbefore : p.name with
      | requested | lost =>
          rw [hbefore] at hname
          obtain rfl : BusName.owned = name := Option.some.inj hname
          exact h.nameAcquired (by rw [hbefore]; rfl) hexited created
      | wanted | unreachable | owned =>
          rw [hbefore] at hname
          cases hname
  | nameLost =>
      simp only [Moment.proxyCreated?, Moment.event?, Option.toList_none, List.append_nil]
      apply h.nameLost
      cases hbefore : p.name with
      | wanted | requested | owned =>
          rw [hbefore] at hname
          cases hname
          rfl
      | unreachable | lost =>
          rw [hbefore] at hname
          cases hname
  | handle e =>
      simp only [Moment.proxyCreated?, Moment.event?, Option.toList_none, List.append_nil,
        Option.toList_some]
      rw [BusName.after_handle, Option.ite_none_right_eq_some, Option.some.injEq] at hname
      obtain ⟨hconnected, hsame⟩ := hname
      have hkept : (p.handle e).name = p.name := by
        unfold Process.handle
        cases p.daemon.perform e <;> rfl
      rw [← hsame, ← hkept]
      exact h.handle hconnected hrunning e
  | unixSignal =>
      simp only [Moment.proxyCreated?, Moment.event?, Option.toList_none, List.append_nil]
      have hsame : p.name = name := by
        cases hbefore : p.name <;> rw [hbefore] at hname <;> exact Option.some.inj hname
      rw [← hsame]
      exact h.unixSignal

theorem Sound.step {evs : List (Moment V)} {m : Moment V}
    (h : Sound (attempts evs) (handled evs) p) (hstep : (system M V).step p m = some p') :
    Sound (attempts (evs ++ [m])) (handled (evs ++ [m])) p' := by
  rw [attempts_concat, handled_concat]
  cases m with
  | dispatched callback =>
      obtain ⟨hphase, hafter⟩ := Option.ite_none_right_eq_some.mp hstep
      obtain ⟨name, hname, rfl⟩ := Option.map_eq_some_iff.mp hafter
      exact h.dispatched hphase hname
  | iterated =>
      simp only [Moment.proxyCreated?, Moment.event?, Option.toList_none, List.append_nil]
      exact h.iterate hstep

theorem sound_of_run {evs : List (Moment V)} (h : (system M V).Run evs p) :
    Sound (attempts evs) (handled evs) p :=
  System.run_induction (P := fun evs p => Sound (attempts evs) (handled evs) p)
    (by exact Sound.initial) (fun _ _ _ _ _ hsound hstep => hsound.step hstep) h

/-- Within the process the daemon runs as it does by itself, whatever happens to the bus name
meanwhile.  No object is used before it is created or after it is destroyed.  When the process
exits normally it has destroyed everything it has created, except for the debug proxies that
were overwritten when the name was acquired again; the main loop keeps its first reference.
Functions are called with a null pointer, and assertions fail, only if a debug proxy could not
be created. -/
theorem process_accounted {evs : List (Moment V)} (h : (system M V).Run evs p) :
    ((Daemon.system M V).exec (Daemon.system M V).init (handled evs) =
      if p.phase = .crashed then none else some p.daemon) ∧
    (∃ live : Nat → Stage, (Lifetime.system Nat).Run p.objects live ∧
      (p.phase = .exited 0 → ∀ k, live k = .live ↔
        3 ≤ k ∧ k + (if (attempts evs).getLast? = some true then 1 else 0) <
          3 + (attempts evs).count true)) ∧
    (∀ status, p.phase = .exited status → p.loopReferences = 1) ∧
    ((∀ created ∈ attempts evs, created = true) →
      ∀ entry ∈ p.log, ∃ event, entry = .object event) := by
  have hsound := sound_of_run h
  refine ⟨hsound.daemon, ⟨p.stages, System.run_of_exec hsound.objects, ?_⟩, ?_, ?_⟩
  · intro hexited k
    have hmade := hsound.made (hsound.connected (hsound.serving (.inr hexited)))
    have hconfig := hsound.config
    rw [stages_eq_live]
    simp only [hexited, true_and]
    split
    next hlast =>
      rw [if_pos hlast] at hconfig
      have hbounds := hsound.config_bounds hconfig
      rw [hconfig, Option.some.injEq]
      omega
    next hlast =>
      rw [if_neg hlast] at hconfig
      simp only [hconfig, reduceCtorEq, or_false]
      omega
  · intro status hexited
    rw [hsound.loop (by simp [hexited]), if_neg (by simp [hexited])]
  · intro hcreated entry hentry
    have hobject := hsound.clean hcreated entry hentry
    cases entry with
    | object event => exact ⟨event, rfl⟩
    | critical | assertionFailed => cases hobject

/-- The name is lost and acquired again before the process is asked to terminate. -/
def reacquiringMoments : List (Moment Unit) :=
  [.dispatched .busAcquired, .dispatched (.nameAcquired true), .iterated,
    .dispatched .nameLost, .dispatched (.nameAcquired true),
    .dispatched (.handle (.registerPlayer 0 "player" "Player" "/player" ":1.1")), .iterated,
    .dispatched .unixSignal, .iterated]

/-- The first debug proxy is leaked. -/
theorem process_accounted_reacquired : ∃ p : Process (Option Bool) Unit,
    (system (Option Bool) Unit).Run reacquiringMoments p ∧ p.phase = .exited 0 ∧
      ∃ live : Nat → Stage, (Lifetime.system Nat).Run p.objects live ∧
        ∀ k, live k = .live ↔ k = 3 := by
  have hexec : ((system (Option Bool) Unit).exec (system (Option Bool) Unit).init
      reacquiringMoments).map (fun p => p.phase) = some (.exited 0) := by decide +kernel
  obtain ⟨p, hrun, hexited⟩ := System.exists_run_of_exec hexec
  obtain ⟨-, ⟨live, hlive, hleaked⟩, -⟩ := process_accounted hrun
  refine ⟨p, hrun, hexited, live, hlive, fun k => ?_⟩
  have hlast : (attempts reacquiringMoments).getLast? = some true := rfl
  have hcount : (attempts reacquiringMoments).count true = 2 := rfl
  rw [hleaked hexited, hlast, hcount, if_pos rfl]
  omega

end Process

end TapSwitch
