import Mathlib.Data.List.Nodup
import TapSwitch.Library.Trace
import TapSwitch.Queue

set_option autoImplicit false

/-!
# Which proxy is stored

A registration is carried out when its proxy has been created, and proxies are created
asynchronously.  If a process restarts and registers again, two creations are under way
for the same ID.  This file follows both and tells whose proxy is stored in the end.
-/

namespace TapSwitch

open Library

variable {M V : Type}

/-- What is registered under an ID of its own. -/
inductive Component where
  | player (id : String)
  | source (id : String)
  deriving DecidableEq, Repr

/-- The component the creation is for. -/
def Creation.component : Creation → Component
  | .player _ _ playerId .. => .player playerId
  | .source _ _ sourceId .. => .source sourceId

/-- The proxy, if it can be created. -/
def Creation.proxy : Creation → Proxy
  | .player _ invocation _ _ dest path => ⟨invocation, dest, path⟩
  | .source _ invocation _ _ _ dest path => ⟨invocation, dest, path⟩

/-- What is stored as the proxy of the component, if it is registered. -/
def Paths.proxyOf (paths : Paths) : Component → Option (Option Proxy)
  | .player id => (paths.lookupPlayer id).map (·.dbusProxy)
  | .source id => (paths.lookupSource id).map (·.dbusProxy)

/-! ## The creations of a run -/

/-- All creations: which have been asked for, which are still under way, and which have
completed, with success or without, each in order. -/
structure CreationBook where
  received : List Creation := []
  waiting : List Creation := []
  completed : List (Creation × Bool) := []

namespace CreationBook

/-- What the event number `invocation` changes. -/
def enter (book : CreationBook) (invocation : Nat) : Event V → CreationBook
  | .proxyDone index success =>
      match book.waiting[index]? with
      | none => book
      | some creation =>
          { book with
            waiting := book.waiting.eraseIdx index
            completed := book.completed ++ [(creation, success)] }
  | e =>
      match e.creation invocation with
      | none => book
      | some creation =>
          { book with
            received := book.received ++ [creation]
            waiting := book.waiting ++ [creation] }

/-- The creation asked for by the most recent registration of each component. -/
def lastReceived (book : CreationBook) : Component → Option Creation :=
  latest (fun c => some (c.component, some c)) none book.received

/-- The creation for each component that has completed last. -/
def lastCompleted (book : CreationBook) : Component → Option (Creation × Bool) :=
  latest (fun c => some (c.1.component, some c)) none book.completed

end CreationBook

/-- The creations of a list of events. -/
def creationBook (evs : List (Event V)) : CreationBook :=
  evs.zipIdx.foldl (fun book e => book.enter e.2 e.1) {}

@[simp] theorem creationBook_nil : creationBook ([] : List (Event V)) = {} := rfl

theorem creationBook_concat (evs : List (Event V)) (e : Event V) :
    creationBook (evs ++ [e]) = (creationBook evs).enter evs.length e := by
  simp [creationBook, List.zipIdx_append]

namespace CreationBook

variable {book : CreationBook} {n : Nat} {e : Event V}

theorem enter_creation {creation : Creation} (h : e.creation n = some creation) :
    book.enter n e =
      { book with
        received := book.received ++ [creation]
        waiting := book.waiting ++ [creation] } := by
  cases e with
  | registerPlayer | registerSource => simp [enter, h]
  | proxyDone | requestSource | releasePath | setReadyState | query =>
      simp [Event.creation] at h

theorem enter_proxyDone {index : Nat} {success : Bool} {creation : Creation}
    (h : book.waiting[index]? = some creation) :
    book.enter n (.proxyDone index success : Event V) =
      { book with
        waiting := book.waiting.eraseIdx index
        completed := book.completed ++ [(creation, success)] } := by
  simp [enter, h]

theorem enter_noCreation {index : Nat} {success : Bool} (h : book.waiting[index]? = none) :
    book.enter n (.proxyDone index success : Event V) = book := by
  simp [enter, h]

/-- Everything else is not entered. -/
theorem enter_other (h : e.creation n = none)
    (hdone : ∀ index success, e ≠ .proxyDone index success) : book.enter n e = book := by
  cases e with
  | proxyDone index success => exact absurd rfl (hdone index success)
  | registerPlayer | registerSource | requestSource | releasePath | setReadyState | query =>
      simp [enter, h]

end CreationBook

/-- The books are in order: no two creations are for the same call, and none completes that
has not been asked for. -/
structure CreationBook.Orderly (book : CreationBook) (n : Nat) : Prop where
  past : ∀ c ∈ book.received, c.invocation < n
  distinct : (book.received.map Creation.invocation).Nodup
  waiting : ∀ c ∈ book.waiting, c ∈ book.received
  completed : ∀ c ∈ book.completed, c.1 ∈ book.received

theorem CreationBook.Orderly.enter {book : CreationBook} {n : Nat} (h : book.Orderly n)
    (e : Event V) : (book.enter n e).Orderly (n + 1) := by
  have hlater : book.Orderly (n + 1) :=
    ⟨fun c hc => Nat.lt_succ_of_lt (h.past c hc), h.distinct, h.waiting, h.completed⟩
  cases hcreation : e.creation n with
  | some creation =>
      have hinvocation := (invocation_of_creation hcreation).1
      rw [CreationBook.enter_creation hcreation]
      refine ⟨?_, ?_, ?_, ?_⟩
      · intro c hc
        rcases List.mem_append.mp hc with hold | hnew
        · exact hlater.past c hold
        · rw [List.mem_singleton.mp hnew, hinvocation]
          exact Nat.lt_succ_self n
      · rw [List.map_append, List.nodup_append]
        refine ⟨h.distinct, by simp, ?_⟩
        rintro i hi j hj rfl
        obtain ⟨c, hc, rfl⟩ := List.mem_map.mp hi
        have hlt := h.past c hc
        simp [hinvocation] at hj
        omega
      · intro c hc
        rcases List.mem_append.mp hc with hold | hnew
        · exact List.mem_append_left _ (h.waiting c hold)
        · exact List.mem_append_right _ hnew
      · exact fun c hc => List.mem_append_left _ (h.completed c hc)
  | none =>
      by_cases hdone : ∃ index success, e = .proxyDone index success
      · obtain ⟨index, success, rfl⟩ := hdone
        cases hwaiting : book.waiting[index]? with
        | none => rwa [CreationBook.enter_noCreation hwaiting]
        | some creation =>
            rw [CreationBook.enter_proxyDone hwaiting]
            refine ⟨hlater.past, h.distinct,
              fun c hc => h.waiting c (List.mem_of_mem_eraseIdx hc), ?_⟩
            intro c hc
            rcases List.mem_append.mp hc with hold | hnew
            · exact h.completed c hold
            · rw [List.mem_singleton.mp hnew]
              exact h.waiting creation (List.mem_of_getElem? hwaiting)
      · rwa [CreationBook.enter_other hcreation
          fun index success heq => hdone ⟨index, success, heq⟩]

theorem orderly_creationBook (evs : List (Event V)) :
    (creationBook evs).Orderly evs.length := by
  induction evs using List.reverseRecOn with
  | nil => exact ⟨by simp, by simp, by simp, by simp⟩
  | append_singleton rest e ih =>
      rw [creationBook_concat, List.length_append, List.length_singleton]
      exact ih.enter e

/-! ## The proxies in the registry -/

theorem proxyOf_addPlayer (paths : Paths) (player : Player) :
    (paths.addPlayer player).1.proxyOf =
      Function.update paths.proxyOf (.player player.id) (some player.dbusProxy) := by
  funext k
  by_cases hk : k = .player player.id
  · subst hk
    obtain ⟨stored, hstored, hproxy⟩ := Paths.addPlayer_dbusProxy paths player
    simp [Paths.proxyOf, hstored, hproxy]
  · rw [Function.update_of_ne hk]
    cases k with
    | player id =>
        have hid : player.id ≠ id := fun heq => hk (heq ▸ rfl)
        simp only [Paths.proxyOf, Paths.addPlayer_lookupPlayer, if_neg hid]
    | source id => rfl

theorem proxyOf_addSource (paths : Paths) (source : Source) :
    (paths.addSource source).1.proxyOf =
      Function.update paths.proxyOf (.source source.id) (some source.dbusProxy) := by
  funext k
  by_cases hk : k = .source source.id
  · subst hk
    obtain ⟨stored, hstored, hproxy⟩ := Paths.addSource_dbusProxy paths source
    simp [Paths.proxyOf, hstored, hproxy]
  · rw [Function.update_of_ne hk]
    cases k with
    | player id => rfl
    | source id =>
        have hid : source.id ≠ id := fun heq => hk (heq ▸ rfl)
        simp only [Paths.proxyOf, Paths.addSource_lookupSource, if_neg hid]

/-- The proxy that a completed creation has yielded. -/
def yielded (c : Creation × Bool) : Option Proxy := if c.2 then some c.1.proxy else none

/-- What has completed last is stored. -/
structure Booked [MaybeBool M] (evs : List (Event V)) (d : Daemon M V) : Prop where
  waiting : d.creations = (creationBook evs).waiting
  stored : ∀ k, d.data.audioPaths.proxyOf k = ((creationBook evs).lastCompleted k).map yielded

section Step

variable [MaybeBool M] {evs : List (Event V)} {e : Event V} {d d' : Daemon M V}

/-- A registration without empty arguments starts a creation, and that is all. -/
theorem creation_step (hstep : (Daemon.system M V).step d e = some d') {creation : Creation}
    (hcreation : e.creation d.served = some creation) :
    d' = { d.next with creations := d.creations ++ [creation] } := by
  have hperform := d.perform_registration (Event.registers_of_creation hcreation)
  rw [Daemon.step_eq_some.mp hstep, hcreation, EStateM.Result.ok.injEq] at hperform
  exact hperform.2

theorem lastCompleted_concat (book : CreationBook) (creation : Creation) (success : Bool)
    (waiting : List Creation) :
    ({ book with
        waiting := waiting
        completed := book.completed ++ [(creation, success)] } : CreationBook).lastCompleted =
      Function.update book.lastCompleted creation.component (some (creation, success)) := by
  simp [CreationBook.lastCompleted, latest_concat]

/-- A creation completes: its proxy is stored. -/
theorem Booked.done {index : Nat} {success : Bool} {creation : Creation}
    (h : Booked evs d) (hcreation : d.creations[index]? = some creation)
    (hcreations : d'.creations = d.creations.eraseIdx index)
    (hpaths : d'.data.audioPaths.proxyOf = Function.update d.data.audioPaths.proxyOf
      creation.component (some (yielded (creation, success)))) :
    Booked (evs ++ [.proxyDone index success]) d' := by
  have hwaiting : (creationBook evs).waiting[index]? = some creation := h.waiting ▸ hcreation
  have hbook := creationBook_concat evs (.proxyDone index success)
  rw [CreationBook.enter_proxyDone hwaiting] at hbook
  refine ⟨by rw [hcreations, hbook, h.waiting], fun k => ?_⟩
  rw [hpaths, hbook, lastCompleted_concat]
  by_cases hk : k = creation.component
  · subst hk
    simp
  · rw [Function.update_of_ne hk, Function.update_of_ne hk]
    exact h.stored k

/-- Nothing is entered into the books, and nothing changes. -/
theorem Booked.keep (h : Booked evs d)
    (hbook : (creationBook evs).enter evs.length e = creationBook evs)
    (hcreations : d'.creations = d.creations) (hpaths : d'.data.audioPaths = d.data.audioPaths) :
    Booked (evs ++ [e]) d' := by
  refine ⟨?_, fun k => ?_⟩
  · rw [creationBook_concat, hbook, hcreations, h.waiting]
  · rw [creationBook_concat, hbook, hpaths]
    exact h.stored k

theorem Booked.step (h : Booked evs d) (hserved : d.served = evs.length)
    (hnext : (Daemon.system M V).step d e = some d') (hstep : Steps d e d') :
    Booked (evs ++ [e]) d' := by
  cases hcreation : e.creation evs.length with
  | some creation =>
      have hd' := creation_step hnext (hserved ▸ hcreation)
      have hbook := creationBook_concat evs e
      rw [CreationBook.enter_creation hcreation] at hbook
      refine ⟨?_, fun k => ?_⟩
      · rw [hd', hbook, ← h.waiting]
      · rw [hd', hbook]
        exact h.stored k
  | none =>
      have hother : (∀ index success, e ≠ .proxyDone index success) →
          (creationBook evs).enter evs.length e = creationBook evs :=
        CreationBook.enter_other hcreation
      cases hstep with
      | answered hpassive =>
          refine h.keep (hother ?_) rfl rfl
          rintro index success rfl
          exact hpassive
      | creating hsome =>
          rw [hserved, hcreation] at hsome
          cases hsome
      | noCreation hnone =>
          exact h.keep (CreationBook.enter_noCreation (h.waiting ▸ hnone)) rfl rfl
      | playerRegistered hdone => exact h.done hdone rfl (proxyOf_addPlayer _ _)
      | sourceRegistered hdone => exact h.done hdone rfl (proxyOf_addSource _ _)
      | requested | released | completed | canceled | postponed =>
          exact h.keep (hother (by simp)) rfl rfl

end Step

namespace Daemon

variable [MaybeBool M]

theorem booked_of_run {evs : List (Event V)} {d : Daemon M V} (h : (system M V).Run evs d) :
    Booked evs d := by
  refine System.run_induction (P := Booked) ⟨rfl, ?_⟩ ?_ h
  · intro k
    cases k <;> simp [Paths.proxyOf, system, initial, CreationBook.lastCompleted]
  · intro evs d e d' hrun ih hstep
    exact ih.step (accounted_of_run hrun).served hstep (steps_of_step hrun.reachable hstep)

end Daemon

/-! ## Restarted processes -/

/-- The proxy stored for each component is the one that its most recent registration has
brought. -/
def LatestStored (book : CreationBook) (paths : Paths) : Prop :=
  ∀ k c, book.lastReceived k = some c → paths.proxyOf k = some (some c.proxy)

/-- For each component, the creation asked for by its most recent registration is the last
one to complete. -/
def CreationBook.InOrder (book : CreationBook) : Prop :=
  ∀ k c, book.lastReceived k = some c → (book.lastCompleted k).map Prod.fst = some c

/-- All creations that have completed have been successful. -/
def CreationBook.Successful (book : CreationBook) : Prop := ∀ c ∈ book.completed, c.2 = true

section

variable {book : CreationBook} {n : Nat}

theorem CreationBook.mem_received {k : Component} {c : Creation}
    (h : book.lastReceived k = some c) : c ∈ book.received :=
  mem_of_latest (fun e => ⟨e.component, rfl⟩) h

theorem CreationBook.mem_completed {k : Component} {c : Creation × Bool}
    (h : book.lastCompleted k = some c) : c ∈ book.completed :=
  mem_of_latest (fun e => ⟨e.1.component, rfl⟩) h

theorem Creation.proxy_registration (c : Creation) : c.proxy.registration = c.invocation := by
  cases c <;> rfl

/-- Each creation brings a proxy of its own. -/
theorem CreationBook.Orderly.eq_of_proxy (h : book.Orderly n) {c c' : Creation}
    (hc : c ∈ book.received) (hc' : c' ∈ book.received) (hproxy : c.proxy = c'.proxy) :
    c = c' := by
  refine List.inj_on_of_nodup_map h.distinct hc hc' ?_
  rw [← c.proxy_registration, ← c'.proxy_registration, hproxy]

end

namespace Daemon

variable [MaybeBool M]

/-- In every run whose proxy creations succeed, the registry has the proxies of the most
recent registrations if and only if no creation is overtaken by an earlier one for the same
ID. -/
theorem latestStored_iff_inOrder {evs : List (Event V)} {d : Daemon M V}
    (h : (system M V).Run evs d) (hsuccess : (creationBook evs).Successful) :
    LatestStored (creationBook evs) d.data.audioPaths ↔ (creationBook evs).InOrder := by
  have hbooked := booked_of_run h
  have horderly := orderly_creationBook evs
  refine forall_congr' fun k => forall_congr' fun c => ?_
  refine imp_congr_right fun hlast => ?_
  rw [hbooked.stored k]
  cases hdone : (creationBook evs).lastCompleted k with
  | none => simp
  | some done =>
      have hmem := CreationBook.mem_completed hdone
      have hyielded : yielded done = some done.1.proxy := by
        rw [yielded, if_pos (hsuccess done hmem)]
      simp only [Option.map_some, hyielded, Option.some.injEq]
      constructor
      · exact horderly.eq_of_proxy (horderly.completed done hmem)
          (CreationBook.mem_received hlast)
      · exact fun heq => heq ▸ rfl

/-- A player registers, restarts, and registers again.  Its new proxy is created first. -/
def overtakingEvents : List (Event Unit) :=
  [.registerPlayer 0 "player" "Player" "/player" ":1.1",
    .registerPlayer 0 "player" "Player" "/player" ":1.2",
    .proxyDone 1 true, .proxyDone 0 true]

/-- Then the old one is stored for good. -/
theorem not_always_latestStored :
    ¬ ∀ (evs : List (Event Unit)) (d : Daemon (Option Bool) Unit),
      (system (Option Bool) Unit).Run evs d → (creationBook evs).Successful →
      d.creations = [] → LatestStored (creationBook evs) d.data.audioPaths := by
  intro hall
  have hexec : ((system (Option Bool) Unit).exec (system (Option Bool) Unit).init
      overtakingEvents).map (fun d => (d.creations, d.data.audioPaths.proxyOf (.player "player"))) =
      some ([], some (some ⟨0, ":1.1", "/player"⟩)) := by decide +kernel
  obtain ⟨d, hrun, hseen⟩ := System.exists_run_of_exec hexec
  obtain ⟨hcreations, hproxy⟩ := Prod.mk.inj hseen
  have hsuccessful : CreationBook.Successful (creationBook overtakingEvents) := by
    simp [CreationBook.Successful, overtakingEvents, creationBook, CreationBook.enter,
      Event.creation]
  have hlatest := hall overtakingEvents d hrun hsuccessful hcreations
    (.player "player") (.player 0 1 "player" "Player" ":1.2" "/player") (by decide)
  rw [hproxy] at hlatest
  exact absurd hlatest (by decide)

/-- If the creations complete in order, the new one is. -/
theorem latestStored_iff_inOrder_restarted : ∃ d : Daemon (Option Bool) Unit,
    (system (Option Bool) Unit).Run (overtakingEvents.take 2 ++
      [.proxyDone 0 true, .proxyDone 0 true]) d ∧
    d.data.audioPaths.proxyOf (.player "player") = some (some ⟨1, ":1.2", "/player"⟩) := by
  have hexec : ((system (Option Bool) Unit).exec (system (Option Bool) Unit).init
      (overtakingEvents.take 2 ++ [.proxyDone 0 true, .proxyDone 0 true])).isSome = true := by
    decide +kernel
  obtain ⟨d, hd⟩ := Option.isSome_iff_exists.mp hexec
  have hrun := System.run_of_exec hd
  refine ⟨d, hrun, (latestStored_iff_inOrder hrun ?_).mpr ?_ (.player "player")
    (.player 0 1 "player" "Player" ":1.2" "/player") rfl⟩
  · simp [CreationBook.Successful, overtakingEvents, creationBook, CreationBook.enter,
      Event.creation]
  · intro k c hlast
    by_cases hk : k = .player "player"
    · subst hk
      exact hlast
    · simp [CreationBook.lastReceived, latest, overtakingEvents, creationBook,
        CreationBook.enter, Event.creation, Creation.component, Function.update, hk] at hlast

end Daemon

end TapSwitch
