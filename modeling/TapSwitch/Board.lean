import Mathlib.Logic.Function.Basic
import TapSwitch.Library.Refinement

set_option autoImplicit false

/-!
# What the daemon is for

One audio device is shared by many players, each of which plays for many sources.
The board says what is being done with the device: nothing, a player holds it, a source
plays through its player, or a source waits for the appliance while its player holds the
device already.  Clients ask for sources and release the path, components enroll, and
the appliance reports whether it is suspended and whether its audio path is blocked.

This is the abstract model, over arbitrary types of sources, players and clients.  It has
no empty strings that mean nothing, no result codes and no second bookkeeping for waiting
clients: whoever waits is part of the route.  A board carries the proof that its route
makes sense.
-/

namespace TapSwitch

open Library

/-- Who has enrolled: the players, and the player that each source names. -/
@[ext] structure Directory (S P : Type) where
  players : P → Bool
  owner : S → Option P

/-- What is being done with the device. -/
inductive Route (S P C : Type) where
  | silent
  /-- The player holds the device and plays nothing. -/
  | parked (player : P)
  | playing (source : S) (player : P)
  /-- The player holds the device, the source waits for the appliance.  `switched` says
  whether another player has had to give way, `first` is the client that has asked for the
  source, `more` are those that have asked for it again. -/
  | waiting (source : S) (player : P) (switched : Bool) (first : C) (more : List C)

/-- What players and sources answer when they are asked to start. -/
structure Answers where
  /-- The player takes the device. -/
  player : Bool
  /-- The source starts at once. -/
  start : Bool
  /-- The source waits for the appliance. -/
  hold : Bool

/-- Everybody does what they are asked to. -/
def Answers.willing : Answers := ⟨true, true, true⟩

variable {S P C : Type}

namespace Directory

/-- The directory nobody has enrolled in. -/
def empty : Directory S P where
  players _ := false
  owner _ := none

/-- The player of a source, if both have enrolled. -/
def playerOf (dir : Directory S P) (s : S) : Option P := (dir.owner s).filter dir.players

/-- Enroll a player. -/
def enrollPlayer [DecidableEq P] (dir : Directory S P) (p : P) : Directory S P :=
  { dir with players := Function.update dir.players p true }

/-- Enroll a source.  It stays with the player it has named first. -/
def enrollSource [DecidableEq S] (dir : Directory S P) (s : S) (p : P) : Directory S P :=
  { dir with owner := Function.update dir.owner s (some ((dir.owner s).getD p)) }

variable {dir : Directory S P} {s : S} {p : P}

theorem playerOf_eq_some : dir.playerOf s = some p ↔ dir.owner s = some p ∧ dir.players p := by
  simp [playerOf]

theorem playerOf_enrollPlayer [DecidableEq P] (h : dir.playerOf s = some p) (q : P) :
    (dir.enrollPlayer q).playerOf s = some p := by
  obtain ⟨howner, hplayer⟩ := playerOf_eq_some.mp h
  refine playerOf_eq_some.mpr ⟨howner, ?_⟩
  by_cases hq : p = q <;> simp [enrollPlayer, hq, hplayer]

theorem playerOf_enrollSource [DecidableEq S] (h : dir.playerOf s = some p) (t : S) (q : P) :
    (dir.enrollSource t q).playerOf s = some p := by
  obtain ⟨howner, hplayer⟩ := playerOf_eq_some.mp h
  refine playerOf_eq_some.mpr ⟨?_, hplayer⟩
  by_cases ht : s = t
  · subst ht
    simp [enrollSource, howner]
  · simp [enrollSource, Function.update_of_ne ht, howner]

end Directory

namespace Route

/-- The source that plays or waits. -/
def source? : Route S P C → Option S
  | .silent | .parked _ => none
  | .playing s _ | .waiting s _ _ _ _ => some s

/-- The player that holds the device. -/
def player? : Route S P C → Option P
  | .silent => none
  | .parked p | .playing _ p | .waiting _ p _ _ _ => some p

/-- The clients that wait, in the order in which they have asked. -/
def callers : Route S P C → List C
  | .waiting _ _ _ first more => first :: more
  | _ => []

/-- Whoever waits is sent away. -/
def settle : Route S P C → Route S P C
  | .waiting _ p _ _ _ => .parked p
  | r => r

/-- Another client asks for what is playing or waiting already. -/
def join (c : C) : Route S P C → Route S P C
  | .waiting s p switched first more => .waiting s p switched first (more ++ [c])
  | r => r

/-- The route makes sense: what plays or waits belongs to the player that holds the device,
a player that holds it has been asked for through one of its sources, and nobody waits
for an appliance that is ready. -/
def Sound (dir : Directory S P) (ready : Bool) : Route S P C → Prop
  | .silent => True
  | .parked p => ∃ s, dir.playerOf s = some p
  | .playing s p => dir.playerOf s = some p
  | .waiting s p _ _ _ => dir.playerOf s = some p ∧ ready = false

/-- The device is given to another source of the player, which takes it first unless it
holds it already. -/
def hand [DecidableEq P] (ready : Bool) (answers : Answers) (c : C) (r : Route S P C)
    (s : S) (p : P) : Route S P C :=
  if r.player? ≠ some p ∧ answers.player = false then .silent
  else if ready then
    if answers.start then .playing s p else .parked p
  else
    if answers.hold then .waiting s p (r.player? ≠ some p) c [] else .parked p

/-- A client asks for a source. -/
def request [DecidableEq S] [DecidableEq P] (dir : Directory S P) (ready : Bool)
    (answers : Answers) (c : C) (r : Route S P C) : Option S → Route S P C
  | none => r.settle
  | some s =>
      if r.source? = some s then r.join c
      else
        match dir.playerOf s with
        | none => r.settle
        | some p => r.hand ready answers c s p

/-- A client releases the path. -/
def release (killPlayer : Bool) (r : Route S P C) : Route S P C :=
  if killPlayer then .silent
  else
    match r.player? with
    | none => .silent
    | some p => .parked p

/-- The appliance has got ready: the source that waits starts. -/
def start (answers : Answers) : Route S P C → Route S P C
  | .waiting s p _ _ _ => if answers.start then .playing s p else .parked p
  | r => r

/-- A player that refuses the device ends it all. -/
theorem hand_refused [DecidableEq P] {answers : Answers} {r : Route S P C} {p : P}
    (h : r.player? ≠ some p ∧ answers.player = false) (ready : Bool) (c : C) (s : S) :
    r.hand ready answers c s p = .silent := if_pos h

/-- A player that has the device starts the source or keeps it waiting, if it can. -/
theorem hand_taken [DecidableEq P] {answers : Answers} {r : Route S P C} {p : P}
    (h : ¬ (r.player? ≠ some p ∧ answers.player = false)) (ready : Bool) (c : C) (s : S) :
    r.hand ready answers c s p =
      if ready then
        if answers.start then .playing s p else .parked p
      else
        if answers.hold then .waiting s p (r.player? ≠ some p) c [] else .parked p := if_neg h

variable {dir dir' : Directory S P} {ready : Bool} {r : Route S P C}

theorem Sound.settle (h : r.Sound dir ready) (ready' : Bool) : r.settle.Sound dir ready' := by
  cases r with
  | silent => trivial
  | parked p => exact h
  | playing s p => exact h
  | waiting s p switched first more => exact ⟨s, h.1⟩

theorem Sound.join (h : r.Sound dir ready) (c : C) : (r.join c).Sound dir ready := by
  cases r <;> exact h

/-- The player that holds the device has been asked for. -/
theorem Sound.player (h : r.Sound dir ready) {p : P} (hp : r.player? = some p) :
    ∃ s, dir.playerOf s = some p := by
  cases r with
  | silent => cases hp
  | parked q => exact Option.some.inj hp ▸ h
  | playing s q => exact Option.some.inj hp ▸ ⟨s, h⟩
  | waiting s q switched first more => exact Option.some.inj hp ▸ ⟨s, h.1⟩

theorem Sound.hand [DecidableEq P] {s : S} {p : P} (hp : dir.playerOf s = some p)
    (ready : Bool) (answers : Answers) (c : C) (r : Route S P C) :
    (r.hand ready answers c s p).Sound dir ready := by
  unfold Route.hand
  split
  · trivial
  · cases ready with
    | true =>
        cases answers.start with
        | true => exact hp
        | false => exact ⟨s, hp⟩
    | false =>
        cases answers.hold with
        | true => exact ⟨hp, rfl⟩
        | false => exact ⟨s, hp⟩

theorem Sound.request [DecidableEq S] [DecidableEq P] (h : r.Sound dir ready)
    (answers : Answers) (c : C) (s? : Option S) :
    (r.request dir ready answers c s?).Sound dir ready := by
  cases s? with
  | none => exact h.settle ready
  | some s =>
      simp only [Route.request]
      split
      · exact h.join c
      · cases hp : dir.playerOf s with
        | none => exact h.settle ready
        | some p => exact .hand hp ready answers c r

theorem Sound.release (h : r.Sound dir ready) (killPlayer : Bool) :
    (r.release killPlayer).Sound dir ready := by
  unfold Route.release
  split
  · trivial
  · split
    · trivial
    · rename_i p hp
      exact h.player hp

theorem Sound.start (h : r.Sound dir ready) (answers : Answers) (ready' : Bool) :
    (r.start answers).Sound dir ready' := by
  cases r with
  | silent => trivial
  | parked p => exact h
  | playing s p => exact h
  | waiting s p switched first more =>
      simp only [Route.start]
      cases answers.start with
      | true => exact h.1
      | false => exact ⟨s, h.1⟩

/-- If nobody waits, nothing starts when the appliance gets ready. -/
theorem start_of_settle (h : r.settle = r) (answers : Answers) : r.start answers = r := by
  cases r with
  | waiting s p switched first more => cases h
  | silent | parked | playing => rfl

/-- Any route is fine while the appliance is not ready. -/
theorem Sound.halt (h : r.Sound dir ready) : r.Sound dir false := by
  cases r with
  | silent => trivial
  | parked p => exact h
  | playing s p => exact h
  | waiting s p switched first more => exact ⟨h.1, rfl⟩

/-- Enrollments take nothing away. -/
theorem Sound.mono (h : r.Sound dir ready)
    (hext : ∀ s p, dir.playerOf s = some p → dir'.playerOf s = some p) :
    r.Sound dir' ready := by
  cases r with
  | silent => trivial
  | parked p => exact h.imp fun s hs => hext s p hs
  | playing s p => exact hext s p h
  | waiting s p switched first more => exact ⟨hext s p h.1, h.2⟩

end Route

/-- The directory, what is known about the appliance, and a route that makes sense. -/
@[ext] structure Board (S P C : Type) where
  directory : Directory S P
  /-- The appliance has last said that it is suspended. -/
  suspended : Bool
  /-- The appliance has last said that its audio path is blocked. -/
  blocked : Bool
  route : Route S P C
  sound : route.Sound directory (!suspended && !blocked)

/-- What can happen to a board. -/
inductive Move (S P C : Type) where
  | enrollPlayer (player : P)
  | enrollSource (source : S) (player : P)
  /-- A client asks for a source, or for something that is not even a name of one. -/
  | request (source : Option S) (client : C) (answers : Answers)
  | release (killPlayer : Bool)
  | report (suspended blocked : Bool) (answers : Answers)

/-- Somebody enrolls. -/
def Move.Enrolls : Move S P C → Prop
  | .enrollPlayer _ | .enrollSource _ _ => True
  | .request .. | .release _ | .report .. => False

namespace Board

/-- Nobody has enrolled, and nothing is known about the appliance. -/
def initial : Board S P C := ⟨.empty, false, false, .silent, trivial⟩

/-- Is the appliance, as far as known, ready to play? -/
def ready (b : Board S P C) : Bool := !b.suspended && !b.blocked

/-- The route after the appliance has reported.  Being suspended sends everybody away,
but staying suspended does not. -/
def routeReported (b : Board S P C) (suspended blocked : Bool) (answers : Answers) :
    Route S P C :=
  if !suspended && !blocked then b.route.start answers
  else if suspended && !b.suspended then b.route.settle
  else b.route

theorem sound_routeReported (b : Board S P C) (suspended blocked : Bool) (answers : Answers) :
    (b.routeReported suspended blocked answers).Sound b.directory (!suspended && !blocked) := by
  unfold routeReported
  split
  · exact b.sound.start answers _
  · split
    · exact b.sound.settle _
    · rename_i hready _
      rw [Bool.not_eq_true] at hready
      rw [hready]
      exact b.sound.halt

/-- If nobody waits, a report changes nothing about the route. -/
theorem routeReported_of_settle {b : Board S P C} (h : b.route.settle = b.route)
    (suspended blocked : Bool) (answers : Answers) :
    b.routeReported suspended blocked answers = b.route := by
  unfold routeReported
  rw [Route.start_of_settle h, h]
  split
  · rfl
  · split <;> rfl

variable [DecidableEq S] [DecidableEq P]

/-- The board after a move. -/
def after (b : Board S P C) : Move S P C → Board S P C
  | .enrollPlayer p =>
      { b with
        directory := b.directory.enrollPlayer p
        sound := b.sound.mono fun _ _ h => Directory.playerOf_enrollPlayer h p }
  | .enrollSource s p =>
      { b with
        directory := b.directory.enrollSource s p
        sound := b.sound.mono fun _ _ h => Directory.playerOf_enrollSource h s p }
  | .request s? c answers =>
      { b with
        route := b.route.request b.directory b.ready answers c s?
        sound := b.sound.request answers c s? }
  | .release killPlayer =>
      { b with
        route := b.route.release killPlayer
        sound := b.sound.release killPlayer }
  | .report suspended blocked answers =>
      { b with
        suspended
        blocked
        route := b.routeReported suspended blocked answers
        sound := b.sound_routeReported suspended blocked answers }

variable (S P C) in
/-- Boards as a transition system.  Every move is possible on every board. -/
def system : System (Board S P C) (Move S P C) where
  init := initial
  step b m := some (b.after m)

/-- The board after several moves. -/
def afterAll (b : Board S P C) (ms : List (Move S P C)) : Board S P C := ms.foldl after b

theorem afterAll_append (b : Board S P C) (ms more : List (Move S P C)) :
    b.afterAll (ms ++ more) = (b.afterAll ms).afterAll more := List.foldl_append

theorem exec_eq (b : Board S P C) (ms : List (Move S P C)) :
    (system S P C).exec b ms = some (b.afterAll ms) := by
  induction ms generalizing b with
  | nil => rfl
  | cons m rest ih => exact ih (b.after m)

/-! ## From every board to every other one -/

/-- The board with nothing going on and an appliance that is ready. -/
def idle (dir : Directory S P) : Board S P C := ⟨dir, false, false, .silent, trivial⟩

/-- Every board gets idle when the path is released and the appliance is ready. -/
theorem afterAll_idle (b : Board S P C) :
    b.afterAll [.report false false .willing, .release true] = idle b.directory := rfl

/-- Asking again and again for the source that waits leads to the board on which all who
have asked wait. -/
theorem afterAll_join {b b' : Board S P C} {s : S} {p : P} {switched : Bool} {first : C}
    (before more : List C) (hroute : b.route = .waiting s p switched first before)
    (hdirectory : b'.directory = b.directory) (hsuspended : b'.suspended = b.suspended)
    (hblocked : b'.blocked = b.blocked)
    (hroute' : b'.route = .waiting s p switched first (before ++ more)) :
    b.afterAll (more.map fun c => .request (some s) c .willing) = b' := by
  induction more generalizing b before with
  | nil =>
      refine (Board.ext hdirectory hsuspended hblocked ?_).symm
      rw [hroute', hroute, List.append_nil]
  | cons c rest ih =>
      have hnext : (b.after (.request (some s) c .willing)).route =
          .waiting s p switched first (before ++ [c]) := by
        simp [after, Route.request, hroute, Route.source?, Route.join]
      refine ih _ hnext hdirectory hsuspended hblocked ?_
      rw [hroute', List.append_assoc]
      rfl

/-- A source is asked for on a board with no source on it. -/
theorem after_request (b : Board S P C) {s : S} {p : P} (hp : b.directory.playerOf s = some p)
    (hsource : b.route.source? = none) (c : C) :
    (b.after (.request (some s) c .willing)).route =
      if b.ready then .playing s p else .waiting s p (b.route.player? ≠ some p) c [] := by
  simp [after, Route.request, hsource, hp, Route.hand, Answers.willing]

/-- A source plays, whatever is said about the appliance afterwards. -/
theorem afterAll_playing {dir : Directory S P} {s : S} {p : P} (hp : dir.playerOf s = some p)
    (suspended blocked : Bool) (c : C) :
    (idle dir).afterAll [.request (some s) c .willing, .report suspended blocked .willing] =
      ⟨dir, suspended, blocked, .playing s p, hp⟩ := by
  have hplaying : ((idle dir).after (.request (some s) c .willing)).route = .playing s p :=
    after_request (idle dir) hp rfl c
  refine Board.ext rfl rfl rfl ?_
  refine (routeReported_of_settle ?_ suspended blocked .willing).trans hplaying
  rw [hplaying]
  rfl

/-- A player gets parked through one of its sources. -/
theorem afterAll_parked {dir : Directory S P} {s : S} {p : P} (hp : dir.playerOf s = some p)
    (suspended blocked : Bool) (c : C) :
    (idle dir).afterAll [.request (some s) c .willing, .release false,
      .report suspended blocked .willing] =
        ⟨dir, suspended, blocked, .parked p, s, hp⟩ := by
  have hplaying : ((idle dir).after (.request (some s) c .willing)).route = .playing s p :=
    after_request (idle dir) hp rfl c
  have hparked : (((idle dir).after (.request (some s) c .willing)).after
      (.release false)).route = .parked p :=
    congrArg (Route.release false) hplaying
  refine Board.ext rfl rfl rfl ?_
  refine (routeReported_of_settle ?_ suspended blocked .willing).trans hparked
  rw [hparked]
  rfl

/-- The source that is asked for waits if the appliance is not ready. -/
theorem after_request_waiting (b : Board S P C) {s : S} {p : P}
    (hp : b.directory.playerOf s = some p) (hsource : b.route.source? = none)
    (hready : b.ready = false) (c : C) :
    (b.after (.request (some s) c .willing)).route =
      .waiting s p (b.route.player? ≠ some p) c [] := by
  rw [after_request b hp hsource, if_neg (by rw [hready]; exact Bool.false_ne_true)]

/-- Every board with the same directory can be reached from the idle one. -/
theorem exists_moves_of_idle (b : Board S P C) (c : C) :
    ∃ ms : List (Move S P C), (∀ m ∈ ms, ¬ m.Enrolls) ∧ (idle b.directory).afterAll ms = b := by
  obtain ⟨dir, suspended, blocked, route, sound⟩ := b
  cases route with
  | silent =>
      refine ⟨[.report suspended blocked .willing], by simp [Move.Enrolls], ?_⟩
      exact Board.ext rfl rfl rfl (routeReported_of_settle rfl _ _ _)
  | parked p =>
      obtain ⟨s, hs⟩ := sound
      exact ⟨_, by simp [Move.Enrolls], afterAll_parked hs suspended blocked c⟩
  | playing s p => exact ⟨_, by simp [Move.Enrolls], afterAll_playing sound suspended blocked c⟩
  | waiting s p switched first more =>
      obtain ⟨hp, hready⟩ := sound
      cases switched with
      | true =>
          refine ⟨[.report suspended blocked .willing, .request (some s) first .willing] ++
            more.map fun c => .request (some s) c .willing, by simp [Move.Enrolls], ?_⟩
          rw [afterAll_append]
          refine afterAll_join [] more ?_ rfl rfl rfl rfl
          let reported : Board S P C := (idle dir).after (.report suspended blocked .willing)
          have hsilent : reported.route = .silent := routeReported_of_settle rfl _ _ _
          refine (after_request_waiting reported hp (by rw [hsilent]; rfl) hready first).trans ?_
          rw [hsilent]
          simp [Route.player?]
      | false =>
          refine ⟨[.request (some s) c .willing, .release false,
            .report suspended blocked .willing] ++ ([.request (some s) first .willing] ++
            more.map fun c => .request (some s) c .willing), by simp [Move.Enrolls], ?_⟩
          rw [afterAll_append, afterAll_parked hp, afterAll_append]
          refine afterAll_join [] more ?_ rfl rfl rfl rfl
          refine (after_request_waiting ⟨dir, suspended, blocked, .parked p, s, hp⟩ hp rfl hready
            first).trans ?_
          simp [Route.player?]

/-- No board is a trap: without anybody enrolling, every board can be reached from every
other one with the same directory. -/
theorem exists_moves {b b' : Board S P C} (h : b.directory = b'.directory) (c : C) :
    ∃ ms : List (Move S P C), (∀ m ∈ ms, ¬ m.Enrolls) ∧ b.afterAll ms = b' := by
  obtain ⟨ms, hms, hafter⟩ := exists_moves_of_idle b' c
  refine ⟨[.report false false .willing, .release true] ++ ms, ?_, ?_⟩
  · intro m hm
    rcases List.mem_append.mp hm with hfirst | hrest
    · simp only [List.mem_cons, List.not_mem_nil, or_false] at hfirst
      rcases hfirst with rfl | rfl <;> exact id
    · exact hms m hrest
  · rw [afterAll_append, afterAll_idle, h, hafter]

end Board

end TapSwitch
