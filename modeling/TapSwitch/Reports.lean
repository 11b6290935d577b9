import TapSwitch.Replies

set_option autoImplicit false

/-!
# What the switch reports

The handlers of the daemon see of an operation on the switch only what it returns.  This
file compares the result codes of `activate_source()` and `release_path()` with what the
operations have done.
-/

namespace TapSwitch

open Library

variable {M V : Type}

/-- The method has been called on this component. -/
def Sent (method : Method) (id : String) (es : List (BusEntry V)) : Prop :=
  ∃ proxy data ok, .called ⟨method, proxy, id, data⟩ ok ∈ es

/-- The source is registered for this player. -/
def PlayedBy (paths : Paths) (sourceId playerId : String) : Prop :=
  ∃ source, paths.lookupSource sourceId = some source ∧ source.playerId = playerId

/-- The result says that the player has changed. -/
def ActivateResult.saysSwitched : ActivateResult → Bool
  | .okPlayerSwitched | .okPlayerSwitchedSourceDeferred => true
  | _ => false

/-- The result says that the source waits for the appliance. -/
def ActivateResult.saysDeferred : ActivateResult → Bool
  | .okPlayerSameSourceDeferred | .okPlayerSwitchedSourceDeferred => true
  | _ => false

/-- The result says that the source has been selected. -/
def ActivateResult.saysSelected : ActivateResult → Bool
  | .okPlayerSame | .okPlayerSwitched => true
  | _ => false

/-! ## Activating a source -/

/-- What `activate_source()` has returned is what it has done. -/
structure ActivationReport (paths : Paths) (sw : Switch V) (sourceId : String)
    (a : Activation) (sw' : Switch V) (es : List (BusEntry V)) : Prop where
  /-- A rejected request changes neither ID and calls nobody. -/
  rejected : a.result = .errorSourceUnknown ∨ a.result = .errorPlayerUnknown →
    sw'.currentSourceId = sw.currentSourceId ∧ sw'.currentPlayerId = sw.currentPlayerId ∧
      es = [] ∧ a.playerId = none
  playerFailed : a.result = .errorPlayerFailed →
    sw'.currentSourceId = "" ∧ sw'.currentPlayerId = ""
  sourceFailed : a.result = .errorSourceFailed →
    sw'.currentSourceId = "" ∧ PlayedBy paths sourceId sw'.currentPlayerId
  /-- After an error, nothing is pending. -/
  error : a.result.isOk = false → sw'.pending = {}
  selected : a.result.saysSelected = true →
    sw'.currentSourceId = sourceId ∧ PlayedBy paths sourceId sw'.currentPlayerId
  deferred : a.result.saysDeferred = true →
    sw'.pending.sourceId = sourceId ∧ PlayedBy paths sourceId sw'.currentPlayerId
  /-- Unless the source has been pending already, the report tells about the player. -/
  switched : a.result.isOk = true → sw.pending.sourceId ≠ sourceId →
    (a.result.saysSwitched = true ↔ sw'.currentPlayerId ≠ sw.currentPlayerId)
  /-- If it has, or if it is current, nothing happens. -/
  idle : sourceId ≠ "" → sourceId = sw.currentSourceId ∨ sourceId = sw.pending.sourceId →
    sw' = sw ∧ es = []
  player : a.result.isOk = true → a.playerId = some sw'.currentPlayerId
  /-- An activation has been pending, and now it is not anymore. -/
  droppedPending : a.deselectedResult = .deselectedPending ↔
    sw.pending.sourceId ≠ "" ∧ sw'.pending.sourceId ≠ sw.pending.sourceId
  /-- A source has been current, and it has been deselected. -/
  deselectedActive : a.deselectedResult = .deselectedActive ↔
    sw.currentSourceId ≠ "" ∧ Sent .deselected sw.currentSourceId es
  lost : a.deselectedResult = .deselectedActive ↔
    sw.currentSourceId ≠ "" ∧ sw'.currentSourceId ≠ sw.currentSourceId

section

variable {outcomes : Outcomes} {paths : Paths} {sw sw' : Switch V}
  {data : GVariantWrapper V} {es fs : List (BusEntry V)}

theorem sent_nil {method : Method} {id : String} : ¬ Sent method id ([] : List (BusEntry V)) := by
  rintro ⟨proxy, data, ok, hmem⟩
  cases hmem

theorem sent_cons (call : Call V) (ok : Bool) :
    Sent call.method call.id (.called call ok :: es) :=
  ⟨call.proxy, call.data, ok, List.mem_cons_self⟩

section Deselects

variable {d : DeselectedAudioSourceResult}

theorem Deselects.pending_iff (hd : Deselects outcomes paths sw data d es)
    (h : Consistent paths sw) : d = .deselectedPending ↔ sw.pending.sourceId ≠ "" := by
  cases hd with
  | nothing _ hnone => simp [hnone]
  | active hcurrent => simp [h.exclusive.resolve_left hcurrent]
  | pending _ hpending => simp [hpending]

theorem Deselects.active_iff (hd : Deselects outcomes paths sw data d es) :
    d = .deselectedActive ↔ sw.currentSourceId ≠ "" := by
  cases hd with
  | nothing hnone => simp [hnone]
  | active hcurrent => simp [hcurrent]
  | pending hnone => simp [hnone]

/-- It is sent to the source that has been current. -/
theorem Deselects.sent (hd : Deselects outcomes paths sw data d es)
    (hactive : d = .deselectedActive) (fs : List (BusEntry V)) :
    Sent .deselected sw.currentSourceId (es ++ fs) := by
  cases hd with
  | nothing | pending => cases hactive
  | @active source proxy => exact sent_cons ⟨.deselected, proxy, _, data⟩ _

/-- What is to be said about the source that has been current or pending. -/
structure DeselectionReport (sw : Switch V) (d : DeselectedAudioSourceResult) (sw' : Switch V)
    (es : List (BusEntry V)) : Prop where
  pending : d = .deselectedPending ↔
    sw.pending.sourceId ≠ "" ∧ sw'.pending.sourceId ≠ sw.pending.sourceId
  active : d = .deselectedActive ↔
    sw.currentSourceId ≠ "" ∧ Sent .deselected sw.currentSourceId es
  lost : d = .deselectedActive ↔
    sw.currentSourceId ≠ "" ∧ sw'.currentSourceId ≠ sw.currentSourceId

/-- The code of `deselect_source()` says it if the source does not stay. -/
theorem Deselects.report (h : Consistent paths sw) (hd : Deselects outcomes paths sw data d es)
    (hcurrent : sw.currentSourceId ≠ "" → sw'.currentSourceId ≠ sw.currentSourceId)
    (hpending : sw.pending.sourceId ≠ "" → sw'.pending.sourceId ≠ sw.pending.sourceId)
    (fs gs : List (BusEntry V)) : DeselectionReport sw d sw' (es ++ fs ++ gs) where
  pending := (hd.pending_iff h).trans (and_iff_left_of_imp hpending).symm
  active := by
    rw [List.append_assoc]
    exact ⟨fun hactive => ⟨hd.active_iff.mp hactive, hd.sent hactive _⟩,
      fun hsent => hd.active_iff.mpr hsent.1⟩
  lost := hd.active_iff.trans (and_iff_left_of_imp hcurrent).symm

theorem DeselectionReport.idle (sw : Switch V) :
    DeselectionReport sw .none sw ([] : List (BusEntry V)) where
  pending := by simp
  active := by simp [sent_nil]
  lost := by simp

end Deselects

/-- A fresh request is not for a source that is there already. -/
theorem Fresh.idle {P : Prop} {sourceId : String} (h : Fresh sw sourceId) (_ : sourceId ≠ "")
    (hidle : sourceId = sw.currentSourceId ∨ sourceId = sw.pending.sourceId) : P :=
  absurd hidle (not_or.mpr ⟨h.not_current, h.not_pending⟩)

theorem playedBy_of_path {sourceId : String} {source : Source} {player : Player}
    (hpath : paths.lookupPath sourceId = (some source, some player)) :
    PlayedBy paths sourceId player.id :=
  playerId_of_path ⟨source, player, hpath, rfl⟩

theorem ActivateResult.ne_of_isOk {result error : ActivateResult} (hok : result.isOk = true)
    (herror : error.isOk = false) : result ≠ error := by
  rintro rfl
  rw [hok] at herror
  cases herror

theorem isOk_activationResult (sw : Switch V) (playerId : String) (now : Bool) :
    (activationResult sw playerId now).isOk = true := by
  unfold activationResult
  cases now <;> split <;> rfl

theorem saysSelected_activationResult (sw : Switch V) (playerId : String) (now : Bool) :
    (activationResult sw playerId now).saysSelected = now := by
  unfold activationResult
  cases now <;> split <;> rfl

theorem saysDeferred_activationResult (sw : Switch V) (playerId : String) (now : Bool) :
    (activationResult sw playerId now).saysDeferred = !now := by
  unfold activationResult
  cases now <;> split <;> rfl

theorem saysSwitched_activationResult (sw : Switch V) (playerId : String) (now : Bool) :
    (activationResult sw playerId now).saysSwitched = true ↔ playerId ≠ sw.currentPlayerId := by
  unfold activationResult
  split
  · rename_i hchanged
    cases now <;> simpa [ActivateResult.saysSwitched] using hchanged
  · rename_i hsame
    cases now <;> simpa [ActivateResult.saysSwitched] using hsame

theorem not_idle_of_rejects {sourceId : String} {result : ActivateResult}
    (hr : Rejects paths sw sourceId result) (hnonempty : sourceId ≠ "") :
    sourceId ≠ sw.currentSourceId ∧ sourceId ≠ sw.pending.sourceId := by
  cases hr with
  | empty hempty => exact absurd hempty hnonempty
  | sourceUnknown hfresh => exact ⟨hfresh.not_current, hfresh.not_pending⟩
  | playerUnknown hfresh => exact ⟨hfresh.not_current, hfresh.not_pending⟩

theorem Rejects.report {sourceId : String} {result : ActivateResult}
    (hr : Rejects paths sw sourceId result) :
    ActivationReport paths sw sourceId ⟨result, none, TapSwitch.droppedPending sw⟩
      { sw with pending := {} } [] := by
  have hresult : result = .errorSourceUnknown ∨ result = .errorPlayerUnknown := by
    cases hr with
    | empty | sourceUnknown => exact .inl rfl
    | playerUnknown => exact .inr rfl
  have hcode : TapSwitch.droppedPending sw =
      if sw.pending.sourceId ≠ "" then .deselectedPending else .none := by
    simp [TapSwitch.droppedPending]
  have hnever : TapSwitch.droppedPending sw ≠ .deselectedActive := by
    rw [hcode]
    split <;> simp
  exact {
    rejected := fun _ => ⟨rfl, rfl, rfl, rfl⟩
    playerFailed := by rcases hresult with rfl | rfl <;> simp
    sourceFailed := by rcases hresult with rfl | rfl <;> simp
    error := fun _ => rfl
    selected := by rcases hresult with rfl | rfl <;> simp [ActivateResult.saysSelected]
    deferred := by rcases hresult with rfl | rfl <;> simp [ActivateResult.saysDeferred]
    switched := by rcases hresult with rfl | rfl <;> simp [ActivateResult.isOk]
    idle := fun hnonempty hidle => by
      obtain ⟨hcurrent, hpending⟩ := not_idle_of_rejects hr hnonempty
      exact absurd hidle (not_or.mpr ⟨hcurrent, hpending⟩)
    player := by rcases hresult with rfl | rfl <;> simp [ActivateResult.isOk]
    droppedPending := by
      rw [hcode]
      split
      · rename_i hpending
        exact iff_of_true rfl ⟨hpending, fun h => hpending h.symm⟩
      · rename_i hnone
        exact iff_of_false (by simp) fun h => hnone h.1
    deselectedActive := iff_of_false hnever fun h => sent_nil h.2
    lost := iff_of_false hnever fun h => h.2 rfl }

/-- The source is current already. -/
theorem report_unchanged {sourceId : String} :
    ActivationReport paths sw sourceId ⟨.okUnchanged, some sw.currentPlayerId, .none⟩ sw [] where
  rejected := by simp
  playerFailed := by simp
  sourceFailed := by simp
  error := by simp [ActivateResult.isOk]
  selected := by simp [ActivateResult.saysSelected]
  deferred := by simp [ActivateResult.saysDeferred]
  switched := by simp [ActivateResult.saysSwitched]
  idle _ _ := ⟨rfl, rfl⟩
  player _ := rfl
  droppedPending := (DeselectionReport.idle sw).pending
  deselectedActive := (DeselectionReport.idle sw).active
  lost := (DeselectionReport.idle sw).lost

/-- The source waits already, and the report does not tell about the player. -/
theorem report_alreadyPending (h : Consistent paths sw) {sourceId : String}
    (hnonempty : sourceId ≠ "") (hpending : sourceId = sw.pending.sourceId) :
    ActivationReport paths sw sourceId
      ⟨.okPlayerSwitchedSourceDeferred, some sw.currentPlayerId, .none⟩ sw [] where
  rejected := by simp
  playerFailed := by simp
  sourceFailed := by simp
  error := by simp [ActivateResult.isOk]
  selected := by simp [ActivateResult.saysSelected]
  deferred _ := ⟨hpending.symm,
    hpending ▸ playerId_of_path (h.pending (hpending ▸ hnonempty))⟩
  switched _ hother := absurd hpending.symm hother
  idle _ _ := ⟨rfl, rfl⟩
  player _ := rfl
  droppedPending := (DeselectionReport.idle sw).pending
  deselectedActive := (DeselectionReport.idle sw).active
  lost := (DeselectionReport.idle sw).lost

theorem report_playerFailed {sourceId playerId : String} {d : DeselectedAudioSourceResult}
    (hfresh : Fresh sw sourceId) (hd : DeselectionReport sw d {} es) :
    ActivationReport paths sw sourceId ⟨.errorPlayerFailed, some playerId, d⟩ {} es where
  rejected := by simp
  playerFailed _ := ⟨rfl, rfl⟩
  sourceFailed := by simp
  error _ := rfl
  selected := by simp [ActivateResult.saysSelected]
  deferred := by simp [ActivateResult.saysDeferred]
  switched := by simp [ActivateResult.isOk]
  idle := hfresh.idle
  player := by simp [ActivateResult.isOk]
  droppedPending := hd.pending
  deselectedActive := hd.active
  lost := hd.lost

/-- The player stays. -/
theorem report_sourceFailed {sourceId playerId : String} {d : DeselectedAudioSourceResult}
    (hfresh : Fresh sw sourceId) (hplayed : PlayedBy paths sourceId playerId)
    (hd : DeselectionReport sw d { currentPlayerId := playerId } es) :
    ActivationReport paths sw sourceId ⟨.errorSourceFailed, some playerId, d⟩
      { currentPlayerId := playerId } es where
  rejected := by simp
  playerFailed := by simp
  sourceFailed _ := ⟨rfl, hplayed⟩
  error _ := rfl
  selected := by simp [ActivateResult.saysSelected]
  deferred := by simp [ActivateResult.saysDeferred]
  switched := by simp [ActivateResult.isOk]
  idle := hfresh.idle
  player := by simp [ActivateResult.isOk]
  droppedPending := hd.pending
  deselectedActive := hd.active
  lost := hd.lost

/-- The source is current, or waits. -/
theorem report_switched {source : Source} {playerId : String} {now : Bool}
    {d : DeselectedAudioSourceResult} (hfresh : Fresh sw source.id)
    (hplayed : PlayedBy paths source.id playerId)
    (hd : DeselectionReport sw d (switchedTo sw data source playerId now) es) :
    ActivationReport paths sw source.id ⟨activationResult sw playerId now, some playerId, d⟩
      (switchedTo sw data source playerId now) es := by
  have hok := isOk_activationResult sw playerId now
  exact {
    rejected := fun herror =>
      (herror.elim (ActivateResult.ne_of_isOk hok rfl) (ActivateResult.ne_of_isOk hok rfl)).elim
    playerFailed := fun herror => absurd herror (ActivateResult.ne_of_isOk hok rfl)
    sourceFailed := fun herror => absurd herror (ActivateResult.ne_of_isOk hok rfl)
    error := fun herror => absurd hok (by simp [herror])
    selected := fun hselected => by
      rw [saysSelected_activationResult] at hselected
      subst hselected
      exact ⟨rfl, hplayed⟩
    deferred := fun hdeferred => by
      rw [saysDeferred_activationResult, Bool.not_eq_true'] at hdeferred
      subst hdeferred
      exact ⟨rfl, hplayed⟩
    switched := fun _ _ => by
      rw [switchedTo_currentPlayerId]
      exact saysSwitched_activationResult sw playerId now
    idle := hfresh.idle
    player := fun _ => by rw [switchedTo_currentPlayerId]
    droppedPending := hd.pending
    deselectedActive := hd.active
    lost := hd.lost }

/-- The source that has been current or pending does not stay if another is requested. -/
theorem Fresh.leaves {source : Source} (h : Fresh sw source.id) (playerId : String) (now : Bool) :
    (sw.currentSourceId ≠ "" →
      (switchedTo sw data source playerId now).currentSourceId ≠ sw.currentSourceId) ∧
    (sw.pending.sourceId ≠ "" →
      (switchedTo sw data source playerId now).pending.sourceId ≠ sw.pending.sourceId) := by
  cases now with
  | true => exact ⟨fun _ => h.not_current, Ne.symm⟩
  | false => exact ⟨Ne.symm, fun _ => h.not_pending⟩

/-- `activate_source()` reports truthfully. -/
theorem Activates.report (h : Consistent paths sw) {sourceId : String} {now : Bool}
    {a : Activation} (ha : Activates outcomes paths sw data sourceId now a sw' es) :
    ActivationReport paths sw sourceId a sw' es := by
  cases ha with
  | rejected hr => exact hr.report
  | unchanged => exact report_unchanged
  | alreadyPending hnonempty hpending => exact report_alreadyPending h hnonempty hpending
  | playerFailed hfresh hpath _ hd =>
      exact report_playerFailed hfresh (hd.report h Ne.symm Ne.symm _ _)
  | sourceFailed hfresh hpath hd =>
      exact report_sourceFailed hfresh (playedBy_of_path hpath) (hd.report h Ne.symm Ne.symm _ _)
  | @switched source player _ _ _ _ hfresh hpath hd =>
      have hid : source.id = sourceId :=
        Paths.id_of_lookupSource (Paths.lookupPath_eq_some.mp hpath).1
      subst hid
      obtain ⟨hcurrent, hpending⟩ := hfresh.leaves player.id now
      exact report_switched hfresh (playedBy_of_path hpath) (hd.report h hcurrent hpending _ _)

end

/-! ## Releasing the path -/

/-- Nothing has been released: nobody has been told to let go, and the switch is the same. -/
structure NothingReleased (sw sw' : Switch V) (es : List (BusEntry V)) : Prop where
  deselected : ∀ id, ¬ Sent .deselected id es
  deactivated : ∀ id, ¬ Sent .deactivate id es
  switch : sw' = sw

/-- What is expected of `release_path()`, and of what it returns. -/
structure ReleaseReport (paths : Paths) (sw : Switch V) (killPlayer : Bool) (r : Release)
    (sw' : Switch V) (es : List (BusEntry V)) : Prop where
  source : sw'.currentSourceId = ""
  pending : sw'.pending = {}
  player : sw'.currentPlayerId = if killPlayer then "" else sw.currentPlayerId
  playerId : r.playerId = none ↔ sw'.currentPlayerId = ""
  /-- Releasing the path once more does nothing. -/
  again : ∀ outcomes data, (releasePath outcomes paths killPlayer data).run ⟨sw', []⟩ =
    .ok ⟨.unchanged, r.playerId, .none⟩ ⟨sw', []⟩
  unchanged : r.result = .unchanged ↔ NothingReleased sw sw' es

section

variable {outcomes : Outcomes} {paths : Paths} {sw sw' : Switch V}
  {data : GVariantWrapper V} {es : List (BusEntry V)} {killPlayer : Bool} {r : Release}

/-- There is nothing to release from a switch with a player only, if it is to be kept. -/
theorem releasePath_idle (outcomes : Outcomes) (data : GVariantWrapper V) (killPlayer : Bool)
    (playerId : String) (hplayer : killPlayer = true → playerId = "") :
    (releasePath outcomes paths killPlayer data).run
        ⟨{ currentPlayerId := playerId }, []⟩ =
      .ok ⟨.unchanged, if playerId = "" then none else some playerId, .none⟩
        ⟨{ currentPlayerId := playerId }, []⟩ := by
  cases killPlayer with
  | false => simp [releasePath, deselectSource, msgBugIf]
  | true => simp [releasePath, deselectSource, msgBugIf, hplayer rfl]

theorem Deselects.not_missing {d : DeselectedAudioSourceResult}
    (hd : Deselects outcomes paths sw data d es) : ¬ HeldProxyMissing paths sw := by
  rintro ⟨source, hnone, ⟨hcurrent, hlookup⟩ | ⟨hidle, hpending, hlookup⟩⟩
  · cases hd with
    | nothing hidle => exact hcurrent hidle
    | active _ hstored hproxy =>
        rw [hstored, Option.some.injEq] at hlookup
        simp [hlookup, hnone] at hproxy
    | pending hidle => exact hcurrent hidle
  · cases hd with
    | nothing _ hnone => exact hpending hnone
    | active hcurrent => exact hcurrent hidle
    | pending _ _ hstored hproxy =>
        rw [hstored, Option.some.injEq] at hlookup
        simp [hlookup, hnone] at hproxy

theorem Deactivates.not_missing {playerId : String}
    (hf : Deactivates outcomes paths data playerId es) : ¬ PlayerProxyMissing paths playerId := by
  rintro ⟨player, hnone, hplayer, hlookup⟩
  cases hf with
  | nothing hempty => exact hplayer hempty
  | player _ hstored hproxy =>
      rw [hstored, Option.some.injEq] at hlookup
      simp [hlookup, hnone] at hproxy

theorem Completes.not_missing {result : ActivateResult}
    (hc : Completes outcomes paths sw result sw' es) : ¬ PendingProxyMissing paths sw := by
  rintro ⟨hpending, source, hnone, hlookup⟩
  cases hc with
  | nothingPending hidle => exact hpending hidle
  | sourceFailed _ hstored hproxy | selected _ hstored hproxy =>
      rw [hstored, Option.some.injEq] at hlookup
      simp [hlookup, hnone] at hproxy

/-- `release_path()` returns if and only if all it has to call can be called. -/
theorem releasePath_returns_iff (h : Consistent paths sw) :
    (∃ r sw' es, Releases outcomes paths sw data killPlayer r sw' es ∧
      (releasePath outcomes paths killPlayer data).run ⟨sw, []⟩ = .ok r ⟨sw', es⟩) ↔
    ¬ HeldProxyMissing paths sw ∧
      (killPlayer = true → ¬ PlayerProxyMissing paths sw.currentPlayerId) := by
  constructor
  · rintro ⟨r, sw', es, hr, -⟩
    cases hr with
    | kept hd => exact ⟨hd.not_missing, by simp⟩
    | killed hd hf => exact ⟨hd.not_missing, fun _ => hf.not_missing⟩
  · rintro ⟨hheld, hplayer⟩
    rcases releasePath_run outcomes data h killPlayer [] with hok | ⟨sw', es, hcrash, hrun⟩
    · exact hok
    · cases hcrash with
      | deselecting hmissing => exact absurd hmissing hheld
      | deactivating hd hmissing =>
          cases killPlayer with
          | true => exact absurd hmissing (hplayer rfl)
          | false => simp [releasePath, hd.run h] at hrun

/-- All but the result code is as expected in any case. -/
theorem Releases.settles (hr : Releases outcomes paths sw data killPlayer r sw' es) :
    sw' = { currentPlayerId := if killPlayer then "" else sw.currentPlayerId } ∧
      r.playerId = if sw'.currentPlayerId = "" then none else some sw'.currentPlayerId := by
  cases hr with
  | kept => exact ⟨rfl, rfl⟩
  | killed => exact ⟨rfl, rfl⟩

theorem Releases.result_eq (hr : Releases outcomes paths sw data killPlayer r sw' es) :
    r.result = releaseResult sw killPlayer := by
  cases hr <;> rfl

theorem releaseResult_unchanged :
    releaseResult sw killPlayer = .unchanged ↔
      sw.currentSourceId = "" ∧ (killPlayer = true → sw.currentPlayerId = "") := by
  unfold releaseResult
  by_cases hcurrent : sw.currentSourceId = ""
  · by_cases hkill : killPlayer = true ∧ sw.currentPlayerId ≠ ""
    · simp [hcurrent, hkill]
    · have hkept : killPlayer = true → sw.currentPlayerId = "" := by simpa using hkill
      simpa [hcurrent, hkill] using hkept
  · by_cases hkill : killPlayer = true ∧ sw.currentPlayerId ≠ "" <;> simp [hcurrent, hkill]

/-- What `release_path()` really leaves untouched is a switch that has no source, neither
current nor pending, and no player that is to be killed. -/
theorem Releases.nothingReleased_iff (h : Consistent paths sw)
    (hr : Releases outcomes paths sw data killPlayer r sw' es) :
    NothingReleased sw sw' es ↔ sw.currentSourceId = "" ∧ sw.pending.sourceId = "" ∧
      (killPlayer = true → sw.currentPlayerId = "") := by
  obtain ⟨hsettled, -⟩ := hr.settles
  constructor
  · intro hnothing
    have hsame := hnothing.switch.symm.trans hsettled
    rw [hsame]
    exact ⟨rfl, rfl, fun hkill => by simp [hkill]⟩
  · rintro ⟨hcurrent, hpending, hplayer⟩
    have hidle := Switch.deselected_of_idle h hcurrent hpending
    have hnobody : es = [] ∧ sw' = sw := by
      cases hr with
      | kept hd =>
          refine ⟨?_, hidle⟩
          cases hd with
          | nothing => rfl
          | active hsome => exact absurd hcurrent hsome
          | pending _ hsome => exact absurd hpending hsome
      | killed hd hf =>
          refine ⟨?_, ?_⟩
          · cases hd with
            | nothing =>
                cases hf with
                | nothing => rfl
                | player hsome => exact absurd (hplayer rfl) hsome
            | active hsome => exact absurd hcurrent hsome
            | pending _ hsome => exact absurd hpending hsome
          · rw [← hidle, Switch.deselected, hplayer rfl]
    obtain ⟨rfl, hsame⟩ := hnobody
    exact ⟨fun _ => sent_nil, fun _ => sent_nil, hsame⟩

theorem Releases.unchanged_of_nothing (h : Consistent paths sw)
    (hr : Releases outcomes paths sw data killPlayer r sw' es)
    (hnothing : NothingReleased sw sw' es) : r.result = .unchanged := by
  obtain ⟨hcurrent, -, hplayer⟩ := (hr.nothingReleased_iff h).mp hnothing
  rw [hr.result_eq, releaseResult_unchanged]
  exact ⟨hcurrent, hplayer⟩

/-- The result code overlooks a pending activation if the player is kept. -/
theorem Releases.truthful_iff (h : Consistent paths sw) (hnamed : paths.lookupPlayer "" = none)
    (hr : Releases outcomes paths sw data killPlayer r sw' es) :
    (r.result = .unchanged → NothingReleased sw sw' es) ↔
      killPlayer = true ∨ sw.pending.sourceId = "" := by
  rw [hr.result_eq, releaseResult_unchanged, hr.nothingReleased_iff h]
  constructor
  · intro htruthful
    by_contra hdeferred
    obtain ⟨hkill, hpending⟩ := not_or.mp hdeferred
    have hcurrent := h.exclusive.resolve_right hpending
    exact hpending (htruthful ⟨hcurrent, fun hkilled => absurd hkilled hkill⟩).2.1
  · rintro (hkill | hnone) ⟨hcurrent, hplayer⟩
    · refine ⟨hcurrent, ?_, hplayer⟩
      by_contra hpending
      exact h.player_ne hnamed (.inr hpending) (hplayer hkill)
    · exact ⟨hcurrent, hnone, hplayer⟩

/-- Whether what is expected of `release_path()` is the case depends on nothing else. -/
theorem Releases.report_iff (h : Consistent paths sw) (hnamed : paths.lookupPlayer "" = none)
    (hr : Releases outcomes paths sw data killPlayer r sw' es) :
    ReleaseReport paths sw killPlayer r sw' es ↔
      killPlayer = true ∨ sw.pending.sourceId = "" := by
  constructor
  · intro hreport
    exact (hr.truthful_iff h hnamed).mp hreport.unchanged.mp
  · intro hcondition
    have htruthful := (hr.truthful_iff h hnamed).mpr hcondition
    have hnothing := hr.unchanged_of_nothing h
    obtain ⟨hsettled, hplayerId⟩ := hr.settles
    subst hsettled
    exact {
      source := rfl
      pending := rfl
      player := rfl
      playerId := by rw [hplayerId]; split <;> simp_all
      again := fun outcomes data => by
        rw [hplayerId]
        exact releasePath_idle outcomes data killPlayer _ fun hkill => by simp [hkill]
      unchanged := ⟨htruthful, hnothing⟩ }

end

/-! ## Reports in operation -/

namespace Session

variable {s : Session V}

/-- Whatever `activate_source()` returns is what it has done, and it does return unless it
needs a proxy that a registered component lacks. -/
theorem activation_reported (h : (system V).Reachable s) (sourceId : String) (now : Bool)
    (data : GVariantWrapper V) (outcomes : Outcomes) :
    (∀ a sw' es, (TapSwitch.activateSource outcomes s.paths sourceId now data).run
        ⟨s.switch, []⟩ = .ok a ⟨sw', es⟩ →
      ActivationReport s.paths s.switch sourceId a sw' es) ∧
    (Daemon.Provided s.paths → ∃ a sw' es,
      (TapSwitch.activateSource outcomes s.paths sourceId now data).run ⟨s.switch, []⟩ =
        .ok a ⟨sw', es⟩) := by
  have hsw := (sound_of_reachable h).consistent
  rcases activateSource_run outcomes data hsw sourceId now [] with
    ⟨a, sw', es, ha, hrun⟩ | ⟨sw', es, hcrash, hrun⟩
  · refine ⟨fun a' sw'' es' hrun' => ?_, fun _ => ⟨a, sw', es, hrun⟩⟩
    rw [hrun] at hrun'
    cases hrun'
    exact ha.report hsw
  · refine ⟨fun a' sw'' es' hrun' => ?_, fun hprovided => absurd hcrash hprovided.activation⟩
    rw [hrun] at hrun'
    cases hrun'

/-- A request for the only source there is, to be selected later: it is pending now. -/
theorem activation_reported_deferred : ∃ s : Session Unit, (system Unit).Reachable s ∧
    ∃ sw' es, (TapSwitch.activateSource (fun _ => true) s.paths "source" false none).run
        ⟨s.switch, []⟩ =
          .ok ⟨.okPlayerSwitchedSourceDeferred, some "player", .none⟩ ⟨sw', es⟩ ∧
      sw'.pending.sourceId = "source" ∧ PlayedBy s.paths "source" sw'.currentPlayerId := by
  have hexec : ∃ s, (system Unit).exec (system Unit).init (requestOperations.take 2) = some s ∧
      ∃ sw' es, (TapSwitch.activateSource (fun _ => true) s.paths "source" false none).run
        ⟨s.switch, []⟩ =
          .ok ⟨.okPlayerSwitchedSourceDeferred, some "player", .none⟩ ⟨sw', es⟩ :=
    ⟨_, rfl, _, _, rfl⟩
  obtain ⟨s, hs, sw', es, hrun⟩ := hexec
  have hreach := (System.run_of_exec hs).reachable
  have hreport := (activation_reported hreach "source" false none fun _ => true).1 _ _ _ hrun
  exact ⟨s, hreach, sw', es, hrun, hreport.deferred rfl⟩

theorem releases_of_run (h : (system V).Reachable s) {killPlayer : Bool}
    {data : GVariantWrapper V} {outcomes : Outcomes} {r : Release} {sw' : Switch V}
    {es : List (BusEntry V)}
    (hrun : (TapSwitch.releasePath outcomes s.paths killPlayer data).run ⟨s.switch, []⟩ =
      .ok r ⟨sw', es⟩) : Releases outcomes s.paths s.switch data killPlayer r sw' es := by
  rcases releasePath_run outcomes data (sound_of_reachable h).consistent killPlayer [] with
    ⟨r', sw'', es', hr, hrun'⟩ | ⟨sw'', es', -, hrun'⟩
  · rw [hrun] at hrun'
    cases hrun'
    exact hr
  · rw [hrun] at hrun'
    cases hrun'

/-- `release_path()` returns, with everything as expected, if and only if the player is to
be killed or nothing is pending, and it can call everybody it has to. -/
theorem releasePath_report_iff (h : (system V).Reachable s) (killPlayer : Bool)
    (data : GVariantWrapper V) (outcomes : Outcomes) :
    (∃ r sw' es, (TapSwitch.releasePath outcomes s.paths killPlayer data).run
        ⟨s.switch, []⟩ = .ok r ⟨sw', es⟩ ∧
      ReleaseReport s.paths s.switch killPlayer r sw' es) ↔
    (killPlayer = true ∨ s.switch.pending.sourceId = "") ∧
      ¬ HeldProxyMissing s.paths s.switch ∧
      (killPlayer = true → ¬ PlayerProxyMissing s.paths s.switch.currentPlayerId) := by
  have hsound := sound_of_reachable h
  have hsw := hsound.consistent
  constructor
  · rintro ⟨r, sw', es, hrun, hreport⟩
    have hr := releases_of_run h hrun
    exact ⟨(hr.report_iff hsw hsound.named).mp hreport,
      (releasePath_returns_iff hsw).mp ⟨r, sw', es, hr, hrun⟩⟩
  · rintro ⟨hcondition, hreturns⟩
    obtain ⟨r, sw', es, hr, hrun⟩ := (releasePath_returns_iff hsw).mpr hreturns
    exact ⟨r, sw', es, hrun, (hr.report_iff hsw hsound.named).mpr hcondition⟩

end Session

namespace Daemon

variable [MaybeBool M]

/-- The handler of `ReleasePath` keeps quiet only if nothing has been released. -/
def QuietOnlyIfNothing (d d' : Daemon M V) : Prop :=
  signals d'.log = signals d.log → ∃ es, busLog d'.log = busLog d.log ++ es ∧
    NothingReleased d.data.audioPathSwitch d'.data.audioPathSwitch es

theorem quiet_iff {d d' : Daemon M V} (h : (system M V).Reachable d) {object : Nat}
    {deactivatePlayer : Bool} {data : GVariantWrapper V} {outcomes : Outcomes}
    (hstep : (system M V).step d (.releasePath object deactivatePlayer data outcomes) = some d') :
    QuietOnlyIfNothing d d' ↔ deactivatePlayer = true ∨ d.pendingId = "" := by
  have hsteps := steps_of_step h hstep
  cases hsteps with
  | answered hpassive => exact absurd hpassive id
  | creating hcreation => simp [Event.creation] at hcreation
  | @released _ _ _ _ r switch es hrun hr =>
      have hquiet : signals (d.next.released object d.served data r switch es).log =
          signals d.log ↔ r.result = .unchanged := by
        rw [signals_released]
        split <;> simp_all
      rw [← hr.truthful_iff (consistent_of_reachable h) (named_of_reachable h),
        QuietOnlyIfNothing, hquiet]
      constructor
      · intro hall hunchanged
        obtain ⟨es', hlog, hnothing⟩ := hall hunchanged
        rw [busLog_released, next_log, List.append_cancel_left_eq] at hlog
        exact hlog ▸ hnothing
      · intro hall hunchanged
        exact ⟨es, by rw [busLog_released]; rfl, hall hunchanged⟩

variable (M V) in
/-- In every reachable session, `release_path()` returns with everything as expected if and
only if the player is to be killed or nothing is pending, and it can call everybody it has to.
In every reachable daemon, the same decides whether a signal that is suppressed means that
nothing has been released. -/
theorem release_reported_iff :
    (∀ s : Session V, (Session.system V).Reachable s → ∀ killPlayer data outcomes,
      ((∃ r sw' es, (TapSwitch.releasePath outcomes s.paths killPlayer data).run
          ⟨s.switch, []⟩ = .ok r ⟨sw', es⟩ ∧
        ReleaseReport s.paths s.switch killPlayer r sw' es) ↔
      (killPlayer = true ∨ s.switch.pending.sourceId = "") ∧
        ¬ HeldProxyMissing s.paths s.switch ∧
        (killPlayer = true → ¬ PlayerProxyMissing s.paths s.switch.currentPlayerId))) ∧
    ∀ d d' : Daemon M V, (system M V).Reachable d → ∀ object deactivatePlayer data outcomes,
      (system M V).step d (.releasePath object deactivatePlayer data outcomes) = some d' →
      (QuietOnlyIfNothing d d' ↔ deactivatePlayer = true ∨ d.pendingId = "") :=
  ⟨fun _ hreach => Session.releasePath_report_iff hreach,
    fun _ _ hreach _ _ _ _ hstep => quiet_iff hreach hstep⟩

/-- A source that is current is released, and its player is kept. -/
theorem release_reported_iff_requested : ∃ s : Session Unit,
    (Session.system Unit).Reachable s ∧ s.switch.currentSourceId = "source" ∧
      ∃ r sw' es, (TapSwitch.releasePath (fun _ => true) s.paths false none).run
          ⟨s.switch, []⟩ = .ok r ⟨sw', es⟩ ∧
        ReleaseReport s.paths s.switch false r sw' es := by
  have hexec : ∃ s, (Session.system Unit).exec (Session.system Unit).init
        Session.requestOperations = some s ∧
      s.switch = ⟨"source", "player", {}⟩ ∧
      (s.paths.lookupSource "source").map (·.dbusProxy) =
        some (some ⟨1, ":1.1", "/source"⟩) := ⟨_, rfl, rfl, rfl⟩
  obtain ⟨s, hs, hswitch, hproxy⟩ := hexec
  have hreach := (System.run_of_exec hs).reachable
  have hpresent : ¬ HeldProxyMissing s.paths s.switch := by
    rw [hswitch]
    rintro ⟨source, hnone, ⟨-, hlookup⟩ | ⟨hidle, -⟩⟩
    · rw [hlookup, Option.map_some, hnone] at hproxy
      cases hproxy
    · exact absurd hidle (by decide)
  refine ⟨s, hreach, by rw [hswitch], ?_⟩
  exact ((release_reported_iff (Option Bool) Unit).1 s hreach false none _).mpr
    ⟨.inr (by rw [hswitch]), hpresent, by simp⟩

/-- The source is put on hold, and the path is released while its player is kept: the
source is deselected, but nothing is said to have changed. -/
theorem release_not_always_reported :
    ¬ ∀ s : Session Unit, (Session.system Unit).Reachable s → ∀ killPlayer data outcomes,
      ∃ r sw' es, (TapSwitch.releasePath outcomes s.paths killPlayer data).run
          ⟨s.switch, []⟩ = .ok r ⟨sw', es⟩ ∧
        ReleaseReport s.paths s.switch killPlayer r sw' es := by
  intro hall
  have hexec : ∃ s, (Session.system Unit).exec (Session.system Unit).init
      (Session.requestOperations.take 2 ++
        [.activateSource "source" false none fun _ => true]) = some s ∧
      s.switch.pending.sourceId = "source" ∧
      ∃ sw', (TapSwitch.releasePath (fun _ => true) s.paths false none).run ⟨s.switch, []⟩ =
        .ok ⟨.unchanged, some "player", .deselectedPending⟩ ⟨sw',
          [.called ⟨.deselected, ⟨1, ":1.1", "/source"⟩, "source", none⟩ true]⟩ :=
    ⟨_, rfl, rfl, _, rfl⟩
  obtain ⟨s, hs, -, sw', hrun⟩ := hexec
  obtain ⟨r, sw'', es, hrun', hreport⟩ :=
    hall s (System.run_of_exec hs).reachable false none fun _ => true
  rw [hrun] at hrun'
  cases hrun'
  exact (hreport.unchanged.mp rfl).deselected "source" (sent_cons _ _)

end Daemon

end TapSwitch
