import TapSwitch.AudioDevice
import TapSwitch.Queue

set_option autoImplicit false

/-!
# What the sources have been told

A source learns from the calls sent to it whether it has been selected, put on hold or
deselected.  The switch keeps two IDs.  This file proves that both tell the same story,
except after a request that cannot be met has made the switch forget a pending source:
that source is never told.
-/

namespace TapSwitch

open Library

variable {V : Type}

/-- What a source knows about itself. -/
inductive Status where
  | idle
  | held
  | selected
  deriving DecidableEq, Repr

/-- What a call tells the source it is sent to. -/
def notice : BusEntry V → Option (String × Status)
  | .called ⟨.selected, _, id, _⟩ ok => some (id, if ok then .selected else .idle)
  | .called ⟨.selectedOnHold, _, id, _⟩ ok => some (id, if ok then .held else .idle)
  | .called ⟨.deselected, _, id, _⟩ _ => some (id, .idle)
  | _ => none

/-- What the sources know after the calls made so far. -/
def status (past : List (BusEntry V)) : String → Status := latest notice .idle past

/-- What they should know. -/
def Switch.intended (sw : Switch V) (sourceId : String) : Status :=
  if sourceId = "" then .idle
  else if sourceId = sw.currentSourceId then .selected
  else if sourceId = sw.pending.sourceId then .held
  else .idle

/-- A source is only selected or put on hold while all others are idle. -/
def SelectionRule (past : List (BusEntry V)) : BusEntry V → Prop
  | .called ⟨.selected, _, id, _⟩ _ | .called ⟨.selectedOnHold, _, id, _⟩ _ =>
      ∀ other, other ≠ id → status past other = .idle
  | _ => True

/-- The sources know what they should, and the rule has been followed so far. -/
structure Notified (past : List (BusEntry V)) (sw : Switch V) : Prop where
  status_eq : ∀ sourceId, status past sourceId = sw.intended sourceId
  rule : ForEachEvent SelectionRule past

theorem intended_of_idle {sw : Switch V} (hcurrent : sw.currentSourceId = "")
    (hpending : sw.pending.sourceId = "") (sourceId : String) :
    sw.intended sourceId = .idle := by
  by_cases hempty : sourceId = "" <;> simp [Switch.intended, hcurrent, hpending, hempty]

theorem intended_deselected (sw : Switch V) (sourceId : String) :
    sw.deselected.intended sourceId = .idle := intended_of_idle rfl rfl sourceId

theorem Notified.initial : Notified ([] : List (BusEntry V)) {} where
  status_eq sourceId := (intended_of_idle rfl rfl sourceId).symm
  rule := forEachEvent_nil

/-- With the same source current and the same pending, the same is intended. -/
theorem Notified.congr {past : List (BusEntry V)} {sw sw' : Switch V}
    (h : Notified past sw) (hcurrent : sw'.currentSourceId = sw.currentSourceId)
    (hpending : sw'.pending.sourceId = sw.pending.sourceId) : Notified past sw' where
  status_eq sourceId := by
    rw [h.status_eq, Switch.intended, Switch.intended, hcurrent, hpending]
  rule := h.rule

/-! ## Single calls -/

section Calls

variable {past : List (BusEntry V)} {sw : Switch V} {proxy : Proxy} {id : String}
  {data : GVariantWrapper V} {ok : Bool}

/-- Deselecting the only source that knows anything leaves all of them idle. -/
theorem Notified.deselected (h : Notified past sw)
    (honly : ∀ other, other ≠ id → sw.intended other = .idle) {sw' : Switch V}
    (hcurrent : sw'.currentSourceId = "") (hpending : sw'.pending.sourceId = "") :
    Notified (past ++ [.called ⟨.deselected, proxy, id, data⟩ ok]) sw' where
  status_eq sourceId := by
    have hnotice : notice (.called ⟨.deselected, proxy, id, data⟩ ok) = some (id, .idle) := rfl
    rw [intended_of_idle hcurrent hpending, status, latest_concat_some hnotice]
    by_cases hid : sourceId = id
    · rw [hid, Function.update_self]
    · rw [Function.update_of_ne hid]
      exact (h.status_eq sourceId).trans (honly sourceId hid)
  rule := forEachEvent_concat.mpr ⟨h.rule, trivial⟩

/-- Calls to players tell the sources nothing. -/
theorem Notified.silent (h : Notified past sw) {e : BusEntry V} (hnotice : notice e = none)
    (hrule : SelectionRule past e) : Notified (past ++ [e]) sw where
  status_eq sourceId := by
    rw [status, latest_concat_none hnotice]
    exact h.status_eq sourceId
  rule := forEachEvent_concat.mpr ⟨h.rule, hrule⟩

/-- Selecting a source, or putting it on hold, while no other one knows anything. -/
theorem Notified.selects (h : Notified past sw) (now : Bool)
    (honly : ∀ other, other ≠ id → sw.intended other = .idle) {sw' : Switch V}
    (hid : sw'.intended id =
      if ok then (if now then .selected else .held) else .idle)
    (hothers : ∀ other, other ≠ id → sw'.intended other = .idle) :
    Notified (past ++ [.called ⟨selectMethod now, proxy, id, data⟩ ok]) sw' where
  status_eq sourceId := by
    have hnotice : notice (.called ⟨selectMethod now, proxy, id, data⟩ ok) =
        some (id, sw'.intended id) := by
      rw [hid]
      cases now <;> rfl
    rw [status, latest_concat_some hnotice]
    by_cases heq : sourceId = id
    · rw [heq, Function.update_self]
    · rw [Function.update_of_ne heq, hothers sourceId heq]
      exact (h.status_eq sourceId).trans (honly sourceId heq)
  rule := by
    refine forEachEvent_concat.mpr ⟨h.rule, ?_⟩
    have hidle : ∀ other, other ≠ id → status past other = .idle := fun other hne =>
      (h.status_eq other).trans (honly other hne)
    cases now <;> exact hidle

end Calls

/-! ## Whole operations -/

section Operations

variable {paths : Paths} {past es : List (BusEntry V)} {sw sw' : Switch V}
  {outcomes : Outcomes} {data : GVariantWrapper V}

/-- Only the current source knows anything while there is one. -/
theorem intended_of_current (h : Consistent paths sw) (hcurrent : sw.currentSourceId ≠ "")
    {other : String} (hne : other ≠ sw.currentSourceId) : sw.intended other = .idle := by
  have hpending := h.exclusive.resolve_left hcurrent
  by_cases hempty : other = "" <;> simp [Switch.intended, hne, hpending, hempty]

/-- Only the pending source knows anything while there is one. -/
theorem intended_of_pending (h : Consistent paths sw) (hpending : sw.pending.sourceId ≠ "")
    {other : String} (hne : other ≠ sw.pending.sourceId) : sw.intended other = .idle := by
  have hcurrent := h.exclusive.resolve_right hpending
  by_cases hempty : other = "" <;> simp [Switch.intended, hne, hcurrent, hempty]

theorem Notified.deselects (h : Notified past sw) (hsw : Consistent paths sw)
    {r : DeselectedAudioSourceResult} (hd : Deselects outcomes paths sw data r es) :
    Notified (past ++ es) sw.deselected := by
  cases hd with
  | nothing hcurrent hpending =>
      rw [List.append_nil, Switch.deselected_of_idle hsw hcurrent hpending]
      exact h
  | active hcurrent =>
      exact h.deselected (fun other hne => intended_of_current hsw hcurrent hne) rfl rfl
  | pending _ hpending =>
      exact h.deselected (fun other hne => intended_of_pending hsw hpending hne) rfl rfl

theorem Notified.deactivates (h : Notified past sw) {playerId : String}
    (hf : Deactivates outcomes paths data playerId es) : Notified (past ++ es) sw := by
  cases hf with
  | nothing => rwa [List.append_nil]
  | player => exact h.silent rfl trivial

theorem Notified.switchesTo (h : Notified past sw') {player : Player}
    (hs : SwitchesTo outcomes paths sw data player es) : Notified (past ++ es) sw' := by
  cases hs with
  | same => rwa [List.append_nil]
  | changed _ hf =>
      rw [← List.append_assoc]
      exact (h.deactivates hf).silent rfl trivial

/-- The request names no source that could be selected. -/
def Unusable (paths : Paths) (sourceId : String) : Prop :=
  sourceId = "" ∨ (paths.lookupPath sourceId).2 = none

theorem usable_of_path {sourceId : String} (hnonempty : sourceId ≠ "")
    (hpath : ∃ source player, paths.lookupPath sourceId = (some source, some player)) :
    ¬ Unusable paths sourceId := by
  obtain ⟨source, player, hpath⟩ := hpath
  rintro (hempty | hnone)
  · exact hnonempty hempty
  · rw [hpath] at hnone
    cases hnone

theorem unusable_of_rejects {sourceId : String} {result : ActivateResult}
    (h : Rejects paths sw sourceId result) : Unusable paths sourceId := by
  cases h with
  | empty hempty => exact .inl hempty
  | sourceUnknown _ hsource => exact .inr (by simp [Paths.lookupPath, hsource])
  | playerUnknown _ hsource hplayer => exact .inr (by simp [Paths.lookupPath, hsource, hplayer])

/-- After a request, the sources know what they should unless the request could not be
met and has made the switch forget a pending source. -/
theorem Notified.activates_iff (h : Notified past sw) (hsw : Consistent paths sw)
    {sourceId : String} {now : Bool} {a : Activation}
    (ha : Activates outcomes paths sw data sourceId now a sw' es) :
    Notified (past ++ es) sw' ↔ (Unusable paths sourceId → sw.pending.sourceId = "") := by
  cases ha with
  | rejected hrejects =>
      rw [List.append_nil]
      constructor
      · intro hnotified hunusable
        -- The pending source is still on hold, but nobody intends it to be.
        by_contra hpending
        have hcurrent := hsw.exclusive.resolve_right hpending
        have hheld : sw.intended sw.pending.sourceId = .held := by
          simp [Switch.intended, hpending, hcurrent]
        have hidle := @intended_of_idle V { sw with pending := {} } hcurrent rfl
          sw.pending.sourceId
        rw [← hnotified.status_eq, h.status_eq, hheld] at hidle
        cases hidle
      · intro hpending
        refine h.congr rfl ?_
        rw [hpending (unusable_of_rejects hrejects)]
  | unchanged hnonempty hcurrent =>
      rw [List.append_nil]
      obtain ⟨source, player, hpath, -⟩ := hsw.current (hcurrent ▸ hnonempty)
      have husable := usable_of_path hnonempty ⟨source, player, hcurrent ▸ hpath⟩
      exact iff_of_true h fun hunusable => absurd hunusable husable
  | alreadyPending hnonempty hpending =>
      rw [List.append_nil]
      obtain ⟨source, player, hpath, -⟩ := hsw.pending (hpending ▸ hnonempty)
      have husable := usable_of_path hnonempty ⟨source, player, hpending ▸ hpath⟩
      exact iff_of_true h fun hunusable => absurd hunusable husable
  | playerFailed hfresh hpath _ hd hf =>
      have husable := usable_of_path hfresh.nonempty ⟨_, _, hpath⟩
      refine iff_of_true ?_ fun hunusable => absurd hunusable husable
      simp only [← List.append_assoc]
      refine (((h.deselects hsw hd).deactivates hf).silent ?_ ?_).congr rfl rfl
      · rfl
      · trivial
  | sourceFailed hfresh hpath hd hs =>
      have husable := usable_of_path hfresh.nonempty ⟨_, _, hpath⟩
      refine iff_of_true ?_ fun hunusable => absurd hunusable husable
      simp only [← List.append_assoc]
      refine ((h.deselects hsw hd).switchesTo hs).selects now
        (fun other _ => intended_deselected sw other) ?_ ?_
      · exact intended_of_idle rfl rfl _
      · exact fun other _ => intended_of_idle rfl rfl other
  | @switched source player proxy _ _ _ hfresh hpath hd hs =>
      have husable := usable_of_path hfresh.nonempty ⟨_, _, hpath⟩
      have hid : source.id ≠ "" :=
        Paths.id_of_lookupSource (Paths.lookupPath_eq_some.mp hpath).1 ▸ hfresh.nonempty
      refine iff_of_true ?_ fun hunusable => absurd hunusable husable
      simp only [← List.append_assoc]
      refine ((h.deselects hsw hd).switchesTo hs).selects now
        (fun other _ => intended_deselected sw other) ?_ ?_
      · cases now <;> simp [Switch.intended, switchedTo, hid]
      · intro other hne
        cases now <;> simp [Switch.intended, switchedTo, hne]

theorem Notified.completes (h : Notified past sw) (hsw : Consistent paths sw)
    {r : ActivateResult} (hc : Completes outcomes paths sw r sw' es) :
    Notified (past ++ es) sw' := by
  cases hc with
  | nothingPending => rwa [List.append_nil]
  | sourceFailed hpending =>
      refine h.selects true (fun other hne => intended_of_pending hsw hpending hne) ?_ ?_
      · exact intended_of_idle rfl rfl _
      · exact fun other _ => intended_of_idle rfl rfl other
  | selected hpending =>
      refine h.selects true (fun other hne => intended_of_pending hsw hpending hne) ?_ ?_
      · simp [Switch.intended, hpending]
      · intro other hne
        simp [Switch.intended, hne]

theorem Notified.cancels (h : Notified past sw) (hsw : Consistent paths sw)
    {r : ActivateResult} (hc : Cancels outcomes paths sw r sw' es) :
    Notified (past ++ es) sw' := by
  cases hc with
  | nothingPending => rwa [List.append_nil]
  | canceled hpending =>
      exact h.deselected (fun other hne => intended_of_pending hsw hpending hne) rfl rfl

theorem Notified.releases (h : Notified past sw) (hsw : Consistent paths sw)
    {killPlayer : Bool} {r : Release} (hr : Releases outcomes paths sw data killPlayer r sw' es) :
    Notified (past ++ es) sw' := by
  cases hr with
  | kept hd => exact h.deselects hsw hd
  | killed hd hf =>
      rw [← List.append_assoc]
      exact ((h.deselects hsw hd).deactivates hf).congr rfl rfl

end Operations

/-! ## Runs -/

variable {M : Type} [MaybeBool M]

/-- The event does not make the switch forget a pending source: if it is a request while
an activation is pending, then for a registered source with a registered player. -/
def KeepsFaith (d : Daemon M V) (e : Event V) : Prop :=
  ∀ object sourceId data outcomes, e = .requestSource object sourceId data outcomes →
    Unusable d.data.audioPaths sourceId → d.pendingId = ""

namespace Daemon

/-- The sources of this daemon know what they should. -/
def AllNotified (d : Daemon M V) : Prop := Notified (busLog d.log) d.data.audioPathSwitch

theorem allNotified_step_iff {d d' : Daemon M V} {e : Event V}
    (hsw : Consistent d.data.audioPaths d.data.audioPathSwitch) (h : d.AllNotified)
    (hstep : Steps d e d') : d'.AllNotified ↔ KeepsFaith d e := by
  have hother : (∀ object sourceId data outcomes,
      e ≠ .requestSource object sourceId data outcomes) → KeepsFaith d e :=
    fun hne object sourceId data outcomes he => absurd he (hne _ _ _ _)
  cases hstep with
  | answered hpassive =>
      refine iff_of_true (by simpa [AllNotified] using h) (hother ?_)
      rintro object sourceId data outcomes rfl
      exact hpassive
  | creating hcreation =>
      refine iff_of_true h (hother ?_)
      rintro object sourceId data outcomes rfl
      simp [Event.creation] at hcreation
  | noCreation => exact iff_of_true h (hother (by simp))
  | playerRegistered =>
      exact iff_of_true (by simpa [AllNotified] using h) (hother (by simp))
  | sourceRegistered =>
      exact iff_of_true (by simpa [AllNotified] using h) (hother (by simp))
  | @requested object sourceId data outcomes a switch es _ ha =>
      have hlog : AllNotified (d.next.requested object d.served sourceId data a switch es) ↔
          Notified (busLog d.log ++ es) switch := by
        simp [AllNotified]
      rw [hlog, h.activates_iff hsw ha]
      constructor
      · rintro hkeeps _ _ _ _ ⟨rfl, rfl, rfl, rfl⟩
        exact hkeeps
      · exact fun hkeeps => hkeeps _ _ _ _ rfl
  | released _ hr =>
      exact iff_of_true (by simpa [AllNotified] using h.releases hsw hr) (hother (by simp))
  | completed _ _ _ hc =>
      exact iff_of_true (by simpa [AllNotified] using h.completes hsw hc) (hother (by simp))
  | canceled _ _ _ hc =>
      exact iff_of_true (by simpa [AllNotified] using h.cancels hsw hc) (hother (by simp))
  | postponed => exact iff_of_true (by simpa [AllNotified] using h) (hother (by simp))

/-- All along a run, every source knows exactly whether it is current, pending or
neither, and no source is ever selected or put on hold while another one is not idle, if
and only if no request that cannot be met arrives while an activation is pending. -/
theorem notified_iff_keepsFaith {evs : List (Event V)} {d : Daemon M V}
    (h : (system M V).Run evs d) :
    (system M V).StatesAlong evs AllNotified ↔ (system M V).StepsAlong evs KeepsFaith := by
  refine System.statesAlong_iff_stepsAlong .initial ?_ h
  intro d e d' hreach hnotified hstep
  exact allNotified_step_iff (consistent_of_reachable hreach) hnotified
    (steps_of_step hreach hstep)

/-- Nothing is pending when the source is requested for the first time. -/
theorem notified_iff_keepsFaith_deferred :
    (system (Option Bool) Unit).StatesAlong deferralEvents AllNotified := by
  obtain ⟨d, hrun, -⟩ := exists_deferred
  refine (notified_iff_keepsFaith hrun).mpr ?_
  have hexec : ((system (Option Bool) Unit).exec (system (Option Bool) Unit).init
      (deferralEvents.take 5)).map (fun d => d.pendingId) = some "" := by decide +kernel
  obtain ⟨d', hrun', hnone⟩ := System.exists_run_of_exec hexec
  have hlast : deferralEvents =
      deferralEvents.take 5 ++ [.requestSource 0 "source" none fun _ => true] := rfl
  rw [hlast, System.stepsAlong_concat hrun']
  refine ⟨System.stepsAlong_of_forall ?_, ?_⟩
  · rintro d e hmem object sourceId data outcomes rfl
    simp [deferralEvents] at hmem
  · exact fun _ _ _ _ _ _ => hnone

/-- Requesting nothing makes the switch forget the source that has been put on hold. -/
theorem not_always_notified :
    ¬ ∀ (evs : List (Event Unit)) (d : Daemon (Option Bool) Unit),
      (system (Option Bool) Unit).Run evs d →
        (system (Option Bool) Unit).StatesAlong evs AllNotified := by
  intro hall
  have hexec : ((system (Option Bool) Unit).exec (system (Option Bool) Unit).init
      (deferralEvents ++ [.requestSource 0 "" none fun _ => true])).map (fun d =>
        (status (busLog d.log) "source", d.data.audioPathSwitch.intended "source")) =
      some (.held, .idle) := by decide +kernel
  obtain ⟨d, hrun, hseen⟩ := System.exists_run_of_exec hexec
  obtain ⟨hheld, hidle⟩ := Prod.mk.inj hseen
  have hnotified := ((hall _ d hrun).last hrun).status_eq "source"
  rw [hheld, hidle] at hnotified
  exact absurd hnotified (by decide)

end Daemon

end TapSwitch
