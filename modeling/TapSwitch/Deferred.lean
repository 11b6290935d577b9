import TapSwitch.Session

set_option autoImplicit false

/-!
# Deferred activation

While the appliance is not ready, a source is put on hold, and selected later.  In the
end this comes to the same as selecting it at once, no matter what is registered in the
meantime and how often the source is requested again.
-/

namespace TapSwitch

open Library

variable {V : Type}

/-! ## What is compared -/

/-- What a call says and whether it has succeeded, no matter through which proxy. -/
def BusEntry.message : BusEntry V → Option (Method × String × GVariantWrapper V × Bool)
  | .called call ok => some (call.method, call.id, call.data, ok)
  | .bug | .assertionFailed => none

def messages (es : List (BusEntry V)) : List (Method × String × GVariantWrapper V × Bool) :=
  es.filterMap BusEntry.message

/-- The messages besides those that put a source on hold. -/
def messagesWithoutHold (es : List (BusEntry V)) :
    List (Method × String × GVariantWrapper V × Bool) :=
  (messages es).filter fun message => message.1 ≠ .selectedOnHold

/-- How often a source has been put on hold. -/
def holds (es : List (BusEntry V)) : Nat :=
  (messages es).countP fun message => message.1 = .selectedOnHold

section Messages

variable (es fs : List (BusEntry V))

theorem messages_append : messages (es ++ fs) = messages es ++ messages fs :=
  List.filterMap_append

theorem messagesWithoutHold_append :
    messagesWithoutHold (es ++ fs) = messagesWithoutHold es ++ messagesWithoutHold fs := by
  simp [messagesWithoutHold, messages_append]

theorem holds_append : holds (es ++ fs) = holds es + holds fs := by
  simp [holds, messages_append]

end Messages

/-! ## Phase one -/

section PhaseOne

variable {outcomes : Outcomes} {paths : Paths} {sw : Switch V} {data : GVariantWrapper V}
  {es : List (BusEntry V)}

/-- Nothing is put on hold in this part of the log. -/
def HoldFree (es : List (BusEntry V)) : Prop := messagesWithoutHold es = messages es ∧ holds es = 0

theorem HoldFree.append {fs : List (BusEntry V)} (h : HoldFree es) (h' : HoldFree fs) :
    HoldFree (es ++ fs) := by
  refine ⟨?_, ?_⟩
  · rw [messagesWithoutHold_append, messages_append, h.1, h'.1]
  · rw [holds_append, h.2, h'.2]

theorem holdFree_nil : HoldFree ([] : List (BusEntry V)) := ⟨rfl, rfl⟩

theorem holdFree_called {call : Call V} {ok : Bool} (h : call.method ≠ .selectedOnHold) :
    HoldFree [.called call ok] := by
  simp [HoldFree, messagesWithoutHold, holds, messages, BusEntry.message, h]

theorem Deselects.holdFree {d : DeselectedAudioSourceResult}
    (h : Deselects outcomes paths sw data d es) : HoldFree es := by
  cases h with
  | nothing => exact holdFree_nil
  | active | pending => exact holdFree_called (by simp)

theorem Deactivates.holdFree {playerId : String}
    (h : Deactivates outcomes paths data playerId es) : HoldFree es := by
  cases h with
  | nothing => exact holdFree_nil
  | player => exact holdFree_called (by simp)

theorem SwitchesTo.holdFree {player : Player}
    (h : SwitchesTo outcomes paths sw data player es) : HoldFree es := by
  cases h with
  | same => exact holdFree_nil
  | changed _ hf => exact hf.holdFree.append (holdFree_called (by simp))

/-- How the same request ends when it is immediate, and when it is deferred. -/
inductive PhaseOne (outcomes : Outcomes) (paths : Paths) (sw : Switch V)
    (data : GVariantWrapper V) (sourceId : String) :
    Activation → Switch V → List (BusEntry V) →
    Activation → Switch V → List (BusEntry V) → Prop where
  /-- Both have failed in the same way. -/
  | failed {a : Activation} {sw' : Switch V} {es : List (BusEntry V)} :
      a.result.isOk = false → sw'.pending = {} → HoldFree es →
      PhaseOne outcomes paths sw data sourceId a sw' es a sw' es
  /-- Both have arrived at the selection of the source. -/
  | arrived {source : Source} {proxy : Proxy} {playerId : String}
      {d : DeselectedAudioSourceResult} {es : List (BusEntry V)} :
      sourceId ≠ "" → paths.lookupSource sourceId = some source →
      source.dbusProxy = some proxy → HoldFree es →
      PhaseOne outcomes paths sw data sourceId
        ⟨if outcomes .selected then activationResult sw playerId true
          else .errorSourceFailed, some playerId, d⟩
        { currentSourceId := if outcomes .selected then sourceId else ""
          currentPlayerId := playerId }
        (es ++ [.called ⟨.selected, proxy, sourceId, data⟩ (outcomes .selected)])
        ⟨activationResult sw playerId false, some playerId, d⟩
        { currentPlayerId := playerId
          pending := ⟨sourceId, data, activationResult sw playerId false⟩ }
        (es ++ [.called ⟨.selectedOnHold, proxy, sourceId, data⟩ true])

theorem isOk_of_rejects {sourceId : String} {result : ActivateResult}
    (h : Rejects paths sw sourceId result) : result.isOk = false := by
  cases h <;> rfl

/-- Whatever an immediate request does, the deferred one does the same in phase one. -/
theorem Activates.phaseOne {sourceId : String} {a : Activation} {sw' : Switch V}
    (ha : Activates outcomes paths sw data sourceId true a sw' es)
    (hsource : sourceId = "" ∨ Fresh sw sourceId) (hhold : outcomes .selectedOnHold = true) :
    ∃ b waiting fs, Activates outcomes paths sw data sourceId false b waiting fs ∧
      PhaseOne outcomes paths sw data sourceId a sw' es b waiting fs := by
  cases ha with
  | rejected hrejects =>
      exact ⟨_, _, _, .rejected hrejects,
        .failed (isOk_of_rejects hrejects) rfl holdFree_nil⟩
  | unchanged hnonempty hcurrent =>
      exact absurd hcurrent (hsource.resolve_left hnonempty).not_current
  | alreadyPending hnonempty hpending =>
      exact absurd hpending (hsource.resolve_left hnonempty).not_pending
  | playerFailed hfresh hpath hchanged hd hf hplayer hact =>
      exact ⟨_, _, _, .playerFailed hfresh hpath hchanged hd hf hplayer hact,
        .failed rfl rfl ((hd.holdFree.append hf.holdFree).append (holdFree_called (by simp)))⟩
  | @sourceFailed source player proxy d es fs hfresh hpath hd hs hproxy hok =>
      have hlookup := (Paths.lookupPath_eq_some.mp hpath).1
      have hid := Paths.id_of_lookupSource hlookup
      subst hid
      have harrived := @PhaseOne.arrived V outcomes paths sw data _ source proxy player.id d
        (es ++ fs) hfresh.nonempty hlookup hproxy (hd.holdFree.append hs.holdFree)
      have hfailed : outcomes .selected = false := hok
      rw [hfailed] at harrived
      exact ⟨_, _, _, .switched hfresh hpath hd hs hproxy hhold, harrived⟩
  | @switched source player proxy d es fs hfresh hpath hd hs hproxy hok =>
      have hlookup := (Paths.lookupPath_eq_some.mp hpath).1
      have hid := Paths.id_of_lookupSource hlookup
      subst hid
      have harrived := @PhaseOne.arrived V outcomes paths sw data _ source proxy player.id d
        (es ++ fs) hfresh.nonempty hlookup hproxy (hd.holdFree.append hs.holdFree)
      have hselected : outcomes .selected = true := hok
      rw [hselected] at harrived
      exact ⟨_, _, _, .switched hfresh hpath hd hs hproxy hhold, harrived⟩

end PhaseOne

/-! ## The time in between -/

/-- What may happen between the two phases: registrations that bring a proxy, and, if
`repeats`, further requests for the source. -/
inductive Interlude (sourceId : String) (repeats : Prop) : Operation V → Prop where
  | addPlayer {player : Player} : player.dbusProxy ≠ none →
      Interlude sourceId repeats (.addPlayer player)
  | addSource {source : Source} : source.dbusProxy ≠ none →
      Interlude sourceId repeats (.addSource source)
  | request {now : Bool} {data : GVariantWrapper V} {outcomes : Outcomes} : repeats →
      Interlude sourceId repeats (.activateSource sourceId now data outcomes)

namespace Session

/-- In `t`, everything is as it was in `s` but for registrations, and the pending source
can be called. -/
structure Awaits (s t : Session V) : Prop where
  consistent : Consistent t.paths t.switch
  switch : t.switch = s.switch
  log : t.log = s.log
  provided : t.switch.pending.sourceId ≠ "" →
    ∃ source, t.paths.lookupSource t.switch.pending.sourceId = some source ∧
      source.dbusProxy ≠ none

/-- Nothing that happens in between matters. -/
theorem Awaits.step {s t : Session V} (h : Awaits s t) {sourceId : String} {repeats : Prop}
    (hpending : repeats → sourceId ≠ "" ∧ sourceId = s.switch.pending.sourceId)
    {op : Operation V} (hop : Interlude sourceId repeats op) :
    ∃ t', (system V).step t op = some t' ∧ Awaits s t' := by
  cases hop with
  | @addPlayer player hproxy =>
      refine ⟨_, rfl, ?_⟩
      split
      · exact h
      · exact ⟨h.consistent.mono (Paths.extends_addPlayer _ _), h.switch, h.log, h.provided⟩
  | @addSource source hproxy =>
      refine ⟨_, rfl, ?_⟩
      split
      · exact h
      · refine ⟨h.consistent.mono (Paths.extends_addSource _ _), h.switch, h.log, ?_⟩
        intro hsome
        by_cases hid : source.id = t.switch.pending.sourceId
        · obtain ⟨stored, hstored, hsame⟩ := t.paths.addSource_dbusProxy source
          exact ⟨stored, hid ▸ hstored, hsame ▸ hproxy⟩
        · obtain ⟨old, hold, hprovided⟩ := h.provided hsome
          refine ⟨old, ?_, hprovided⟩
          rw [Paths.addSource_lookupSource, if_neg hid]
          exact hold
  | @request now data outcomes hrepeats =>
      obtain ⟨hnonempty, hsame⟩ := hpending hrepeats
      have ha : Activates outcomes t.paths t.switch data sourceId now _ _ _ :=
        .alreadyPending hnonempty (h.switch ▸ hsame)
      have hrun := ha.run h.consistent []
      refine ⟨t, ?_, h⟩
      rw [step_eq_some]
      simp [perform, carryOut, hrun, ending, update]

/-! ## Both phases -/

/-- Started in `s`, phase one (`b`) and phase two (`result`) together have come to the
same as the immediate request (`a`). -/
structure Refines (s : Session V) (a : Activation) (immediate : Session V) (b : Activation)
    (result : ActivateResult) (final : Session V) : Prop where
  switch : final.switch = immediate.switch
  settled : final.switch.pending = {}
  /-- The same has been sent, besides putting the source on hold. -/
  sent : ∃ es fs, immediate.log = s.log ++ es ∧ final.log = s.log ++ fs ∧
    messagesWithoutHold fs = messages es ∧ holds fs = if b.result.isOk then 1 else 0
  switched : result = .okPlayerSwitchedSourceDeferred ↔ a.result = .okPlayerSwitched
  same : result = .okPlayerSameSourceDeferred ↔ a.result = .okPlayerSame

/-- The source waits with its proxy. -/
theorem Awaits.initial {s : Session V} {outcomes : Outcomes} {data : GVariantWrapper V}
    {sourceId : String} {a b : Activation} {sw' waiting : Switch V}
    {es fs : List (BusEntry V)} (h : Consistent s.paths waiting)
    (hphase : PhaseOne outcomes s.paths s.switch data sourceId a sw' es b waiting fs) :
    Awaits (s.update ⟨waiting, fs⟩) (s.update ⟨waiting, fs⟩) where
  consistent := h
  switch := rfl
  log := rfl
  provided hpending := by
    cases hphase with
    | failed _ hnone => exact absurd (congrArg PendingActivation.sourceId hnone) hpending
    | arrived _ hlookup hproxy => exact ⟨_, hlookup, by simp [hproxy]⟩

theorem pending_of_isOk {paths : Paths} {sw : Switch V} {outcomes : Outcomes}
    {data : GVariantWrapper V} {sourceId : String} {a b : Activation}
    {sw' waiting : Switch V} {es fs : List (BusEntry V)}
    (hphase : PhaseOne outcomes paths sw data sourceId a sw' es b waiting fs)
    (hok : b.result.isOk = true) : sourceId ≠ "" ∧ sourceId = waiting.pending.sourceId := by
  cases hphase with
  | failed hfailed =>
      rw [hfailed] at hok
      cases hok
  | arrived hnonempty => exact ⟨hnonempty, rfl⟩

/-- Phase two finishes what phase one has begun. -/
theorem Awaits.complete {s ready : Session V} {outcomes : Outcomes}
    {data : GVariantWrapper V} {sourceId : String} {a b : Activation}
    {sw' waiting : Switch V} {es fs : List (BusEntry V)}
    (hphase : PhaseOne outcomes s.paths s.switch data sourceId a sw' es b waiting fs)
    (h : Awaits (s.update ⟨waiting, fs⟩) ready) (dest : Option String) :
    ∃ result dest' final,
      ready.carryOut (completePendingSourceActivation outcomes ready.paths dest) =
        .ok (result, dest') final ∧
      Refines s a (s.update ⟨sw', es⟩) b result final := by
  have hswitch : ready.switch = waiting := h.switch
  have hlog : ready.log = s.log ++ fs := h.log
  rcases completePendingSourceActivation_run outcomes h.consistent dest [] with
    ⟨result, final, gs, hc, hrun⟩ | ⟨⟨hpending, source, hnone, hlookup⟩, -⟩
  · refine ⟨result, _, ready.update ⟨final, gs⟩, by simp only [carryOut, hrun]; rfl, ?_⟩
    rw [hswitch] at hc
    cases hphase with
    | failed hfailed hnone hfree =>
        cases hc with
        | nothingPending =>
            refine ⟨rfl, hnone, ⟨es, es, rfl, by simp [update, hlog], hfree.1, ?_⟩, ?_, ?_⟩
            · rw [hfailed]
              exact hfree.2
            · cases hresult : a.result <;> simp_all [ActivateResult.isOk]
            · cases hresult : a.result <;> simp_all [ActivateResult.isOk]
        | sourceFailed hpending | selected hpending =>
            exact absurd (congrArg PendingActivation.sourceId hnone) hpending
    | @arrived source proxy playerId d es hnonempty _ _ hfree =>
        have hok : (activationResult s.switch playerId false).isOk = true := by
          unfold activationResult
          split <;> rfl
        have hsent : ∀ proxy' (ok : Bool),
            messagesWithoutHold (es ++
              [.called ⟨.selectedOnHold, proxy, sourceId, data⟩ true] ++
              [.called ⟨.selected, proxy', sourceId, data⟩ ok]) =
              messages (es ++ [.called ⟨.selected, proxy, sourceId, data⟩ ok]) ∧
            holds (es ++ [.called ⟨.selectedOnHold, proxy, sourceId, data⟩ true] ++
              [.called ⟨.selected, proxy', sourceId, data⟩ ok]) = 1 := by
          intro proxy' ok
          simp only [messagesWithoutHold_append, messages_append, holds_append, hfree.1, hfree.2]
          simp [messagesWithoutHold, messages, holds, BusEntry.message]
        cases hc with
        | nothingPending hnone => exact absurd hnone hnonempty
        | @sourceFailed source' proxy' _ _ _ hselected =>
            refine ⟨?_, rfl, ⟨_, _, rfl, by rw [update, hlog, List.append_assoc], ?_⟩, ?_, ?_⟩
            · simp [update, hselected]
            · rw [hok, hselected]
              exact hsent proxy' false
            · simp [hselected]
            · simp [hselected]
        | @selected source' proxy' _ _ _ hselected =>
            refine ⟨?_, rfl, ⟨_, _, rfl, by rw [update, hlog, List.append_assoc], ?_⟩, ?_, ?_⟩
            · simp [update, hselected]
            · rw [hok, hselected]
              exact hsent proxy' true
            · simp only [hselected, activationResult]
              split <;> simp
            · simp only [hselected, activationResult]
              split <;> simp
  · obtain ⟨source', hlookup', hproxy⟩ := h.provided hpending
    rw [hlookup] at hlookup'
    rw [← Option.some.inj hlookup'] at hproxy
    exact absurd hnone hproxy

/-- Deferring a request and completing it later comes to the same as making it at once:
whatever components are registered with a proxy in between, and, unless phase one has
failed, however often the source is requested again. -/
theorem deferred_refines_immediate {s immediate : Session V}
    (hreach : (system V).Reachable s) {sourceId : String}
    (hsource : sourceId = "" ∨ Fresh s.switch sourceId) {data : GVariantWrapper V}
    {outcomes : Outcomes} (hhold : outcomes .selectedOnHold = true) {a : Activation}
    (himmediate : s.carryOut (TapSwitch.activateSource outcomes s.paths sourceId true data) =
      .ok a immediate) :
    ∃ b waiting,
      s.carryOut (TapSwitch.activateSource outcomes s.paths sourceId false data) =
        .ok b waiting ∧
      ∀ between, (∀ op ∈ between, Interlude sourceId (b.result.isOk = true) op) → ∀ dest,
        ∃ ready result dest' final,
          (system V).exec waiting between = some ready ∧ ready.log = waiting.log ∧
          ready.carryOut (completePendingSourceActivation outcomes ready.paths dest) =
            .ok (result, dest') final ∧
          Refines s a immediate b result final := by
  have hsw := (sound_of_reachable hreach).consistent
  rcases activateSource_run outcomes data hsw sourceId true [] with
    ⟨a', sw', es, ha, hrun⟩ | ⟨sw', es, -, hrun⟩
  · simp only [carryOut, hrun, List.nil_append, EStateM.Result.ok.injEq] at himmediate
    obtain ⟨rfl, rfl⟩ := himmediate
    obtain ⟨b, waiting, fs, hb, hphase⟩ := ha.phaseOne hsource hhold
    refine ⟨b, s.update ⟨waiting, fs⟩, by simp only [carryOut, hb.run hsw]; rfl, ?_⟩
    intro between hbetween dest
    have hinitial := Awaits.initial (hb.consistent hsw) hphase
    obtain ⟨ready, hexec, hready⟩ := System.exec_of_preserved
      (fun t op ht hop => Awaits.step ht (pending_of_isOk hphase) hop) hinitial between hbetween
    obtain ⟨result, dest', final, hcomplete, hrefines⟩ := hready.complete hphase dest
    exact ⟨ready, result, dest', final, hexec, hready.log, hcomplete, hrefines⟩
  · simp only [carryOut, hrun] at himmediate
    cases himmediate

/-- The source is requested once more while it waits. -/
theorem deferred_refines_immediate_again :
    ∃ (s waiting ready final : Session Unit) (b : Activation) (result : ActivateResult)
      (dest : Option String),
      (system Unit).exec (system Unit).init (requestOperations.take 2) = some s ∧
      s.carryOut (TapSwitch.activateSource (fun _ => true) s.paths "source" false none) =
        .ok b waiting ∧
      (system Unit).exec waiting [.activateSource "source" true none fun _ => false] =
        some ready ∧
      ready.carryOut (completePendingSourceActivation (fun _ => true) ready.paths none) =
        .ok (result, dest) final ∧
      final.switch = ⟨"source", "player", {}⟩ := by
  have hexec : ∃ (s immediate waiting : Session Unit) (a b : Activation),
      (system Unit).exec (system Unit).init (requestOperations.take 2) = some s ∧
      s.switch = {} ∧
      s.carryOut (TapSwitch.activateSource (fun _ => true) s.paths "source" true none) =
        .ok a immediate ∧
      immediate.switch = ⟨"source", "player", {}⟩ ∧
      s.carryOut (TapSwitch.activateSource (fun _ => true) s.paths "source" false none) =
        .ok b waiting ∧
      b.result.isOk = true := ⟨_, _, _, _, _, rfl, rfl, rfl, rfl, rfl, rfl⟩
  obtain ⟨s, immediate, waiting, a, b, hs, hidle, ha, himmediate, hb, hok⟩ := hexec
  have hfresh : Fresh s.switch "source" := by
    rw [hidle]
    exact ⟨by decide, by decide, by decide⟩
  obtain ⟨b', waiting', hb', hall⟩ :=
    deferred_refines_immediate (System.run_of_exec hs).reachable (.inr hfresh) rfl ha
  rw [hb] at hb'
  cases hb'
  obtain ⟨ready, result, dest, final, hready, -, hfinal, hrefines⟩ := hall
    [.activateSource "source" true none fun _ => false]
    (fun op hop => List.mem_singleton.mp hop ▸ .request hok) none
  exact ⟨s, waiting, ready, final, b, result, dest, hs, hb, hready, hfinal,
    hrefines.switch.trans himmediate⟩

/-- The source is registered between two requests: now the second one succeeds. -/
theorem deferred_not_always_immediate :
    ¬ ∀ (s immediate : Session Unit), (system Unit).Reachable s →
      ∀ (sourceId : String), sourceId = "" ∨ Fresh s.switch sourceId →
      ∀ (data : GVariantWrapper Unit) (outcomes : Outcomes), outcomes .selectedOnHold = true →
      ∀ a, s.carryOut (TapSwitch.activateSource outcomes s.paths sourceId true data) =
        .ok a immediate →
      ∀ b waiting, s.carryOut (TapSwitch.activateSource outcomes s.paths sourceId false data) =
        .ok b waiting →
      ∀ between, (∀ op ∈ between, Interlude sourceId True op) →
      ∀ dest ready result final, (system Unit).exec waiting between = some ready →
        ready.carryOut (completePendingSourceActivation outcomes ready.paths dest) =
          .ok result final →
        final.switch.currentSourceId = immediate.switch.currentSourceId := by
  intro hall
  let between : List (Operation Unit) := requestOperations.take 2 ++
    [.activateSource "source" false none fun _ => true]
  have hexec : ∃ (a b : Activation) (immediate waiting ready final : Session Unit) (result : _),
      (initial : Session Unit).carryOut (TapSwitch.activateSource (fun _ => true) .empty
        "source" true none) = .ok a immediate ∧
      (initial : Session Unit).carryOut (TapSwitch.activateSource (fun _ => true) .empty
        "source" false none) = .ok b waiting ∧
      (system Unit).exec waiting between = some ready ∧
      ready.carryOut (completePendingSourceActivation (fun _ => true) ready.paths none) =
        .ok result final ∧
      final.switch.currentSourceId = "source" ∧ immediate.switch.currentSourceId = "" :=
    ⟨_, _, _, _, _, _, _, rfl, rfl, rfl, rfl, rfl, rfl⟩
  obtain ⟨a, b, immediate, waiting, ready, final, result, ha, hb, hready, hfinal, hsource,
    hnone⟩ := hexec
  have hbetween : ∀ op ∈ between, Interlude "source" True op := by
    intro op hop
    simp only [between, requestOperations, List.take, List.cons_append, List.nil_append,
      List.mem_cons, List.not_mem_nil, or_false] at hop
    rcases hop with rfl | rfl | rfl
    · exact .addPlayer (by simp)
    · exact .addSource (by simp)
    · exact .request trivial
  have hsame := hall initial immediate .init "source" (.inr ⟨by decide, by decide, by decide⟩)
    none (fun _ => true) rfl a ha b waiting hb between hbetween none ready result final hready
    hfinal
  rw [hsource, hnone] at hsame
  exact absurd hsame (by decide)

end Session

end TapSwitch
