import Mathlib.Data.List.Infix

set_option autoImplicit false

/-!
# Deterministic transition systems and their runs

A system here is an initial state and a partial step function.  Everything the
environment decides is part of the event, so a list of events determines at most
one run.  `step` is `none` on an event that cannot be carried out; a run never
takes such a step.

Three rules are proved once: an inductive invariant holds in every reachable
state, a property whose preservation is *characterised* by a condition on the
step holds along a run exactly when every step of the run meets the condition,
and a simulation transports reachability from a concrete to an abstract system.
-/

namespace TapSwitch.Library

/-- An initial state and a partial step function. -/
structure System (σ ε : Type) where
  /-- The initial state. -/
  init : σ
  /-- The state after an event, if the event can be carried out. -/
  step : σ → ε → Option σ

namespace System

variable {σ ε : Type} (sys : System σ ε)

/-- `sys.Run evs s`: the events `evs`, in this order, lead from the initial
state to `s`. -/
inductive Run : List ε → σ → Prop
  | nil : Run [] sys.init
  | snoc {evs : List ε} {s s' : σ} {e : ε} :
      Run evs s → sys.step s e = some s' → Run (evs ++ [e]) s'

/-- Some run ends in `s`. -/
def Reachable (s : σ) : Prop := ∃ evs, sys.Run evs s

variable {sys}

theorem Run.reachable {evs : List ε} {s : σ} (h : sys.Run evs s) :
    sys.Reachable s := ⟨evs, h⟩

theorem Reachable.init : sys.Reachable sys.init := ⟨[], .nil⟩

theorem Reachable.step {s s' : σ} {e : ε} (h : sys.Reachable s)
    (hstep : sys.step s e = some s') : sys.Reachable s' := by
  obtain ⟨evs, hrun⟩ := h
  exact ⟨evs ++ [e], hrun.snoc hstep⟩

/-- A run ends in the initial state if it has no events. -/
theorem Run.eq_init {s : σ} (h : sys.Run [] s) : s = sys.init := by
  generalize hevs : ([] : List ε) = evs at h
  cases h with
  | nil => rfl
  | snoc => simp at hevs

/-- The last step of a run. -/
theorem Run.unsnoc {evs : List ε} {e : ε} {s' : σ} (h : sys.Run (evs ++ [e]) s') :
    ∃ s, sys.Run evs s ∧ sys.step s e = some s' := by
  generalize hevs : evs ++ [e] = all at h
  cases h with
  | nil => simp at hevs
  | snoc hrun hstep =>
      obtain ⟨rfl, rfl⟩ : evs = _ ∧ e = _ := by
        simpa using List.append_inj' hevs rfl
      exact ⟨_, hrun, hstep⟩

/-- The events determine where a run ends. -/
theorem Run.functional {evs : List ε} {s : σ} (h : sys.Run evs s) :
    ∀ {s' : σ}, sys.Run evs s' → s = s' := by
  induction h with
  | nil => intro s' h'; exact h'.eq_init.symm
  | snoc _ hstep ih =>
      intro s' h'
      obtain ⟨mid, hrun, hstep'⟩ := h'.unsnoc
      rw [ih hrun, hstep'] at hstep
      exact (Option.some.inj hstep).symm

/-! ## Executing a list of events -/

/-- Carry out the events one after the other. -/
def exec (sys : System σ ε) (s : σ) (evs : List ε) : Option σ :=
  evs.foldlM sys.step s

/-- Executing events extends a run. -/
theorem Run.exec {pre evs : List ε} {s s' : σ} (h : sys.Run pre s)
    (hexec : sys.exec s evs = some s') : sys.Run (pre ++ evs) s' := by
  induction evs generalizing pre s with
  | nil => simpa [System.exec] using (Option.some.inj hexec) ▸ h
  | cons e rest ih =>
      simp only [System.exec, List.foldlM_cons, Option.bind_eq_bind,
        Option.bind_eq_some_iff] at hexec
      obtain ⟨mid, hstep, hrest⟩ := hexec
      simpa using ih (h.snoc hstep) hrest

/-- If events with `Q` can always be carried out and keep `P`, then so can any list of
them. -/
theorem exec_of_preserved {P : σ → Prop} {Q : ε → Prop}
    (hstep : ∀ s e, P s → Q e → ∃ s', sys.step s e = some s' ∧ P s') {s : σ} (hs : P s)
    (evs : List ε) (hevs : ∀ e ∈ evs, Q e) : ∃ s', sys.exec s evs = some s' ∧ P s' := by
  induction evs generalizing s with
  | nil => exact ⟨s, rfl, hs⟩
  | cons e rest ih =>
      obtain ⟨mid, hmid, hP⟩ := hstep s e hs (hevs e List.mem_cons_self)
      obtain ⟨s', hrest, hP'⟩ := ih hP fun e' he' => hevs e' (List.mem_cons_of_mem _ he')
      refine ⟨s', ?_, hP'⟩
      simp only [exec, List.foldlM_cons, hmid]
      exact hrest

/-- What the executable search reaches is reachable. -/
theorem run_of_exec {evs : List ε} {s : σ} (h : sys.exec sys.init evs = some s) :
    sys.Run evs s := by
  simpa using (@Run.nil _ _ sys).exec h

/-- A run, together with what is to be seen where it ends. -/
theorem exists_run_of_exec {β : Type} {f : σ → β} {evs : List ε} {b : β}
    (h : (sys.exec sys.init evs).map f = some b) : ∃ s, sys.Run evs s ∧ f s = b := by
  obtain ⟨s, hs, hb⟩ := Option.map_eq_some_iff.mp h
  exact ⟨s, run_of_exec hs, hb⟩

/-! ## Invariants -/

/-- An invariant that holds initially and that every step out of a reachable
state preserves holds in every reachable state. -/
theorem reachable_induction {P : σ → Prop} (hinit : P sys.init)
    (hstep : ∀ s e s', sys.Reachable s → P s → sys.step s e = some s' → P s')
    {s : σ} (h : sys.Reachable s) : P s := by
  obtain ⟨evs, hrun⟩ := h
  induction hrun with
  | nil => exact hinit
  | snoc hrun hnext ih => exact hstep _ _ _ hrun.reachable ih hnext

/-- The same rule for a property of the events taken so far and the state they
lead to. -/
theorem run_induction {P : List ε → σ → Prop} (hinit : P [] sys.init)
    (hstep : ∀ evs s e s', sys.Run evs s → P evs s → sys.step s e = some s' →
      P (evs ++ [e]) s')
    {evs : List ε} {s : σ} (h : sys.Run evs s) : P evs s := by
  induction h with
  | nil => exact hinit
  | snoc hrun hnext ih => exact hstep _ _ _ _ hrun ih hnext

/-! ## Conditions along a run -/

/-- `P` holds in every state the events `evs` pass through. -/
def StatesAlong (sys : System σ ε) (evs : List ε) (P : σ → Prop) : Prop :=
  ∀ pre s, pre <+: evs → sys.Run pre s → P s

/-- Every step that the events `evs` take meets `C`, a condition on the state
before the step and on its event. -/
def StepsAlong (sys : System σ ε) (evs : List ε) (C : σ → ε → Prop) : Prop :=
  ∀ pre e s, pre ++ [e] <+: evs → sys.Run pre s → C s e

theorem StatesAlong.last {evs : List ε} {P : σ → Prop} {s : σ}
    (h : sys.StatesAlong evs P) (hrun : sys.Run evs s) : P s :=
  h evs s (List.prefix_refl evs) hrun

theorem statesAlong_nil {P : σ → Prop} : sys.StatesAlong [] P ↔ P sys.init := by
  constructor
  · exact fun h => h.last .nil
  · intro h pre s hpre hrun
    rw [List.prefix_nil.mp hpre] at hrun
    exact hrun.eq_init ▸ h

theorem stepsAlong_nil {C : σ → ε → Prop} : sys.StepsAlong [] C := by
  intro pre e s hpre
  simp at hpre

/-- A condition that every event meets in every state. -/
theorem stepsAlong_of_forall {evs : List ε} {C : σ → ε → Prop}
    (h : ∀ s e, e ∈ evs → C s e) : sys.StepsAlong evs C := by
  intro pre e s hpre _
  exact h s e (hpre.subset (by simp))

theorem statesAlong_concat {evs : List ε} {e : ε} {P : σ → Prop} {s' : σ}
    (h : sys.Run (evs ++ [e]) s') :
    sys.StatesAlong (evs ++ [e]) P ↔ sys.StatesAlong evs P ∧ P s' := by
  constructor
  · intro hall
    exact ⟨fun pre s hpre => hall pre s (hpre.trans (List.prefix_append _ _)),
      hall.last h⟩
  · rintro ⟨hall, hlast⟩ pre s hpre hrun
    rcases List.prefix_concat_iff.mp hpre with rfl | hpre
    · exact h.functional hrun ▸ hlast
    · exact hall pre s hpre hrun

theorem stepsAlong_concat {evs : List ε} {e : ε} {C : σ → ε → Prop} {s : σ}
    (h : sys.Run evs s) :
    sys.StepsAlong (evs ++ [e]) C ↔ sys.StepsAlong evs C ∧ C s e := by
  constructor
  · intro hall
    exact ⟨fun pre e' s' hpre => hall pre e' s' (hpre.trans (List.prefix_append _ _)),
      hall evs e s (List.prefix_refl _) h⟩
  · rintro ⟨hall, hlast⟩ pre e' s' hpre hrun
    rcases List.prefix_concat_iff.mp hpre with heq | hpre
    · obtain ⟨rfl, rfl⟩ : pre = evs ∧ e' = e := by
        simpa using List.append_inj' heq rfl
      exact h.functional hrun ▸ hlast
    · exact hall pre e' s' hpre hrun

/-- Conditions that agree on every step out of a reachable state agree along runs. -/
theorem stepsAlong_congr {C D : σ → ε → Prop}
    (hstep : ∀ s e s', sys.Reachable s → sys.step s e = some s' → (C s e ↔ D s e))
    {evs : List ε} {s : σ} (h : sys.Run evs s) :
    sys.StepsAlong evs C ↔ sys.StepsAlong evs D := by
  induction h with
  | nil => exact iff_of_true stepsAlong_nil stepsAlong_nil
  | snoc hrun hnext ih =>
      rw [stepsAlong_concat hrun, stepsAlong_concat hrun, ih,
        hstep _ _ _ hrun.reachable hnext]

/-- If, from a reachable state with `P`, a step leads to a state with `P`
exactly when it meets `C`, then `P` holds all along a run exactly when all its
steps meet `C`. -/
theorem statesAlong_iff_stepsAlong {P : σ → Prop} {C : σ → ε → Prop}
    (hinit : P sys.init)
    (hstep : ∀ s e s', sys.Reachable s → P s → sys.step s e = some s' →
      (P s' ↔ C s e))
    {evs : List ε} {s : σ} (h : sys.Run evs s) :
    sys.StatesAlong evs P ↔ sys.StepsAlong evs C := by
  induction h with
  | nil => exact iff_of_true (statesAlong_nil.mpr hinit) stepsAlong_nil
  | snoc hrun hnext ih =>
      rw [statesAlong_concat (hrun.snoc hnext), stepsAlong_concat hrun, ← ih]
      constructor
      · rintro ⟨hall, hlast⟩
        exact ⟨hall, (hstep _ _ _ hrun.reachable (hall.last hrun) hnext).mp hlast⟩
      · rintro ⟨hall, hlast⟩
        exact ⟨hall, (hstep _ _ _ hrun.reachable (hall.last hrun) hnext).mpr hlast⟩

/-! ## Simulation -/

/-- Every concrete step out of a state related to a reachable abstract one is matched
by one abstract step or by none. -/
structure Simulates {τ δ : Type} (conc : System σ ε) (abs : System τ δ)
    (R : σ → τ → Prop) : Prop where
  /-- The initial states are related. -/
  init : R conc.init abs.init
  /-- A concrete step keeps the states related. -/
  step : ∀ {s e s' t}, abs.Reachable t → R s t → conc.step s e = some s' →
    R s' t ∨ ∃ o t', abs.step t o = some t' ∧ R s' t'

/-- Every reachable concrete state is related to a reachable abstract one. -/
theorem Simulates.reachable {τ δ : Type} {conc : System σ ε} {abs : System τ δ}
    {R : σ → τ → Prop} (sim : conc.Simulates abs R) {s : σ}
    (h : conc.Reachable s) : ∃ t, abs.Reachable t ∧ R s t := by
  refine reachable_induction (P := fun s => ∃ t, abs.Reachable t ∧ R s t)
    ⟨_, .init, sim.init⟩ ?_ h
  rintro s e s' - ⟨t, ht, hR⟩ hnext
  rcases sim.step ht hR hnext with hR' | ⟨o, t', habs, hR'⟩
  · exact ⟨t, ht, hR'⟩
  · exact ⟨t', ht.step habs, hR'⟩

end System

end TapSwitch.Library
