import TapSwitch.Library.System

set_option autoImplicit false

/-!
# Implementing one system by another

The events of a system are translated to lists of events of another one, depending on
the state they meet.  The other system implements the first if related states stay
related while the translated events are carried out.  The rule for runs is proved
once; it serves in both directions, from a concrete system to its abstraction and
back.
-/

namespace TapSwitch.Library

namespace System

variable {σ ε τ δ : Type}

theorem exec_nil (sys : System σ ε) (s : σ) : sys.exec s [] = some s := rfl

theorem exec_cons (sys : System σ ε) (s : σ) (e : ε) (rest : List ε) :
    sys.exec s (e :: rest) = (sys.step s e).bind fun s' => sys.exec s' rest := rfl

theorem exec_append (sys : System σ ε) (s : σ) (evs more : List ε) :
    sys.exec s (evs ++ more) = (sys.exec s evs).bind fun s' => sys.exec s' more :=
  List.foldlM_append

/-- Events that can be carried out one by one can be carried out. -/
theorem exec_cons_of_step {sys : System σ ε} {s s' : σ} {e : ε} (h : sys.step s e = some s')
    (rest : List ε) : sys.exec s (e :: rest) = sys.exec s' rest := by
  rw [exec_cons, h, Option.bind_some]

theorem exec_singleton {sys : System σ ε} {s : σ} {e : ε} :
    sys.exec s [e] = sys.step s e := by
  rw [exec_cons]
  cases sys.step s e <;> rfl

theorem exec_append_of_exec {sys : System σ ε} {s s' : σ} {evs : List ε}
    (h : sys.exec s evs = some s') (more : List ε) :
    sys.exec s (evs ++ more) = sys.exec s' more := by
  rw [exec_append, h, Option.bind_some]

/-- A run is what executing its events from the initial state amounts to. -/
theorem Run.exec_eq {sys : System σ ε} {evs : List ε} {s : σ} (h : sys.Run evs s) :
    sys.exec sys.init evs = some s := by
  induction h with
  | nil => rfl
  | snoc _ hstep ih => rw [exec_append_of_exec ih, exec_singleton, hstep]

theorem Reachable.exec {sys : System σ ε} {s s' : σ} {evs : List ε} (h : sys.Reachable s)
    (hexec : sys.exec s evs = some s') : sys.Reachable s' := by
  obtain ⟨pre, hrun⟩ := h
  exact ⟨pre ++ evs, hrun.exec hexec⟩

/-! ## Translating events -/

/-- What a list of events amounts to when each event is translated in the state it meets.
The translation ends with the first event that cannot be carried out. -/
def translate (sys : System σ ε) (f : σ → ε → List δ) : σ → List ε → List δ
  | _, [] => []
  | s, e :: rest =>
      f s e ++
        match sys.step s e with
        | some s' => translate sys f s' rest
        | none => []

variable {sys : System σ ε} {f : σ → ε → List δ}

@[simp] theorem translate_nil (s : σ) : sys.translate f s [] = [] := rfl

theorem translate_append {s s' : σ} {evs : List ε} (h : sys.exec s evs = some s')
    (more : List ε) :
    sys.translate f s (evs ++ more) = sys.translate f s evs ++ sys.translate f s' more := by
  induction evs generalizing s with
  | nil =>
      rw [exec_nil, Option.some.injEq] at h
      rw [h]
      rfl
  | cons e rest ih =>
      rw [exec_cons, Option.bind_eq_some_iff] at h
      obtain ⟨mid, hstep, hrest⟩ := h
      simp only [List.cons_append, translate, hstep, ih hrest, List.append_assoc]

theorem translate_singleton (s : σ) (e : ε) : sys.translate f s [e] = f s e := by
  unfold translate
  split
  · simp
  · simp

/-- The last event of a run is translated in the state it meets. -/
theorem Run.translate_concat {evs : List ε} {s : σ} (h : sys.Run evs s) (e : ε) :
    sys.translate f sys.init (evs ++ [e]) = sys.translate f sys.init evs ++ f s e := by
  rw [translate_append h.exec_eq, translate_singleton]

/-- A translation that does not look at the state, of events that can always be carried
out. -/
theorem translate_of_total {f : ε → List δ} (htotal : ∀ s e, ∃ s', sys.step s e = some s')
    (s : σ) (evs : List ε) : sys.translate (fun _ e => f e) s evs = evs.flatMap f := by
  induction evs generalizing s with
  | nil => rfl
  | cons e rest ih =>
      obtain ⟨s', hstep⟩ := htotal s e
      simp only [translate, hstep, ih, List.flatMap_cons]

/-! ## Implementations -/

/-- Related states stay related when an event is carried out on one side and its
translation on the other. -/
structure ImplementedBy (sys : System σ ε) (impl : System τ δ) (R : σ → τ → Prop)
    (f : σ → ε → List δ) : Prop where
  /-- The initial states are related. -/
  init : R sys.init impl.init
  /-- The translation of an event can be carried out, and keeps the states related. -/
  step : ∀ {s e s' t}, sys.Reachable s → R s t → sys.step s e = some s' →
    ∃ t', impl.exec t (f s e) = some t' ∧ R s' t'

/-- Every run of a system can be followed by its implementation. -/
theorem ImplementedBy.run {impl : System τ δ} {R : σ → τ → Prop}
    (h : sys.ImplementedBy impl R f) {evs : List ε} {s : σ} (hrun : sys.Run evs s) :
    ∃ t, impl.Run (sys.translate f sys.init evs) t ∧ R s t := by
  refine run_induction
    (P := fun evs s => ∃ t, impl.Run (sys.translate f sys.init evs) t ∧ R s t)
    ⟨_, .nil, h.init⟩ ?_ hrun
  rintro evs s e s' hrun ⟨t, ht, hR⟩ hstep
  obtain ⟨t', hexec, hR'⟩ := h.step hrun.reachable hR hstep
  exact ⟨t', hrun.translate_concat e ▸ ht.exec hexec, hR'⟩

end System

end TapSwitch.Library
