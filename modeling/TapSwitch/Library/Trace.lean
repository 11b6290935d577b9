import Mathlib.Data.List.Infix
import Mathlib.Logic.Function.Basic

set_option autoImplicit false

/-!
# Traces

A trace is the list of everything that happened, oldest first.  A *point* of a
trace is one of its prefixes.  This file gives the two ways the development
speaks about traces: properties of every point (or of every event together with
what happened before it), and registers that hold the value most recently
assigned to them.
-/

namespace TapSwitch.Library

variable {ε κ α : Type}

/-- `P` holds at every point of the trace. -/
def AtEveryPoint (P : List ε → Prop) (trace : List ε) : Prop :=
  ∀ pre, pre <+: trace → P pre

/-- `P past e` holds for every event `e` of the trace and its past. -/
def ForEachEvent (P : List ε → ε → Prop) (trace : List ε) : Prop :=
  ∀ past e, past ++ [e] <+: trace → P past e

theorem AtEveryPoint.last {P : List ε → Prop} {trace : List ε}
    (h : AtEveryPoint P trace) : P trace := h trace (List.prefix_refl _)

theorem ForEachEvent.imp {P Q : List ε → ε → Prop} {trace : List ε}
    (hPQ : ∀ past e, P past e → Q past e) (h : ForEachEvent P trace) :
    ForEachEvent Q trace := fun past e hpre => hPQ past e (h past e hpre)

@[simp] theorem atEveryPoint_nil {P : List ε → Prop} :
    AtEveryPoint P [] ↔ P [] := by
  simp [AtEveryPoint]

@[simp] theorem forEachEvent_nil {P : List ε → ε → Prop} : ForEachEvent P [] := by
  intro past e hpre
  simp at hpre

theorem atEveryPoint_concat {P : List ε → Prop} {trace : List ε} {e : ε} :
    AtEveryPoint P (trace ++ [e]) ↔ AtEveryPoint P trace ∧ P (trace ++ [e]) := by
  constructor
  · intro h
    exact ⟨fun pre hpre => h pre (hpre.trans (List.prefix_append _ _)), h.last⟩
  · rintro ⟨h, hlast⟩ pre hpre
    rcases List.prefix_concat_iff.mp hpre with rfl | hpre
    · exact hlast
    · exact h pre hpre

theorem forEachEvent_concat {P : List ε → ε → Prop} {trace : List ε} {e : ε} :
    ForEachEvent P (trace ++ [e]) ↔ ForEachEvent P trace ∧ P trace e := by
  constructor
  · intro h
    exact ⟨fun past e' hpre => h past e' (hpre.trans (List.prefix_append _ _)),
      h trace e (List.prefix_refl _)⟩
  · rintro ⟨h, hlast⟩ past e' hpre
    rcases List.prefix_concat_iff.mp hpre with heq | hpre
    · obtain ⟨rfl, rfl⟩ : past = trace ∧ e' = e := by
        simpa using List.append_inj' heq rfl
      exact hlast
    · exact h past e' hpre

/-! ## Registers -/

section Latest

variable [DecidableEq κ]

/-- The registers after a trace: register `k` holds what the latest event that
assigns to it (according to `w`) assigned, or `init` if there is none. -/
def latest (w : ε → Option (κ × α)) (init : α) (trace : List ε) : κ → α :=
  trace.foldl
    (fun regs e => match w e with
      | some (k, a) => Function.update regs k a
      | none => regs)
    (fun _ => init)

variable {w : ε → Option (κ × α)} {init : α}

@[simp] theorem latest_nil : latest w init [] = fun _ => init := rfl

theorem latest_concat (trace : List ε) (e : ε) :
    latest w init (trace ++ [e]) =
      match w e with
      | some (k, a) => Function.update (latest w init trace) k a
      | none => latest w init trace := by
  simp [latest]

theorem latest_concat_some {trace : List ε} {e : ε} {k : κ} {a : α}
    (h : w e = some (k, a)) :
    latest w init (trace ++ [e]) = Function.update (latest w init trace) k a := by
  rw [latest_concat, h]

theorem latest_concat_none {trace : List ε} {e : ε} (h : w e = none) :
    latest w init (trace ++ [e]) = latest w init trace := by
  rw [latest_concat, h]

/-- Events that assign nothing leave the registers alone. -/
theorem latest_append_of_silent (trace : List ε) {more : List ε}
    (h : ∀ e ∈ more, w e = none) :
    latest w init (trace ++ more) = latest w init trace := by
  induction more generalizing trace with
  | nil => simp
  | cons e rest ih =>
      rw [List.append_cons, ih _ fun e' he' => h e' (List.mem_cons_of_mem _ he'),
        latest_concat_none (h e List.mem_cons_self)]

/-- Events that assign to other registers leave this one alone. -/
theorem latest_append_of_other (trace : List ε) {more : List ε} {k : κ}
    (h : ∀ e ∈ more, ∀ a, w e ≠ some (k, a)) :
    latest w init (trace ++ more) k = latest w init trace k := by
  induction more generalizing trace with
  | nil => rw [List.append_nil]
  | cons e rest ih =>
      rw [List.append_cons, ih _ fun e' he' => h e' (List.mem_cons_of_mem _ he')]
      cases hw : w e with
      | none => rw [latest_concat_none hw]
      | some ka =>
          have hk : k ≠ ka.1 := by
            rintro rfl
            exact h e List.mem_cons_self ka.2 hw
          rw [latest_concat_some hw, Function.update_of_ne hk]

/-- If the assigning events of the added part all assign `a` to `k`, and there
is one, then `k` holds `a` afterwards. -/
theorem latest_append_of_all (trace : List ε) {more : List ε} {k : κ} {a : α}
    (hall : ∀ e ∈ more, w e = none ∨ w e = some (k, a))
    (hsome : ∃ e ∈ more, w e = some (k, a)) :
    latest w init (trace ++ more) k = a := by
  induction more using List.reverseRecOn with
  | nil => simp at hsome
  | append_singleton rest e ih =>
      rw [← List.append_assoc]
      rcases hall e (by simp) with hnone | hset
      · rw [latest_concat_none hnone]
        refine ih (fun e' he' => hall e' (by simp [he'])) ?_
        obtain ⟨e', he', hset⟩ := hsome
        rcases List.mem_append.mp he' with hmem | hmem
        · exact ⟨e', hmem, hset⟩
        · rw [List.mem_singleton.mp hmem, hnone] at hset
          exact absurd hset (by simp)
      · rw [latest_concat_some hset, Function.update_self]

/-- If events assign nothing but themselves, then a register holds one of them. -/
theorem mem_of_latest {w : ε → Option (κ × Option ε)} {trace : List ε} {k : κ} {e : ε}
    (hw : ∀ e, ∃ k, w e = some (k, some e)) (h : latest w none trace k = some e) :
    e ∈ trace := by
  induction trace using List.reverseRecOn with
  | nil => cases h
  | append_singleton rest last ih =>
      obtain ⟨j, hj⟩ := hw last
      rw [latest_concat_some hj] at h
      by_cases hk : k = j
      · subst hk
        rw [Function.update_self, Option.some.injEq] at h
        exact List.mem_append_right _ (List.mem_singleton.mpr h.symm)
      · rw [Function.update_of_ne hk] at h
        exact List.mem_append_left _ (ih h)

/-! ## Leases

A lease is a register that holds `true` while it is granted. -/

section Leases

variable {w : ε → Option (κ × Bool)} {trace : List ε} {e : ε} {k k' : κ}

theorem lease_granted (h : w e = some (k, true)) :
    latest w false (trace ++ [e]) k' = true ↔ k' = k ∨ latest w false trace k' = true := by
  rw [latest_concat_some h]
  by_cases hk : k' = k <;> simp [hk]

theorem lease_revoked (h : w e = some (k, false)) :
    latest w false (trace ++ [e]) k' = true ↔ k' ≠ k ∧ latest w false trace k' = true := by
  rw [latest_concat_some h]
  by_cases hk : k' = k <;> simp [hk]

/-- If nothing is granted while anything is held, then at no point of the trace are
two leases held at once. -/
theorem atMostOne_of_guarded
    (h : ForEachEvent (fun past e =>
      ∀ k, w e = some (k, true) → ∀ k', latest w false past k' = false) trace) :
    AtEveryPoint (fun past => ∀ k k', latest w false past k = true →
      latest w false past k' = true → k = k') trace := by
  induction trace using List.reverseRecOn with
  | nil => simp
  | append_singleton rest e ih =>
      obtain ⟨hrest, hlast⟩ := forEachEvent_concat.mp h
      refine atEveryPoint_concat.mpr ⟨ih hrest, ?_⟩
      intro k k' hk hk'
      have hbefore := (ih hrest).last k k'
      match hw : w e with
      | none =>
          rw [latest_concat_none hw] at hk hk'
          exact hbefore hk hk'
      | some (j, true) =>
          -- Nothing was held before, so only `j` can be held now.
          have honly : ∀ i, latest w false (rest ++ [e]) i = true → i = j := by
            intro i hi
            refine ((lease_granted hw).mp hi).resolve_right ?_
            rw [hlast j hw i]
            decide
          rw [honly k hk, honly k' hk']
      | some (j, false) =>
          exact hbefore ((lease_revoked hw).mp hk).2 ((lease_revoked hw).mp hk').2

end Leases

end Latest

end TapSwitch.Library
