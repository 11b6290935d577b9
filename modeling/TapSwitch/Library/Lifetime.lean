import Mathlib.Logic.Function.Basic
import TapSwitch.Library.Refinement

set_option autoImplicit false

/-!
# Lifetimes

A resource is created once, used while it lives, and destroyed at most once.  A history
of these events that keeps to the rules is a run of the system defined here; one that
uses or destroys a resource that does not live, or creates one twice, is not.
-/

namespace TapSwitch.Library

/-- Something that happens to a resource. -/
inductive Lifetime (κ : Type) where
  | created (k : κ)
  | used (k : κ)
  | destroyed (k : κ)
  deriving DecidableEq, Repr

/-- How far a resource has come. -/
inductive Stage where
  | unborn
  | live
  | dead
  deriving DecidableEq, Repr

/-- The order in which the stages follow each other. -/
def Stage.age : Stage → Nat
  | .unborn => 0
  | .live => 1
  | .dead => 2

namespace Lifetime

variable {κ : Type} [DecidableEq κ]

/-- What an event makes of the stages, if it is allowed. -/
def step (stages : κ → Stage) : Lifetime κ → Option (κ → Stage)
  | .created k =>
      if stages k = .unborn then some (Function.update stages k .live) else none
  | .used k => if stages k = .live then some stages else none
  | .destroyed k =>
      if stages k = .live then some (Function.update stages k .dead) else none

variable (κ) in
/-- Histories that keep to the rules. -/
def system : System (κ → Stage) (Lifetime κ) where
  init _ := .unborn
  step := step

variable {stages stages' : κ → Stage} {k : κ}

theorem step_created (h : stages k = .unborn) :
    (system κ).step stages (.created k) = some (Function.update stages k .live) := if_pos h

theorem step_destroyed (h : stages k = .live) :
    (system κ).step stages (.destroyed k) = some (Function.update stages k .dead) := if_pos h

/-- What lives may be used. -/
theorem exec_used (ks : List κ) (h : ∀ k ∈ ks, stages k = .live) :
    (system κ).exec stages (ks.map .used) = some stages := by
  induction ks with
  | nil => rfl
  | cons k rest ih =>
      have hstep : (system κ).step stages (.used k) = some stages :=
        if_pos (h k List.mem_cons_self)
      rw [List.map_cons, System.exec_cons_of_step hstep]
      exact ih fun k' hk' => h k' (List.mem_cons_of_mem _ hk')

/-- What lives may be destroyed, once. -/
theorem exec_destroyed (ks : List κ) (hnodup : ks.Nodup) (h : ∀ k ∈ ks, stages k = .live) :
    (system κ).exec stages (ks.map .destroyed) =
      some fun k => if k ∈ ks then .dead else stages k := by
  induction ks generalizing stages with
  | nil => rfl
  | cons k rest ih =>
      obtain ⟨hk, hrest⟩ := List.nodup_cons.mp hnodup
      rw [List.map_cons,
        System.exec_cons_of_step (step_destroyed (h k List.mem_cons_self)), ih hrest]
      · congr 1
        funext j
        by_cases hj : j = k
        · simp [hj]
        · simp [hj]
      · intro j hj
        rw [Function.update_of_ne (ne_of_mem_of_not_mem hj hk)]
        exact h j (List.mem_cons_of_mem _ hj)

/-- A resource only gets older. -/
theorem age_le_of_step {e : Lifetime κ} (hstep : (system κ).step stages e = some stages')
    (k : κ) : (stages k).age ≤ (stages' k).age := by
  have hupdate : ∀ {j : κ} {stage : Stage}, (stages j).age ≤ stage.age →
      (stages k).age ≤ (Function.update stages j stage k).age := by
    intro j stage hle
    by_cases hk : k = j
    · rw [hk, Function.update_self]
      exact hle
    · rw [Function.update_of_ne hk]
  cases e with
  | created j =>
      obtain ⟨hj, heq⟩ := Option.ite_none_right_eq_some.mp hstep
      rw [← Option.some.inj heq]
      apply hupdate
      rw [hj]
      decide
  | used j =>
      obtain ⟨-, heq⟩ := Option.ite_none_right_eq_some.mp hstep
      rw [← Option.some.inj heq]
  | destroyed j =>
      obtain ⟨hj, heq⟩ := Option.ite_none_right_eq_some.mp hstep
      rw [← Option.some.inj heq]
      apply hupdate
      rw [hj]
      decide

theorem age_le_of_exec {history : List (Lifetime κ)}
    (hexec : (system κ).exec stages history = some stages') (k : κ) :
    (stages k).age ≤ (stages' k).age := by
  induction history generalizing stages with
  | nil =>
      rw [System.exec_nil, Option.some.injEq] at hexec
      rw [hexec]
  | cons e rest ih =>
      rw [System.exec_cons, Option.bind_eq_some_iff] at hexec
      obtain ⟨mid, hstep, hrest⟩ := hexec
      exact Nat.le_trans (age_le_of_step hstep k) (ih hrest)

/-- What is dead stays dead. -/
theorem dead_of_exec {history : List (Lifetime κ)} (hdead : stages k = .dead)
    (hexec : (system κ).exec stages history = some stages') : stages' k = .dead := by
  have hage := age_le_of_exec hexec k
  rw [hdead] at hage
  cases hstage : stages' k with
  | dead => rfl
  | unborn | live =>
      rw [hstage] at hage
      simp [Stage.age] at hage

/-- What has been created stays so. -/
theorem born_of_exec {history : List (Lifetime κ)} (hborn : stages k ≠ .unborn)
    (hexec : (system κ).exec stages history = some stages') : stages' k ≠ .unborn := by
  have hage := age_le_of_exec hexec k
  intro hunborn
  rw [hunborn] at hage
  cases hstage : stages k with
  | unborn => exact hborn hstage
  | live | dead =>
      rw [hstage] at hage
      simp [Stage.age] at hage

/-! ## Owners -/

variable {ι : Type} [DecidableEq ι] {own : ι → Option κ}

/-- What lives is held by one owner each, and an owner holds at most one resource. -/
structure Held (own : ι → Option κ) (stages : κ → Stage) : Prop where
  live : ∀ k, stages k = .live ↔ ∃ i, own i = some k
  unique : ∀ {i j : ι} {k : κ}, own i = some k → own j = some k → i = j

omit [DecidableEq κ] [DecidableEq ι] in
theorem Held.empty : Held (fun _ : ι => none) (fun _ : κ => .unborn) where
  live k := by simp
  unique h := by cases h

/-- A resource is created and given to an owner, who holds nothing. -/
theorem Held.give (h : Held own stages) {i : ι} (hnone : own i = none)
    (hk : stages k = .unborn) :
    Held (Function.update own i (some k)) (Function.update stages k .live) where
  live j := by
    by_cases hj : j = k
    · subst hj
      rw [Function.update_self, eq_self, true_iff]
      exact ⟨i, Function.update_self ..⟩
    · rw [Function.update_of_ne hj, h.live]
      apply exists_congr
      intro o
      by_cases ho : o = i
      · subst ho
        rw [Function.update_self, hnone]
        simp [Ne.symm hj]
      · rw [Function.update_of_ne ho]
  unique {a b j} ha hb := by
    have hfree : ∀ {o : ι}, own o = some k → False := fun ho => by
      rw [(h.live k).mpr ⟨_, ho⟩] at hk
      cases hk
    by_cases hai : a = i
    · by_cases hbi : b = i
      · rw [hai, hbi]
      · rw [hai, Function.update_self, Option.some.injEq] at ha
        rw [Function.update_of_ne hbi, ← ha] at hb
        exact (hfree hb).elim
    · rw [Function.update_of_ne hai] at ha
      by_cases hbi : b = i
      · rw [hbi, Function.update_self, Option.some.injEq] at hb
        rw [← hb] at ha
        exact (hfree ha).elim
      · rw [Function.update_of_ne hbi] at hb
        exact h.unique ha hb

/-- The resource of an owner is destroyed. -/
theorem Held.destroy (h : Held own stages) {i : ι} (hk : own i = some k) :
    Held (Function.update own i none) (Function.update stages k .dead) where
  live j := by
    by_cases hj : j = k
    · subst hj
      rw [Function.update_self]
      refine iff_of_false (by simp) ?_
      rintro ⟨o, ho⟩
      by_cases hoi : o = i
      · rw [hoi, Function.update_self] at ho
        cases ho
      · rw [Function.update_of_ne hoi] at ho
        exact hoi (h.unique ho hk)
    · rw [Function.update_of_ne hj, h.live]
      apply exists_congr
      intro o
      by_cases ho : o = i
      · subst ho
        rw [Function.update_self, hk]
        simp [Ne.symm hj]
      · rw [Function.update_of_ne ho]
  unique {a b j} ha hb := by
    have hold : ∀ {o : ι}, Function.update own i none o = some j → own o = some j := by
      intro o ho
      by_cases hoi : o = i
      · rw [hoi, Function.update_self] at ho
        cases ho
      · rwa [Function.update_of_ne hoi] at ho
    exact h.unique (hold ha) (hold hb)

/-- What `new` stands for comes to life. -/
def born (stages : κ → Stage) (new : Option κ) : κ → Stage :=
  new.elim stages fun k => Function.update stages k .live

theorem exec_created {new : Option κ} (hnew : ∀ k ∈ new, stages k = .unborn) :
    (system κ).exec stages (new.toList.map .created) = some (born stages new) := by
  cases new with
  | none => rfl
  | some k =>
      rw [Option.toList_some, List.map_singleton, System.exec_singleton]
      exact step_created (hnew k rfl)

/-- An owner exchanges what it holds: the new resource is created before the old one is
destroyed. -/
theorem Held.replace (h : Held own stages) (i : ι) {new : Option κ}
    (hnew : ∀ k ∈ new, stages k = .unborn) :
    ∃ stages', (system κ).exec stages
        (new.toList.map .created ++ (own i).toList.map .destroyed) = some stages' ∧
      Held (Function.update own i new) stages' ∧
      ∀ k, k ∉ new → stages k = .unborn → stages' k = .unborn := by
  have hborn : ∀ k, k ∉ new → born stages new k = stages k := by
    intro k hk
    cases new with
    | none => rfl
    | some j =>
        rw [Option.mem_some] at hk
        exact Function.update_of_ne (Ne.symm hk) ..
  rw [System.exec_append_of_exec (exec_created hnew)]
  cases hold : own i with
  | none =>
      refine ⟨born stages new, rfl, ?_, fun k hk hunborn => (hborn k hk).trans hunborn⟩
      cases new with
      | none =>
          have hsame := Function.update_eq_self i own
          rw [hold] at hsame
          rw [hsame]
          exact h
      | some k => exact h.give hold (hnew k rfl)
  | some o =>
      have ho : stages o = .live := (h.live o).mpr ⟨i, hold⟩
      have hother : o ∉ new := by
        intro hmem
        rw [hnew o hmem] at ho
        cases ho
      refine ⟨Function.update (born stages new) o .dead, ?_, ?_, ?_⟩
      · rw [Option.toList_some, List.map_singleton, System.exec_singleton]
        exact step_destroyed ((hborn o hother).trans ho)
      · have hdestroyed := h.destroy hold
        cases new with
        | none => exact hdestroyed
        | some k =>
            have hne : k ≠ o := fun heq => hother (heq ▸ rfl)
            have hgiven := hdestroyed.give (Function.update_self ..) (k := k)
              ((Function.update_of_ne hne ..).trans (hnew k rfl))
            rw [Function.update_idem, Function.update_comm hne.symm] at hgiven
            exact hgiven
      · intro k hk hunborn
        have hne : k ≠ o := by
          rintro rfl
          rw [hunborn] at ho
          cases ho
        rw [Function.update_of_ne hne, hborn k hk, hunborn]

end Lifetime

end TapSwitch.Library
