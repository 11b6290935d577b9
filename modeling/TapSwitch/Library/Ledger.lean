import Mathlib.Algebra.BigOperators.Group.List.Basic
import Mathlib.Algebra.Order.Ring.Int

set_option autoImplicit false

/-!
# Ledgers of references

The events of a trace take and drop references to resources, and use them.  A ledger
says which event does what.  Two questions are asked of a trace: what remains when all
is added up, and whether, starting with some references, each use is backed by a
reference that has not been dropped yet.
-/

namespace TapSwitch.Library

/-- What the events of a trace mean for the references to resources. -/
structure Ledger (ε κ : Type) where
  /-- References taken minus references dropped by an event. -/
  change : ε → κ → Int
  /-- The resources an event needs. -/
  uses : ε → κ → Prop

namespace Ledger

variable {ε κ : Type} (ledger : Ledger ε κ)

/-- References taken minus references dropped all along a trace. -/
def balance (trace : List ε) (k : κ) : Int := (trace.map fun e => ledger.change e k).sum

/-- Whoever starts with `owned` references uses nothing after the last of them has been
dropped. -/
def Covered (owned : κ → Int) : List ε → Prop
  | [] => True
  | e :: rest =>
      (∀ k, ledger.uses e k → 0 < owned k) ∧ Covered (fun k => owned k + ledger.change e k) rest

variable {ledger}

@[simp] theorem balance_nil (k : κ) : ledger.balance [] k = 0 := rfl

@[simp] theorem balance_cons (e : ε) (trace : List ε) (k : κ) :
    ledger.balance (e :: trace) k = ledger.change e k + ledger.balance trace k := by
  simp [balance]

@[simp] theorem balance_append (trace more : List ε) (k : κ) :
    ledger.balance (trace ++ more) k = ledger.balance trace k + ledger.balance more k := by
  simp [balance]

@[simp] theorem covered_nil (owned : κ → Int) : ledger.Covered owned [] := trivial

theorem covered_append (owned : κ → Int) (trace more : List ε) :
    ledger.Covered owned (trace ++ more) ↔
      ledger.Covered owned trace ∧
        ledger.Covered (fun k => owned k + ledger.balance trace k) more := by
  induction trace generalizing owned with
  | nil => simp
  | cons e rest ih =>
      simp only [List.cons_append, Covered, ih, and_assoc, balance_cons, add_assoc]

/-- Whoever owns more may do the same. -/
theorem Covered.mono {owned more : κ → Int} {trace : List ε} (h : ledger.Covered owned trace)
    (hmore : ∀ k, owned k ≤ more k) : ledger.Covered more trace := by
  induction trace generalizing owned more with
  | nil => trivial
  | cons e rest ih =>
      obtain ⟨huses, hrest⟩ := h
      refine ⟨fun k hk => lt_of_lt_of_le (huses k hk) (hmore k), ih hrest fun k => ?_⟩
      have hk := hmore k
      omega

/-- Nothing has to be owned by those who use nothing. -/
theorem covered_of_unused {owned : κ → Int} {trace : List ε}
    (h : ∀ e ∈ trace, ∀ k, ¬ ledger.uses e k) : ledger.Covered owned trace := by
  induction trace generalizing owned with
  | nil => trivial
  | cons e rest ih =>
      refine ⟨fun k hk => absurd hk (h e List.mem_cons_self k), ?_⟩
      exact ih fun e' he' => h e' (List.mem_cons_of_mem _ he')

/-- Two ledgers may differ about events that do not occur. -/
theorem covered_congr {other : Ledger ε κ} {owned : κ → Int} {trace : List ε}
    (hchange : ∀ e ∈ trace, ∀ k, ledger.change e k = other.change e k)
    (huses : ∀ e ∈ trace, ∀ k, ledger.uses e k ↔ other.uses e k) :
    ledger.Covered owned trace ↔ other.Covered owned trace := by
  induction trace generalizing owned with
  | nil => exact Iff.rfl
  | cons e rest ih =>
      have hnext : (fun k => owned k + ledger.change e k) =
          fun k => owned k + other.change e k := by
        funext k
        rw [hchange e List.mem_cons_self k]
      unfold Covered
      rw [hnext, ih (fun e' he' => hchange e' (List.mem_cons_of_mem _ he'))
        fun e' he' => huses e' (List.mem_cons_of_mem _ he')]
      simp only [huses e List.mem_cons_self]

/-- Events that neither use nor change anything do not matter. -/
theorem balance_of_inert {trace : List ε} (h : ∀ e ∈ trace, ∀ k, ledger.change e k = 0) (k : κ) :
    ledger.balance trace k = 0 := by
  induction trace with
  | nil => rfl
  | cons e rest ih =>
      rw [balance_cons, h e List.mem_cons_self k,
        ih fun e' he' => h e' (List.mem_cons_of_mem _ he'), add_zero]

end Ledger

end TapSwitch.Library
