import Mathlib.Data.List.Induction
import Mathlib.Data.List.Sort
import Std.Data.TreeMap.Lemmas

set_option autoImplicit false

/-!
# Ordered maps of self-describing elements

`KeyedMap κ α key` is an ordered map from `κ` to `α` in which every element is
filed under its own key.  The invariant is part of the structure, so the only
way to enter an element is under `key` of that element.  `upsert` either enters
a new element or merges it into the one already filed under its key; merging
must not change the key.  After any history of elements, the element found under a
key is the merger of those of that key.  A list of pairs without repeated keys can be
read as a map as well.
-/

namespace TapSwitch.Library

open Std

/-- An ordered map whose elements know the key they are filed under. -/
structure KeyedMap (κ α : Type) [Ord κ] (key : α → κ) where
  /-- The underlying map. -/
  entries : TreeMap κ α compare
  /-- Every element is filed under its own key. -/
  key_eq : ∀ k a, entries[k]? = some a → key a = k

namespace KeyedMap

variable {κ α : Type} [Ord κ] [TransOrd κ] [LawfulEqOrd κ] {key : α → κ}

/-- The map without elements. -/
def empty : KeyedMap κ α key where
  entries := ∅
  key_eq := by simp

/-- The element filed under `k`. -/
def find? (m : KeyedMap κ α key) (k : κ) : Option α := m.entries[k]?

/-- All elements, in the order of their keys. -/
def toList (m : KeyedMap κ α key) : List α := m.entries.toList.map (·.2)

/-- Enter `a`, or merge it into the element already filed under its key.  Also
returns the element stored under the key afterwards, and whether it was entered. -/
def upsert (merge : α → α → α) (hmerge : ∀ old new, key (merge old new) = key old)
    (m : KeyedMap κ α key) (a : α) : KeyedMap κ α key × α × Bool :=
  match hfind : m.entries[key a]? with
  | none =>
      ({ entries := m.entries.insert (key a) a
         key_eq := by
           intro k b hb
           rw [TreeMap.getElem?_insert] at hb
           split at hb
           · rename_i heq
             rw [← Option.some.inj hb, LawfulEqCmp.eq_of_compare heq]
           · exact m.key_eq k b hb }, a, true)
  | some old =>
      ({ entries := m.entries.insert (key a) (merge old a)
         key_eq := by
           intro k b hb
           rw [TreeMap.getElem?_insert] at hb
           split at hb
           · rename_i heq
             rw [← Option.some.inj hb, hmerge, m.key_eq _ _ hfind,
               LawfulEqCmp.eq_of_compare heq]
           · exact m.key_eq k b hb }, merge old a, false)

omit [TransOrd κ] [LawfulEqOrd κ] in
theorem key_of_find? {m : KeyedMap κ α key} {k : κ} {a : α}
    (h : m.find? k = some a) : key a = k := m.key_eq k a h

omit [LawfulEqOrd κ] in
@[simp] theorem find?_empty (k : κ) :
    (empty : KeyedMap κ α key).find? k = none := by
  simp [find?, empty]

theorem mem_toList_iff {m : KeyedMap κ α key} {a : α} :
    a ∈ m.toList ↔ m.find? (key a) = some a := by
  simp only [toList, List.mem_map, Prod.exists, TreeMap.mem_toList_iff_getElem?_eq_some]
  constructor
  · rintro ⟨k, b, hb, rfl⟩
    rw [← m.key_eq k b hb] at hb
    exact hb
  · intro h
    exact ⟨key a, a, h, rfl⟩

section Upsert

variable {merge : α → α → α} {hmerge : ∀ old new, key (merge old new) = key old}

/-- The stored element is the new one or the old one with the new one merged
into it. -/
theorem upsert_stored (m : KeyedMap κ α key) (a : α) :
    (m.upsert merge hmerge a).2.1 = (m.find? (key a)).elim a (merge · a) := by
  unfold upsert find?
  split <;> rename_i hfind <;> simp [hfind]

/-- It has been entered if there was nothing to merge it into. -/
theorem upsert_entered (m : KeyedMap κ α key) (a : α) :
    (m.upsert merge hmerge a).2.2 = (m.find? (key a)).isNone := by
  unfold upsert find?
  split <;> rename_i hfind <;> simp [hfind]

/-- It is filed under its key. -/
theorem find?_upsert_self (m : KeyedMap κ α key) (a : α) :
    (m.upsert merge hmerge a).1.find? (key a) = some (m.upsert merge hmerge a).2.1 := by
  unfold upsert find?
  split <;> simp

/-- Other keys are not affected. -/
theorem find?_upsert_of_ne (m : KeyedMap κ α key) {a : α} {k : κ} (h : key a ≠ k) :
    (m.upsert merge hmerge a).1.find? k = m.find? k := by
  have hne : ¬ compare (key a) k = .eq := fun heq => h (LawfulEqCmp.eq_of_compare heq)
  unfold upsert find?
  split <;> simp [TreeMap.getElem?_insert, hne]

/-- What a history of elements of one key is merged into. -/
def mergeAll (merge : α → α → α) : List α → Option α
  | [] => none
  | first :: rest => some (rest.foldl merge first)

@[simp] theorem mergeAll_concat (as : List α) (a : α) :
    mergeAll merge (as ++ [a]) = some ((mergeAll merge as).elim a (merge · a)) := by
  cases as with
  | nil => rfl
  | cons first rest => simp [mergeAll]

/-- Merging keeps the elements from being lost. -/
theorem mergeAll_eq_none_iff {as : List α} : mergeAll merge as = none ↔ as = [] := by
  cases as <;> simp [mergeAll]

/-- What merging keeps is that of the first element. -/
theorem mergeAll_map_first {β : Type} {f : α → β} (hf : ∀ old new, f (merge old new) = f old)
    (as : List α) : (mergeAll merge as).map f = as.head?.map f := by
  induction as using List.reverseRecOn with
  | nil => rfl
  | append_singleton rest a ih =>
      rw [mergeAll_concat]
      cases rest with
      | nil => rfl
      | cons first more =>
          simp only [mergeAll, Option.map_some, List.head?_cons] at ih
          simpa [mergeAll, hf] using ih

/-- What merging replaces is that of the last element. -/
theorem mergeAll_map_last {β : Type} {g : α → β} (hg : ∀ old new, g (merge old new) = g new)
    (as : List α) : (mergeAll merge as).map g = as.getLast?.map g := by
  cases as using List.reverseRecOn with
  | nil => rfl
  | append_singleton rest a =>
      cases hrest : mergeAll merge rest <;> simp [hrest, hg]

variable (hmerge) in
/-- Enter a history of elements, oldest first. -/
def upsertAll (as : List α) : KeyedMap κ α key :=
  as.foldl (fun m a => (m.upsert merge hmerge a).1) empty

theorem upsertAll_concat (as : List α) (a : α) :
    upsertAll hmerge (as ++ [a]) = ((upsertAll hmerge as).upsert merge hmerge a).1 := by
  simp [upsertAll]

/-- After a history of elements, those of one key have been merged, no matter what came
in between. -/
theorem find?_upsertAll [DecidableEq κ] (as : List α) (k : κ) :
    (upsertAll hmerge as).find? k = mergeAll merge (as.filter fun a => key a = k) := by
  induction as using List.reverseRecOn with
  | nil => simp [upsertAll, mergeAll]
  | append_singleton rest a ih =>
      rw [upsertAll_concat]
      by_cases hk : key a = k
      · subst hk
        rw [find?_upsert_self, upsert_stored, ih]
        simp
      · rw [find?_upsert_of_ne _ hk, ih]
        simp [hk]

end Upsert

/-- The elements are listed in the order of their keys. -/
theorem toList_pairwise (m : KeyedMap κ α key) :
    m.toList.Pairwise fun a b => compare (key a) (key b) = .lt := by
  have hkeys := TreeMap.ordered_keys_toList (t := m.entries)
  refine List.pairwise_map.mpr (hkeys.imp_of_mem ?_)
  intro a b ha hb hlt
  have hka := m.key_eq a.1 a.2 (TreeMap.mem_toList_iff_getElem?_eq_some.mp ha)
  have hkb := m.key_eq b.1 b.2 (TreeMap.mem_toList_iff_getElem?_eq_some.mp hb)
  rw [hka, hkb]
  exact hlt

/-- Maps in which the same is found list the same. -/
theorem toList_eq_of_find? {m m' : KeyedMap κ α key} (h : ∀ k, m.find? k = m'.find? k) :
    m.toList = m'.toList := by
  let before (a b : α) : Prop := compare (key a) (key b) = .lt
  have hirrefl : ∀ a, ¬ before a a := by
    intro a ha
    have hself : compare (key a) (key a) = .eq := ReflCmp.compare_self
    cases hself.symm.trans ha
  have : Std.Irrefl before := ⟨hirrefl⟩
  have : Std.Antisymm before :=
    ⟨fun a b hab hba => absurd (TransCmp.lt_trans hab hba) (hirrefl a)⟩
  refine List.Pairwise.eq_of_mem_iff (r := before) m.toList_pairwise m'.toList_pairwise ?_
  intro a
  rw [mem_toList_iff, mem_toList_iff, h]

/-- No element is listed twice. -/
theorem toList_nodup (m : KeyedMap κ α key) : m.toList.Nodup := by
  have hkeys := TreeMap.distinct_keys_toList (t := m.entries)
  refine List.pairwise_map.mpr (hkeys.imp_of_mem ?_)
  intro a b ha hb hne heq
  have hka := m.key_eq a.1 a.2 (TreeMap.mem_toList_iff_getElem?_eq_some.mp ha)
  have hkb := m.key_eq b.1 b.2 (TreeMap.mem_toList_iff_getElem?_eq_some.mp hb)
  exact hne (by rw [← hka, ← hkb, heq]; exact ReflCmp.compare_self)

end KeyedMap

/-! ## Lists of keys and values -/

/-- A key that occurs once only is found with its value. -/
theorem lookup_of_mem_nodup {α β : Type} [BEq α] [LawfulBEq α] {l : List (α × β)} {m : α × β}
    (hnodup : (l.map Prod.fst).Nodup) (hmem : m ∈ l) : l.lookup m.1 = some m.2 := by
  induction l with
  | nil => cases hmem
  | cons entry rest ih =>
      obtain ⟨k, v⟩ := entry
      rw [List.map_cons, List.nodup_cons] at hnodup
      rcases List.mem_cons.mp hmem with rfl | hrest
      · simp
      · have hne : (m.1 == k) = false := by
          rw [beq_eq_false_iff_ne]
          rintro rfl
          exact hnodup.1 (List.mem_map.mpr ⟨m, hrest, rfl⟩)
        simp [List.lookup_cons, hne, ih hnodup.2 hrest]

end TapSwitch.Library
