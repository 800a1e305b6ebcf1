import Mathlib.Data.Finset.Dedup
import Mathlib.Data.Finset.Filter
import Mathlib.Data.Fintype.Defs
import Mathlib.Logic.Function.Basic
import Mathlib.Tactic.Common

/-!
# Hash maps

A hash map as the partial function it stands for.  `insert` does nothing for a key that is
there, `erase` takes a key out, and `count` says how many entries an erasure takes out.  The
order in which a map is walked is not determined by its contents: a walk is any listing of
its keys.
-/

/-- A map from keys to values. -/
abbrev PMap (κ α : Type) := κ → Option α

namespace PMap

variable {κ α : Type}

/-- The map without entries. -/
def empty : PMap κ α := fun _ => none

/-- The number of entries for a key. -/
def count (m : PMap κ α) (k : κ) : Nat := if (m k).isSome then 1 else 0

/-- A listing of the keys of a map, each once. -/
def Walk (m : PMap κ α) (keys : List κ) : Prop := keys.Nodup ∧ ∀ k, k ∈ keys ↔ (m k).isSome

/-- When there are finitely many keys, a map can be walked. -/
theorem exists_walk [Fintype κ] (m : PMap κ α) :
  ∃ keys, m.Walk keys
  := by
  refine ⟨({k | (m k).isSome} : Finset κ).toList, Finset.nodup_toList _, ?_⟩
  intro k
  rw [Finset.mem_toList, Finset.mem_filter]
  simp

@[simp]
theorem empty_apply (k : κ) :
  (empty : PMap κ α) k = none
  := rfl

theorem count_eq_one {m : PMap κ α} {k : κ} :
  m.count k = 1 ↔ (m k).isSome
  := by
  rw [count]
  split
  · simp [*]
  · simp [*]

theorem count_eq_zero {m : PMap κ α} {k : κ} :
  m.count k = 0 ↔ m k = none
  := by
  rw [count]
  cases m k with
  | none => simp
  | some a => simp

/-! ### Changing an entry -/

variable [DecidableEq κ]

/-- A map with an entry for a key, unless there is one. -/
def insert (m : PMap κ α) (k : κ) (a : α) : PMap κ α :=
  if (m k).isSome then m else Function.update m k (some a)

/-- A map without the entry for a key. -/
def erase (m : PMap κ α) (k : κ) : PMap κ α := Function.update m k none

@[simp]
theorem erase_self (m : PMap κ α) (k : κ) :
  m.erase k k = none
  := by
  simp [erase]

theorem erase_ne (m : PMap κ α) {k j : κ} (h : j ≠ k) :
  m.erase k j = m j
  := by
  simp [erase, h]

/-- An entry left after an erasure. -/
theorem erase_eq_some {m : PMap κ α} {k j : κ} {a : α} :
  m.erase k j = some a ↔ j ≠ k ∧ m j = some a
  := by
  by_cases h : j = k
  · subst h
    simp
  · simp [erase_ne m h, h]

/-- Erasing an entry that is not there changes nothing. -/
theorem erase_none {m : PMap κ α} {k : κ} (h : m k = none) :
  m.erase k = m
  := by
  rw [erase, ← h, Function.update_eq_self]

theorem insert_new {m : PMap κ α} {k : κ} (a : α) (h : m k = none) :
  m.insert k a = Function.update m k (some a)
  := by
  simp [insert, h]

theorem insert_self {m : PMap κ α} {k : κ} (a : α) (h : m k = none) :
  m.insert k a k = some a
  := by
  rw [insert_new a h, Function.update_self]

/-- The walk of a map with one entry. -/
theorem walk_single (k : κ) (a : α) :
  (empty.insert k a).Walk [k]
  := by
  refine ⟨List.nodup_singleton k, ?_⟩
  intro j
  rw [insert_new a (empty_apply k), List.mem_singleton]
  by_cases hj : j = k
  · simp [hj]
  · simp [hj, empty]

/-- Erasing a new entry again leaves the map as it was. -/
theorem erase_insert_self {m : PMap κ α} {k : κ} (a : α) (h : m k = none) :
  (m.insert k a).erase k = m
  := by
  rw [insert_new a h, erase, Function.update_idem, ← h, Function.update_eq_self]

/-- A new entry is there, and every other entry is as before. -/
theorem insert_eq_some {m : PMap κ α} {k j : κ} {a b : α} (h : m k = none) :
  m.insert k a j = some b ↔ j = k ∧ a = b ∨ j ≠ k ∧ m j = some b
  := by
  rw [insert_new a h]
  by_cases hj : j = k
  · subst hj
    simp
  · simp [hj]

/-- A new entry leaves the other keys as they are. -/
theorem insert_ne (m : PMap κ α) {k j : κ} (a : α) (h : j ≠ k) :
  m.insert k a j = m j
  := by
  rw [insert]
  split
  · rfl
  · simp [h]

/-- Inserting one entry and erasing another can be done in either order. -/
theorem erase_insert (m : PMap κ α) {k j : κ} (a : α) (h : j ≠ k) :
  (m.insert k a).erase j = (m.erase j).insert k a
  := by
  rw [insert, insert, erase_ne m h.symm]
  split
  · rfl
  · rw [erase, erase, Function.update_comm h]

end PMap
