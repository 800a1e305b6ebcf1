import Mathlib.Tactic.Common
import Mathlib.Data.List.Basic

/-!
# Rows

Entries that come one after the other fill rows of one width: a row that is full is set aside, and
the last one may be short.  Read row by row, the entries are those that have come, in their order.
-/

universe u

variable {α : Type u} {w : Nat}

/-- Full rows of a width, and a row that is not yet full. -/
structure Rows (α : Type u) (w : Nat) where
  full : List (List α)
  row : List α
  length_full : ∀ r ∈ full, r.length = w
  length_row : row.length < w

namespace Rows

/-- The entries of the rows, in their order. -/
def entries (t : Rows α w) : List α := t.full.flatten ++ t.row

/-- The rows without an entry. -/
def empty (hw : 0 < w) : Rows α w where
  full := []
  row := []
  length_full := by simp
  length_row := hw

/-- The rows with an entry more. -/
def push (t : Rows α w) (a : α) : Rows α w :=
  if h : t.row.length + 1 < w then
    { t with
      row := t.row ++ [a]
      length_row := by
        rw [List.length_append]
        apply h }
  else {
    full := t.full ++ [t.row ++ [a]]
    row := []
    length_full := by
      intro r hr
      have hshort := t.length_row
      rcases List.mem_append.mp hr with hr | hr
      · apply t.length_full r hr
      · rw [List.mem_singleton.mp hr, List.length_append, List.length_singleton]
        omega
    length_row := Nat.zero_lt_of_lt t.length_row }

/-- The rows with entries more. -/
def append (t : Rows α w) (l : List α) : Rows α w := l.foldl push t

/-- The rows when a short row is filled up with an entry. -/
def fill (t : Rows α w) (a : α) : List (List α) :=
  if t.row = [] then t.full else t.full ++ [t.row ++ List.replicate (w - t.row.length) a]

variable {t : Rows α w}

theorem push_short {a : α} (h : t.row.length + 1 < w) :
  (t.push a).full = t.full ∧ (t.push a).row = t.row ++ [a]
  := by
  rw [push, dif_pos h]
  exact ⟨rfl, rfl⟩

theorem push_full {a : α} (h : w ≤ t.row.length + 1) :
  (t.push a).full = t.full ++ [t.row ++ [a]] ∧ (t.push a).row = []
  := by
  rw [push, dif_neg (Nat.not_lt_of_le h)]
  exact ⟨rfl, rfl⟩

@[simp]
theorem entries_empty (hw : 0 < w) :
  (empty hw : Rows α w).entries = []
  := rfl

@[simp]
theorem entries_push (t : Rows α w) (a : α) :
  (t.push a).entries = t.entries ++ [a]
  := by
  rcases Nat.lt_or_ge (t.row.length + 1) w with h | h
  · obtain ⟨hfull, hrow⟩ := push_short (a := a) h
    rw [entries, entries, hfull, hrow, List.append_assoc]
  · obtain ⟨hfull, hrow⟩ := push_full (a := a) h
    simp [entries, hfull, hrow]

@[simp]
theorem entries_append (t : Rows α w) (l : List α) :
  (t.append l).entries = t.entries ++ l
  := by
  induction l generalizing t with
  | nil => simp [append]
  | cons a l ih =>
      have hrest := ih (t.push a)
      rw [entries_push, List.append_assoc, List.singleton_append] at hrest
      apply hrest

/-- Every row is full when a short one has been filled up. -/
theorem length_of_mem_fill {a : α} {r : List α} (h : r ∈ t.fill a) :
  r.length = w
  := by
  have hshort := t.length_row
  rw [fill] at h
  split at h
  · apply t.length_full r h
  · rcases List.mem_append.mp h with h | h
    · apply t.length_full r h
    · rw [List.mem_singleton.mp h, List.length_append, List.length_replicate]
      omega

/-- The rows have the entries, and then those that fill up the last row. -/
theorem flatten_fill (t : Rows α w) (a : α) :
  ∃ k, (t.fill a).flatten = t.entries ++ List.replicate k a
  := by
  rw [fill]
  split
  · next hrow =>
      use 0
      simp [entries, hrow]
  · use w - t.row.length
    simp [entries]

/-- An entry of a row, by its place among all of them. -/
theorem getElem?_flatten {rows : List (List α)} (h : ∀ r ∈ rows, r.length = w) {k c : Nat}
    {r : List α} (hk : rows[k]? = some r) (hc : c < w) :
  rows.flatten[w * k + c]? = r[c]?
  := by
  induction rows generalizing k with
  | nil => simp at hk
  | cons r' rows ih =>
      have hlength : r'.length = w := h r' List.mem_cons_self
      rw [List.flatten_cons]
      cases k with
      | zero =>
          obtain rfl : r' = r := by simpa using hk
          rw [Nat.mul_zero, Nat.zero_add, List.getElem?_append_left (by omega)]
      | succ k =>
          rw [List.getElem?_append_right (by rw [Nat.mul_succ]; omega)]
          have hindex : w * (k + 1) + c - r'.length = w * k + c := by
            rw [hlength, Nat.mul_succ]
            omega
          rw [hindex]
          apply ih (fun r hr => h r (List.mem_cons_of_mem _ hr))
          simpa using hk

end Rows
