import Mathlib.Data.Nat.ModEq
import Mathlib.Algebra.BigOperators.Group.List.Basic

/-!
# Ones'-complement sums

Numbers of `w` bits are added with an end-around carry: a carry out of the top goes back in at the
bottom.  Such a sum is the sum modulo `2 ^ w - 1`, where zero has two forms: the sum is `2 ^ w - 1`
rather than zero unless all that is added is zero.
-/

namespace OnesComplement

/-- Two numbers of `w` bits added with an end-around carry. -/
def add (w a b : Nat) : Nat := if a + b < 2 ^ w then a + b else a + b - 2 ^ w + 1

/-- The ones'-complement sum of numbers of `w` bits. -/
def sum (w : Nat) (ns : List Nat) : Nat := ns.foldl (add w) 0

/-- The carries out of the low `w` bits added back to them. -/
def fold (w n : Nat) : Nat := n / 2 ^ w + n % 2 ^ w

/-- The number of `w` bits that stands for a number: it is congruent to it, and zero only for
zero. -/
def residue (w n : Nat) : Nat := if n = 0 then 0 else (n - 1) % (2 ^ w - 1) + 1

variable {w a b n : Nat}

theorem modulus_pos (hw : 0 < w) :
  0 < 2 ^ w - 1
  := Nat.sub_pos_of_lt (Nat.one_lt_two_pow hw.ne')

theorem residue_eq_zero :
  residue w n = 0 ↔ n = 0
  := by
  rw [residue]
  split
  · next h => simp [h]
  · next h => simp [h]

theorem residue_lt (hw : 0 < w) (n : Nat) :
  residue w n < 2 ^ w
  := by
  have hmod := Nat.mod_lt (n - 1) (modulus_pos hw)
  rw [residue]
  split
  · apply Nat.two_pow_pos
  · omega

/-- A number of `w` bits stands for itself. -/
theorem residue_of_lt (h : n < 2 ^ w) :
  residue w n = n
  := by
  rw [residue]
  split
  · next hzero => rw [hzero]
  · next hzero =>
      rw [Nat.mod_eq_of_lt (by omega)]
      omega

theorem residue_modEq (w n : Nat) :
  residue w n ≡ n [MOD 2 ^ w - 1]
  := by
  rw [residue]
  split
  · next hzero => rw [hzero]
  · next hzero =>
      have hmod := (Nat.mod_modEq (n - 1) (2 ^ w - 1)).add_right 1
      rw [Nat.sub_add_cancel (Nat.pos_of_ne_zero hzero)] at hmod
      apply hmod

/-- The same number stands for two numbers exactly when they are congruent, and both are zero or
none is. -/
theorem residue_eq_iff :
  residue w a = residue w b ↔ (a = 0 ↔ b = 0) ∧ a ≡ b [MOD 2 ^ w - 1]
  := by
  constructor
  · intro h
    constructor
    · rw [← residue_eq_zero (w := w), h, residue_eq_zero]
    · have hmod := (residue_modEq w a).symm
      rw [h] at hmod
      apply hmod.trans (residue_modEq w b)
  · rintro ⟨hzero, hmod⟩
    by_cases ha : a = 0
    · rw [ha, hzero.mp ha]
    · have hb : b ≠ 0 := fun hb => ha (hzero.mpr hb)
      have hpred : a - 1 ≡ b - 1 [MOD 2 ^ w - 1] := by
        apply Nat.ModEq.add_right_cancel' 1
        rw [Nat.sub_add_cancel (Nat.pos_of_ne_zero ha),
          Nat.sub_add_cancel (Nat.pos_of_ne_zero hb)]
        apply hmod
      rw [residue, residue, if_neg ha, if_neg hb, hpred]

/-- A number of `w` bits stands for every number it is congruent to, if both are zero or none is. -/
theorem eq_residue (ha : a < 2 ^ w) (hzero : a = 0 ↔ n = 0)
    (hmod : a ≡ n [MOD 2 ^ w - 1]) :
  a = residue w n
  := by
  rw [← residue_of_lt ha, residue_eq_iff]
  exact ⟨hzero, hmod⟩

/-! ### Sums -/

/-- Going around once takes off a multiple of the modulus. -/
theorem around (w : Nat) (h : 2 ^ w ≤ n) :
  n - 2 ^ w + 1 ≡ n [MOD 2 ^ w - 1]
  := by
  have hpos := Nat.two_pow_pos w
  have hsplit : n = (n - 2 ^ w + 1) + (2 ^ w - 1) := by omega
  conv_rhs => rw [hsplit]
  exact (Nat.add_modEq_right).symm

/-- The numbers that stand for two numbers add up to the one that stands for their sum. -/
theorem add_residue (hw : 0 < w) (a b : Nat) :
  add w (residue w a) (residue w b) = residue w (a + b)
  := by
  have ha := residue_lt hw a
  have hb := residue_lt hw b
  have hmod : residue w a + residue w b ≡ a + b [MOD 2 ^ w - 1] :=
    (residue_modEq w a).add (residue_modEq w b)
  have hzero : residue w a + residue w b = 0 ↔ a + b = 0 := by
    rw [Nat.add_eq_zero_iff, Nat.add_eq_zero_iff, residue_eq_zero, residue_eq_zero]
  rw [add]
  split
  · next hlt => apply eq_residue hlt hzero hmod
  · next hlt =>
      have hpos := Nat.two_pow_pos w
      apply eq_residue
      · omega
      · rw [← hzero]
        omega
      · apply (around w (le_of_not_gt hlt)).trans hmod

/-- The ones'-complement sum of numbers of `w` bits stands for their sum. -/
theorem sum_eq_residue {ns : List Nat} (hw : 0 < w) (h : ∀ n ∈ ns, n < 2 ^ w) :
  sum w ns = residue w ns.sum
  := by
  have hfold : ∀ (ns : List Nat) a, (∀ n ∈ ns, n < 2 ^ w) →
      ns.foldl (add w) (residue w a) = residue w (a + ns.sum) := by
    intro ns
    induction ns with
    | nil => simp
    | cons n ns ih =>
        intro a h
        have hn := residue_of_lt (h n (List.mem_cons_self ..))
        rw [List.foldl_cons]
        nth_rewrite 1 [← hn]
        rw [add_residue hw, ih _ (fun k hk => h k (List.mem_cons_of_mem _ hk)), List.sum_cons,
          Nat.add_assoc]
  have hsum := hfold ns 0 h
  rw [Nat.zero_add] at hsum
  apply hsum

/-! ### Folding -/

theorem fold_modEq (w n : Nat) :
  fold w n ≡ n [MOD 2 ^ w - 1]
  := by
  have hpos := Nat.two_pow_pos w
  have hsplit : n = fold w n + n / 2 ^ w * (2 ^ w - 1) := by
    have hdiv := Nat.div_add_mod n (2 ^ w)
    rw [fold, Nat.mul_sub, Nat.mul_one]
    have hle : n / 2 ^ w ≤ n / 2 ^ w * 2 ^ w := Nat.le_mul_of_pos_right _ hpos
    rw [Nat.mul_comm] at hdiv
    omega
  conv_rhs => rw [hsplit]
  exact (Nat.add_mul_mod_self_right ..).symm

theorem fold_eq_zero :
  fold w n = 0 ↔ n = 0
  := by
  constructor
  · intro h
    rw [fold, Nat.add_eq_zero_iff] at h
    rw [← Nat.div_add_mod n (2 ^ w), h.1, h.2]
    rfl
  · rintro rfl
    simp [fold]

/-- The same number stands for a number before and after folding. -/
theorem residue_fold (w n : Nat) :
  residue w (fold w n) = residue w n
  := by
  rw [residue_eq_iff]
  exact ⟨fold_eq_zero, fold_modEq w n⟩

end OnesComplement
