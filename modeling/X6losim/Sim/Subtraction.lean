import X6losim.Sim.Time

/-!
# Differences of times

`timespec_subtract` carries seconds over from one time to the other, so that the difference of their
nanoseconds is less than a second.  It misses a difference of exactly a second, and a carry of more
than two seconds does not fit in the `int` it is computed in.
-/

open CInt

namespace X6losim

variable {x y y' : Timespec}

/-- A time with seconds moved from its nanoseconds. -/
def Timespec.shift (t : Timespec) (k : Int) : Timespec :=
  ⟨t.tvSec + k, t.tvNsec - 1000000000 * k⟩

/-- What `timespec_subtract` is for: the difference is stored with less than a second of
nanoseconds, its sign is returned, and `y` is afterwards the same time. -/
structure Subtracts (x y result y' : Timespec) (negative : Bool) : Prop where
  normalised : result.Normalised
  toNs : result.toNs = x.toNs - y.toNs
  negative_iff : negative ↔ x.toNs < y.toNs
  same : y'.toNs = y.toNs
  compare : x.Normalised → y.Normalised → (negative ↔ compareTimespecs x y = -1)

/-- The seconds that have to be carried over: those in the difference of the nanoseconds. -/
def carry (x y : Timespec) : Int := (x.tvNsec - y.tvNsec) / 1000000000

/-- The nanoseconds of two times differ by less than two seconds, or less than three, and by a
second neither way, and the time to be subtracted has room for the carry. -/
structure Carries (x y : Timespec) : Prop where
  above : -2000000000 < x.tvNsec - y.tvNsec
  below : x.tvNsec - y.tvNsec < 3000000000
  second : x.tvNsec - y.tvNsec ≠ 1000000000
  second_neg : x.tvNsec - y.tvNsec ≠ -1000000000
  fits : (y.shift (-carry x y)).Fits

theorem toNs_shift (t : Timespec) (k : Int) :
  (t.shift k).toNs = t.toNs
  := by
  simp only [Timespec.shift, Timespec.toNs]
  omega

/-! ### The carries -/

/-- The seconds of the first carry. -/
def secondsUp (x y : Timespec) : Int := convert 32 ((y.tvNsec - x.tvNsec).tdiv 1000000000 + 1)

/-- The seconds of the second carry. -/
def secondsDown (x y : Timespec) : Int := convert 32 ((x.tvNsec - y.tvNsec).tdiv 1000000000)

theorem secondsUp_mod (x y : Timespec) :
  ∃ n, (y.tvNsec - x.tvNsec).tdiv 1000000000 + 1 = secondsUp x y + 4294967296 * n
  := (convert_32 _).2

theorem secondsDown_mod (x y : Timespec) :
  ∃ n, (x.tvNsec - y.tvNsec).tdiv 1000000000 = secondsDown x y + 4294967296 * n
  := (convert_32 _).2

theorem carryUp_eq_some (h : x.tvNsec < y.tvNsec) :
  carryUp x y = some y' ↔ CInt.Fits 64 (y.tvNsec - x.tvNsec) ∧
    CInt.Fits 64 ((y.tvNsec - x.tvNsec).tdiv 1000000000 + 1) ∧
    CInt.Fits 32 (1000000000 * secondsUp x y) ∧ (y.shift (secondsUp x y)).Fits ∧
    y' = y.shift (secondsUp x y)
  := by
  simp only [carryUp, if_pos h, Option.bind_eq_bind, Option.bind_eq_some_iff, signed_eq_some]
  constructor
  · rintro ⟨_, ⟨hdiff, rfl⟩, _, ⟨hcount, rfl⟩, _, ⟨hint, rfl⟩, _, ⟨hnsec, rfl⟩, _, ⟨hsec, rfl⟩, hy⟩
    cases hy
    exact ⟨hdiff, hcount, hint, ⟨hsec, hnsec⟩, rfl⟩
  · rintro ⟨hdiff, hcount, hint, ⟨hsec, hnsec⟩, rfl⟩
    exact ⟨_, ⟨hdiff, rfl⟩, _, ⟨hcount, rfl⟩, _, ⟨hint, rfl⟩, _, ⟨hnsec, rfl⟩, _, ⟨hsec, rfl⟩, rfl⟩

theorem carryUp_none (h : y.tvNsec ≤ x.tvNsec) :
  carryUp x y = some y
  := by
  simp only [carryUp, if_neg (not_lt_of_ge h), Option.pure_def]

theorem carryDown_eq_some (h : 1000000000 < x.tvNsec - y.tvNsec) :
  carryDown x y = some y' ↔ CInt.Fits 64 (x.tvNsec - y.tvNsec) ∧
    CInt.Fits 32 (1000000000 * secondsDown x y) ∧ (y.shift (-secondsDown x y)).Fits ∧
    y' = y.shift (-secondsDown x y)
  := by
  have hshift : y.shift (-secondsDown x y)
      = ⟨y.tvSec - secondsDown x y, y.tvNsec + 1000000000 * secondsDown x y⟩ := by
    rw [Timespec.shift, mul_neg, sub_neg_eq_add, sub_eq_add_neg]
  simp only [carryDown, Option.bind_eq_bind, Option.bind_eq_some_iff, signed_eq_some]
  constructor
  · rintro ⟨_, ⟨hdiff, rfl⟩, hrest⟩
    simp only [if_pos h, Option.bind_eq_some_iff, signed_eq_some] at hrest
    obtain ⟨_, ⟨-, rfl⟩, _, ⟨hint, rfl⟩, _, ⟨hnsec, rfl⟩, _, ⟨hsec, rfl⟩, hy⟩ := hrest
    cases hy
    rw [hshift]
    exact ⟨hdiff, hint, ⟨hsec, hnsec⟩, rfl⟩
  · rw [hshift]
    rintro ⟨hdiff, hint, ⟨hsec, hnsec⟩, rfl⟩
    refine ⟨_, ⟨hdiff, rfl⟩, ?_⟩
    simp only [if_pos h, Option.bind_eq_some_iff, signed_eq_some]
    exact ⟨_, ⟨hdiff, rfl⟩, _, ⟨hint, rfl⟩, _, ⟨hnsec, rfl⟩, _, ⟨hsec, rfl⟩, rfl⟩

theorem carryDown_none (h : x.tvNsec - y.tvNsec ≤ 1000000000) :
  carryDown x y = some y' ↔ CInt.Fits 64 (x.tvNsec - y.tvNsec) ∧ y' = y
  := by
  simp only [carryDown, Option.bind_eq_bind, Option.bind_eq_some_iff, signed_eq_some]
  constructor
  · rintro ⟨_, ⟨hdiff, rfl⟩, hrest⟩
    rw [if_neg (not_lt_of_ge h)] at hrest
    cases hrest
    exact ⟨hdiff, rfl⟩
  · rintro ⟨hdiff, rfl⟩
    refine ⟨_, ⟨hdiff, rfl⟩, ?_⟩
    rw [if_neg (not_lt_of_ge h)]
    rfl

/-! ### When the carries are right -/

/-- The seconds of the first carry are those below the difference, unless that is a whole number of
seconds. -/
theorem secondsUp_eq (h : x.tvNsec < y.tvNsec) (hcarries : Carries x y) :
  CInt.Fits 64 ((y.tvNsec - x.tvNsec).tdiv 1000000000 + 1) ∧ secondsUp x y = -carry x y ∧
    -2 ≤ carry x y
  := by
  obtain ⟨habove, -, -, hsecond, -⟩ := hcarries
  have hdiv : (y.tvNsec - x.tvNsec).tdiv 1000000000 = (y.tvNsec - x.tvNsec) / 1000000000 :=
    Int.tdiv_eq_ediv_of_nonneg (by omega)
  have hseconds : (y.tvNsec - x.tvNsec).tdiv 1000000000 + 1 = -carry x y := by
    rw [hdiv, carry]
    omega
  have hcarry : -2 ≤ carry x y ∧ carry x y < 0 := by
    rw [carry]
    omega
  have hfits : CInt.Fits 32 (-carry x y) := by
    rw [fits_32]
    omega
  refine ⟨?_, ?_, hcarry.1⟩
  · rw [hseconds, fits_64]
    omega
  · rw [secondsUp, hseconds, convert_of_fits hfits]

theorem secondsDown_eq (h : 1000000000 < x.tvNsec - y.tvNsec)
    (hbelow : x.tvNsec - y.tvNsec < 3000000000) :
  secondsDown x y = carry x y ∧ carry x y ≤ 2
  := by
  have hdiv : (x.tvNsec - y.tvNsec).tdiv 1000000000 = carry x y :=
    Int.tdiv_eq_ediv_of_nonneg (by omega)
  have hcarry : 0 ≤ carry x y ∧ carry x y ≤ 2 := by
    rw [carry]
    omega
  have hfits : CInt.Fits 32 (carry x y) := by
    rw [fits_32]
    omega
  rw [secondsDown, hdiv, convert_of_fits hfits]
  exact ⟨rfl, hcarry.2⟩

/-- What is left of the nanoseconds after the carry. -/
theorem carry_bounds (x y : Timespec) :
  0 ≤ x.tvNsec - y.tvNsec - 1000000000 * carry x y ∧
    x.tvNsec - y.tvNsec - 1000000000 * carry x y < 1000000000
  := by
  rw [carry]
  omega

/-- The two carries move the seconds of the difference. -/
theorem carried (hcarries : Carries x y) :
  ∃ y₁, carryUp x y = some y₁ ∧ carryDown x y₁ = some (y.shift (-carry x y))
  := by
  have hbounds := carry_bounds x y
  have hfits := hcarries.fits
  have habove := hcarries.above
  have hbelow := hcarries.below
  have hsecond := hcarries.second
  have hdiff : CInt.Fits 64 (x.tvNsec - y.tvNsec) := by
    rw [fits_64]
    omega
  rcases lt_or_ge x.tvNsec y.tvNsec with hlt | hge
  · obtain ⟨hcount, hseconds, hle⟩ := secondsUp_eq hlt hcarries
    have hback : CInt.Fits 64 (y.tvNsec - x.tvNsec) := by
      rw [fits_64]
      omega
    refine ⟨y.shift (-carry x y), ?_, ?_⟩
    · rw [carryUp_eq_some hlt, hseconds]
      refine ⟨hback, hcount, ?_, hfits, rfl⟩
      rw [fits_32]
      omega
    · have hleft : x.tvNsec - (y.shift (-carry x y)).tvNsec
          = x.tvNsec - y.tvNsec - 1000000000 * carry x y := by
        simp only [Timespec.shift]
        omega
      rw [carryDown_none (by omega), hleft, fits_64]
      exact ⟨by omega, rfl⟩
  · refine ⟨y, carryUp_none hge, ?_⟩
    by_cases hover : 1000000000 < x.tvNsec - y.tvNsec
    · obtain ⟨hseconds, hle⟩ := secondsDown_eq hover hbelow
      rw [carryDown_eq_some hover, hseconds]
      refine ⟨hdiff, ?_, hfits, rfl⟩
      rw [fits_32]
      omega
    · have hzero : carry x y = 0 := by
        rw [carry]
        omega
      rw [carryDown_none (le_of_not_gt hover), hzero]
      refine ⟨hdiff, ?_⟩
      simp [Timespec.shift]

/-! ### When they are not -/

/-- The second carry leaves less than a second only if it is of two seconds at most, or if there was
less than a second. -/
theorem carryDown_leaves {y₂ : Timespec} (hy : y.Fits) (hdown : carryDown x y = some y₂)
    (hnonneg : 0 ≤ x.tvNsec - y₂.tvNsec) (hlt : x.tvNsec - y₂.tvNsec < 1000000000) :
  0 ≤ x.tvNsec - y.tvNsec ∧ x.tvNsec - y.tvNsec < 3000000000 ∧
    x.tvNsec - y.tvNsec ≠ 1000000000 ∧ y₂.Fits ∧ y₂ = y.shift (-carry x y)
  := by
  rcases lt_or_ge 1000000000 (x.tvNsec - y.tvNsec) with hover | hle
  · obtain ⟨-, hint, hfits, rfl⟩ := (carryDown_eq_some hover).mp hdown
    obtain ⟨n, hseconds⟩ := secondsDown_mod x y
    have hdiv : (x.tvNsec - y.tvNsec).tdiv 1000000000 = carry x y :=
      Int.tdiv_eq_ediv_of_nonneg (by omega)
    have hcarry := carry_bounds x y
    rw [hdiv] at hseconds
    rw [fits_32] at hint
    simp only [Timespec.shift] at hnonneg hlt
    have hsame : secondsDown x y = carry x y := by
      omega
    refine ⟨by omega, by omega, by omega, hfits, ?_⟩
    rw [hsame]
  · obtain ⟨-, rfl⟩ := (carryDown_none hle).mp hdown
    have hzero : carry x y₂ = 0 := by
      rw [carry]
      omega
    refine ⟨hnonneg, by omega, by omega, hy, ?_⟩
    simp [hzero, Timespec.shift]

/-- What the carries come to when they do not overflow and leave less than a second. -/
theorem carries_of {y₁ y₂ : Timespec} (hy : y.Fits) (hup : carryUp x y = some y₁)
    (hdown : carryDown x y₁ = some y₂) (hnonneg : 0 ≤ x.tvNsec - y₂.tvNsec)
    (hlt : x.tvNsec - y₂.tvNsec < 1000000000) :
  Carries x y
  := by
  rcases lt_or_ge x.tvNsec y.tvNsec with hback | hge
  · obtain ⟨-, -, hint, hfits, rfl⟩ := (carryUp_eq_some hback).mp hup
    obtain ⟨hleft, -, hleft_ne, -, -⟩ := carryDown_leaves hfits hdown hnonneg hlt
    obtain ⟨n, hseconds⟩ := secondsUp_mod x y
    have hdiv : (y.tvNsec - x.tvNsec).tdiv 1000000000 = (y.tvNsec - x.tvNsec) / 1000000000 :=
      Int.tdiv_eq_ediv_of_nonneg (by omega)
    rw [hdiv] at hseconds
    rw [fits_32] at hint
    simp only [Timespec.shift] at hleft hleft_ne
    have hsame : secondsUp x y = -carry x y := by
      rw [carry]
      omega
    rw [hsame] at hfits
    exact ⟨by omega, by omega, by omega, by omega, hfits⟩
  · rw [carryUp_none hge, Option.some.injEq] at hup
    subst hup
    obtain ⟨hleft, hbelow, hsecond, hfits, hy₂⟩ := carryDown_leaves hy hdown hnonneg hlt
    rw [hy₂] at hfits
    exact ⟨by omega, hbelow, hsecond, by omega, hfits⟩

/-! ### The difference -/

/-- Normalised times are compared as the instants they stand for. -/
theorem compareTimespecs_lt (hx : x.Normalised) (hy : y.Normalised) :
  compareTimespecs x y = -1 ↔ x.toNs < y.toNs
  := by
  obtain ⟨hx₀, hx₁⟩ := hx
  obtain ⟨hy₀, hy₁⟩ := hy
  rw [compareTimespecs, Timespec.toNs, Timespec.toNs]
  split_ifs <;> simp <;> omega

/-- A difference with less than a second of nanoseconds is negative exactly when its seconds are. -/
theorem subtracts_of {y₂ : Timespec} (hsame : y₂.toNs = y.toNs)
    (hnonneg : 0 ≤ x.tvNsec - y₂.tvNsec) (hlt : x.tvNsec - y₂.tvNsec < 1000000000) :
  Subtracts x y ⟨x.tvSec - y₂.tvSec, x.tvNsec - y₂.tvNsec⟩ y₂ (x.tvSec < y₂.tvSec)
  := by
  have hnegative : x.tvSec < y₂.tvSec ↔ x.toNs < y.toNs := by
    rw [← hsame, Timespec.toNs, Timespec.toNs]
    omega
  constructor
  · exact ⟨hnonneg, hlt⟩
  · rw [← hsame]
    simp only [Timespec.toNs]
    omega
  · simp [hnegative]
  · apply hsame
  · intro hx hy
    rw [compareTimespecs_lt hx hy]
    simp [hnegative]

/-- The difference of two times is right exactly when the nanoseconds differ by less than two
seconds one way and three the other, and not by a second, and the carry fits. -/
theorem subtracts_iff (hy : y.Fits) (hdiff : CInt.Fits 64 ((x.toNs - y.toNs) / 1000000000)) :
  (∃ result y' negative, timespecSubtract x y = some (result, y', negative) ∧
    Subtracts x y result y' negative) ↔ Carries x y
  := by
  constructor
  · rintro ⟨result, y₂, negative, hresult, hsubtracts⟩
    simp only [timespecSubtract, Option.bind_eq_bind, Option.bind_eq_some_iff,
      signed_eq_some] at hresult
    obtain ⟨y₁, hup, y₂, hdown, _, ⟨-, rfl⟩, _, ⟨-, rfl⟩, hresult⟩ := hresult
    cases hresult
    apply carries_of hy hup hdown hsubtracts.normalised.1 hsubtracts.normalised.2
  · intro hcarries
    obtain ⟨y₁, hup, hdown⟩ := carried hcarries
    have hbounds := carry_bounds x y
    have hleft : x.tvNsec - (y.shift (-carry x y)).tvNsec
        = x.tvNsec - y.tvNsec - 1000000000 * carry x y := by
      simp only [Timespec.shift]
      omega
    have hseconds : x.tvSec - (y.shift (-carry x y)).tvSec = (x.toNs - y.toNs) / 1000000000 := by
      simp only [Timespec.shift, Timespec.toNs]
      omega
    have hnsec : CInt.Fits 64 (x.tvNsec - (y.shift (-carry x y)).tvNsec) := by
      rw [hleft, fits_64]
      omega
    have hsubtracts := subtracts_of (x := x) (toNs_shift y (-carry x y)) (by omega) (by omega)
    refine ⟨_, _, _, ?_, hsubtracts⟩
    simp only [timespecSubtract, hup, hdown, Option.bind_eq_bind, Option.bind_some]
    rw [hseconds, signed_of_fits hdiff, signed_of_fits hnsec]
    rfl

/-- A difference for which a second has to be carried over. -/
theorem subtracts_carried :
  ∃ result y' negative,
    timespecSubtract ⟨5, 100000000⟩ ⟨2, 900000000⟩ = some (result, y', negative) ∧
      Subtracts ⟨5, 100000000⟩ ⟨2, 900000000⟩ result y' negative
  := by
  have hfits : (⟨2, 900000000⟩ : Timespec).Fits := ⟨by decide, by decide⟩
  rw [subtracts_iff hfits (by decide)]
  exact ⟨by decide, by decide, by decide, by decide, by decide, by decide⟩

/-- Nanoseconds that differ by a second are left as they are. -/
theorem second_not_carried :
  timespecSubtract ⟨1, 1500000000⟩ ⟨0, 500000000⟩
      = some (⟨1, 1000000000⟩, ⟨0, 500000000⟩, false) ∧
    ¬ ∃ result y' negative,
      timespecSubtract ⟨1, 1500000000⟩ ⟨0, 500000000⟩ = some (result, y', negative) ∧
        Subtracts ⟨1, 1500000000⟩ ⟨0, 500000000⟩ result y' negative
  := by
  have hresult : timespecSubtract ⟨1, 1500000000⟩ ⟨0, 500000000⟩
      = some (⟨1, 1000000000⟩, ⟨0, 500000000⟩, false) := by
    decide
  refine ⟨hresult, ?_⟩
  rintro ⟨result, y', negative, h, hsubtracts⟩
  rw [hresult] at h
  cases h
  have hnsec : (1000000000 : Int) < 1000000000 := hsubtracts.normalised.2
  contradiction

end X6losim
