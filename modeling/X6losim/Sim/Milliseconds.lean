import X6losim.Sim.Time

/-!
# Milliseconds added to a time

A time with less than a second of nanoseconds stands for one instant, and every instant has such a
time.  On them `timespec_add_ms` is the addition of the milliseconds to the instant, as long as the
`long`s it computes with are large enough, and `compare_timespecs` tells the order of the instants.
-/

open CInt

namespace X6losim

/-- `timespec_add_ms` with the seconds in a `long`: it is not defined where their sum does not
fit. -/
def timespecAddMsLong (x : Timespec) (ms : Nat) : Option Timespec := do
  let tvNsec := wrapLong (x.tvNsec + ms * 1000000)
  if 1000000000 ≤ tvNsec then
    let tvSec ← signed 64 (x.tvSec + tvNsec.tdiv 1000000000)
    return ⟨tvSec, tvNsec.tmod 1000000000⟩
  else return ⟨x.tvSec, tvNsec⟩

/-- The time of an instant given in nanoseconds. -/
def Timespec.ofNs (ns : Int) : Timespec := ⟨ns / 1000000000, ns % 1000000000⟩

/-- There is room for milliseconds after a time: the seconds fit in a `long` before and after. -/
def Timespec.Room (x : Timespec) (ms : Nat) : Prop :=
  CInt.Fits 64 x.tvSec ∧ (x.toNs + ms * 1000000) / 1000000000 < 2 ^ 63

variable {x y : Timespec} {a b ms : Nat}

/-! ### Instants -/

theorem Timespec.normalised_ofNs (ns : Int) :
  (ofNs ns).Normalised
  := by
  simp only [ofNs, Normalised]
  omega

@[simp]
theorem Timespec.toNs_ofNs (ns : Int) :
  (ofNs ns).toNs = ns
  := by
  simp only [ofNs, toNs]
  omega

/-- A time with less than a second of nanoseconds is the one of its instant. -/
theorem Timespec.Normalised.ofNs_toNs (h : x.Normalised) :
  .ofNs x.toNs = x
  := by
  obtain ⟨hnonneg, hlt⟩ := h
  obtain ⟨sec, nsec⟩ := x
  simp only at hnonneg hlt
  simp only [Timespec.ofNs, Timespec.toNs, Timespec.mk.injEq]
  omega

/-- `compare_timespecs` tells the order of the instants. -/
theorem compareTimespecs_eq_sign (hx : x.Normalised) (hy : y.Normalised) :
  compareTimespecs x y = (x.toNs - y.toNs).sign
  := by
  obtain ⟨hxnonneg, hxlt⟩ := hx
  obtain ⟨hynonneg, hylt⟩ := hy
  rw [compareTimespecs, Timespec.toNs, Timespec.toNs]
  split_ifs with hsec hsec' hnsec hnsec'
  · rw [Int.sign_eq_neg_one_of_neg (by omega)]
  · rw [Int.sign_eq_neg_one_of_neg (by omega)]
  · rw [hsec', hnsec', Int.sub_self, Int.sign_zero]
  · rw [Int.sign_eq_one_of_pos (by omega)]
  · rw [Int.sign_eq_one_of_pos (by omega)]

/-! ### The addition -/

/-- The nanoseconds of fewer milliseconds fit in a `long` as well. -/
theorem nanoseconds_lt_of_le (hle : a ≤ b) (hb : b * 1000000 + 1000000000 < 2 ^ 63) :
  a * 1000000 + 1000000000 < 2 ^ 63
  := lt_of_le_of_lt (Nat.add_le_add_right (Nat.mul_le_mul_right _ hle) _) hb

/-- The nanoseconds of the sum do not wrap around. -/
theorem wrapLong_add (hx : x.Normalised) (hms : ms * 1000000 + 1000000000 < 2 ^ 63) :
  wrapLong (x.tvNsec + ms * 1000000) = x.tvNsec + ms * 1000000
  := by
  obtain ⟨hnonneg, hlt⟩ := hx
  rw [wrapLong, Int.bmod_def]
  split <;> omega

/-- `timespec_add_ms` gives the time of the instant that is the milliseconds later. -/
theorem timespecAddMs_eq (hx : x.Normalised) (hms : ms * 1000000 + 1000000000 < 2 ^ 63) :
  timespecAddMs x ms = .ofNs (x.toNs + ms * 1000000)
  := by
  have hwrap := wrapLong_add hx hms
  obtain ⟨hnonneg, hlt⟩ := hx
  have hdiv : (x.tvNsec + ms * 1000000).tdiv 1000000000 = (x.tvNsec + ms * 1000000) / 1000000000 :=
    Int.tdiv_eq_ediv_of_nonneg (by omega)
  have hmod : (x.tvNsec + ms * 1000000).tmod 1000000000 = (x.tvNsec + ms * 1000000) % 1000000000 :=
    Int.tmod_eq_emod_of_nonneg (by omega)
  rw [timespecAddMs, hwrap, hdiv, hmod]
  simp only [Timespec.ofNs, Timespec.toNs]
  split_ifs
  · rw [Timespec.mk.injEq]
    omega
  · rw [Timespec.mk.injEq]
    omega

/-- Where there is room, the seconds fit. -/
theorem timespecAddMsLong_eq (hx : x.Normalised) (hms : ms * 1000000 + 1000000000 < 2 ^ 63)
    (hroom : x.Room ms) :
  timespecAddMsLong x ms = some (timespecAddMs x ms)
  := by
  have hwrap := wrapLong_add hx hms
  have hdiv : (x.tvNsec + ms * 1000000).tdiv 1000000000 = (x.tvNsec + ms * 1000000) / 1000000000 :=
    Int.tdiv_eq_ediv_of_nonneg (by have := hx.1; omega)
  obtain ⟨⟨hlower, -⟩, hupper⟩ := hroom
  have hfits : CInt.Fits 64 (x.tvSec + (x.tvNsec + ms * 1000000) / 1000000000) := by
    rw [Timespec.toNs] at hupper
    have hnonneg := hx.1
    rw [fits_64]
    omega
  rw [timespecAddMsLong, timespecAddMs, hwrap, hdiv]
  split_ifs
  · rw [signed_of_fits hfits]
    rfl
  · rfl

/-- The sum has less than a second of nanoseconds. -/
theorem normalised_timespecAddMs (hx : x.Normalised) (hms : ms * 1000000 + 1000000000 < 2 ^ 63) :
  (timespecAddMs x ms).Normalised
  := by
  rw [timespecAddMs_eq hx hms]
  apply Timespec.normalised_ofNs

theorem toNs_timespecAddMs (hx : x.Normalised) (hms : ms * 1000000 + 1000000000 < 2 ^ 63) :
  (timespecAddMs x ms).toNs = x.toNs + ms * 1000000
  := by
  rw [timespecAddMs_eq hx hms, Timespec.toNs_ofNs]

/-- Milliseconds can be added one after the other. -/
theorem timespecAddMs_timespecAddMs (hx : x.Normalised)
    (hab : (a + b) * 1000000 + 1000000000 < 2 ^ 63) :
  timespecAddMs (timespecAddMs x a) b = timespecAddMs x (a + b)
  := by
  have ha := nanoseconds_lt_of_le (Nat.le_add_right a b) hab
  have hb := nanoseconds_lt_of_le (Nat.le_add_left b a) hab
  rw [timespecAddMs_eq (normalised_timespecAddMs hx ha) hb, toNs_timespecAddMs hx ha,
    timespecAddMs_eq hx hab]
  congr 1
  push_cast
  ring

/-- The addition keeps the order. -/
theorem compareTimespecs_timespecAddMs (hx : x.Normalised) (hy : y.Normalised)
    (ha : a * 1000000 + 1000000000 < 2 ^ 63) :
  compareTimespecs (timespecAddMs x a) (timespecAddMs y a) = compareTimespecs x y
  := by
  rw [compareTimespecs_eq_sign (normalised_timespecAddMs hx ha) (normalised_timespecAddMs hy ha),
    compareTimespecs_eq_sign hx hy, toNs_timespecAddMs hx ha, toNs_timespecAddMs hy ha,
    add_sub_add_right_eq_sub]

/-- Where the seconds fit, they are those of the sum. -/
theorem timespecAddMs_of_eq_some {z : Timespec} (h : timespecAddMsLong x ms = some z) :
  timespecAddMs x ms = z
  := by
  rw [timespecAddMsLong] at h
  rw [timespecAddMs]
  split_ifs at h ⊢
  · obtain ⟨tvSec, hsec, hz⟩ := Option.bind_eq_some_iff.mp h
    obtain ⟨-, rfl⟩ := signed_eq_some.mp hsec
    apply Option.some.inj hz
  · apply Option.some.inj h

/-- The room after a time depends on its instant only. -/
theorem Timespec.Normalised.room_iff (h : x.Normalised) :
  x.Room ms ↔ -2 ^ 63 ≤ x.toNs / 1000000000 ∧ (x.toNs + ms * 1000000) / 1000000000 < 2 ^ 63
  := by
  have hsec : x.toNs / 1000000000 = x.tvSec := congrArg Timespec.tvSec h.ofNs_toNs
  rw [Timespec.Room, fits_64, hsec]
  constructor
  · rintro ⟨⟨hlower, -⟩, hupper⟩
    exact ⟨hlower, hupper⟩
  · rintro ⟨hlower, hupper⟩
    refine ⟨⟨hlower, ?_⟩, hupper⟩
    omega

/-- Room for the milliseconds together is room for the first, and then for the second. -/
theorem Timespec.Room.split (hx : x.Normalised) (ha : a * 1000000 + 1000000000 < 2 ^ 63)
    (h : x.Room (a + b)) :
  x.Room a ∧ (timespecAddMs x a).Room b
  := by
  rw [hx.room_iff] at h ⊢
  rw [(normalised_timespecAddMs hx ha).room_iff, toNs_timespecAddMs hx ha]
  push_cast at h
  obtain ⟨hlower, hupper⟩ := h
  constructor
  · constructor <;> omega
  · constructor <;> omega

end X6losim
