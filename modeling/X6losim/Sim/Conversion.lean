import X6losim.Sim.Medium
import X6losim.Sim.Milliseconds
import X6losim.Sim.Reply

/-!
# Milliseconds as seconds and a rest

A number of milliseconds is turned into seconds and a rest in three places.  `recvReply` multiplies
before it takes the remainder, in an `int`, and the product does not always fit.
-/

open CInt

namespace X6losim

/-- What `DeviceNodeTimer::start(int ms)` sets its timer to. -/
def timerItValue (ms : Int) : Option Timespec :=
  if ms = 0 then return ⟨0, 1⟩
  else do
    let tvNsec ← signed 32 (ms.tmod 1000 * 1000000)
    return ⟨ms.tdiv 1000, tvNsec⟩

/-- A time in microseconds. -/
def Timeval.toUs (t : Timeval) : Int := t.tvSec * 1000000 + t.tvUsec

/-- The microseconds of a time are less than a second. -/
def Timeval.Normalised (t : Timeval) : Prop := 0 ≤ t.tvUsec ∧ t.tvUsec < 1000000

/-- All three conversions of milliseconds are defined, and give just these milliseconds, with a rest
that is less than a second. -/
structure MsConverted (ms : Int) : Prop where
  start : ∃ t, timerItValue ms = some t ∧ t.Normalised ∧ t.toNs = ms * 1000000
  recvReply : ∃ t, recvTimeout ms = .ok (some t) ∧ t.Normalised ∧ t.toUs = ms * 1000
  addMs : ∃ t, timespecAddMsLong ⟨0, 0⟩ ms.toNat = some t ∧ t.Normalised ∧ t.toNs = ms * 1000000

variable {ms : Int}

/-- `start(int ms)` sets its timer with numbers that fit in an `int`. -/
theorem startTimerMs_eq (env : Env) (p : NodePtr) (t : TimerName) (ms : Nat) :
  ∃ itValue, timerItValue ms = some itValue ∧
    startTimerMs env p t ms = (do
      let n ← deref p
      if (n.timer t).started then
        throw (.assertion (.timerStart t))
      arm env p t itValue)
  := by
  by_cases hzero : ms = 0
  · subst hzero
    exact ⟨⟨0, 1⟩, rfl, rfl⟩
  · have hfits : CInt.Fits 32 ((ms : Int).tmod 1000 * 1000000) := by
      rw [Int.tmod_eq_emod_of_nonneg (Int.natCast_nonneg ms), fits_32]
      omega
    refine ⟨⟨ms / 1000, ms % 1000 * 1000000⟩, ?_, ?_⟩
    · rw [timerItValue, if_neg (by omega), signed_of_fits hfits,
        Int.tmod_eq_emod_of_nonneg (Int.natCast_nonneg ms),
        Int.tdiv_eq_ediv_of_nonneg (Int.natCast_nonneg ms)]
      rfl
    · simp only [startTimerMs, if_neg hzero]

theorem timerItValue_converted (hpos : 1 ≤ ms) :
  ∃ t, timerItValue ms = some t ∧ t.Normalised ∧ t.toNs = ms * 1000000
  := by
  have hmod : ms.tmod 1000 = ms % 1000 := Int.tmod_eq_emod_of_nonneg (by omega)
  have hdiv : ms.tdiv 1000 = ms / 1000 := Int.tdiv_eq_ediv_of_nonneg (by omega)
  have hfits : CInt.Fits 32 (ms % 1000 * 1000000) := by
    rw [fits_32]
    omega
  refine ⟨⟨ms / 1000, ms % 1000 * 1000000⟩, ?_, ?_, ?_⟩
  · rw [timerItValue, if_neg (by omega), hmod, hdiv, signed_of_fits hfits]
    rfl
  · simp only [Timespec.Normalised]
    omega
  · simp only [Timespec.toNs]
    omega

theorem timespecAddMs_converted (hpos : 1 ≤ ms) (hfits : CInt.Fits 32 ms) :
  ∃ t, timespecAddMsLong ⟨0, 0⟩ ms.toNat = some t ∧ t.Normalised ∧ t.toNs = ms * 1000000
  := by
  have hzero : (⟨0, 0⟩ : Timespec).Normalised := ⟨by decide, by decide⟩
  have hcast : (ms.toNat : Int) = ms := Int.toNat_of_nonneg (by omega)
  rw [fits_32] at hfits
  have hms : ms.toNat * 1000000 + 1000000000 < 2 ^ 63 := by
    have hle : ms.toNat ≤ 2147483647 := by omega
    apply nanoseconds_lt_of_le hle
    decide
  have hroom : (⟨0, 0⟩ : Timespec).Room ms.toNat := by
    rw [hzero.room_iff, hcast]
    simp only [Timespec.toNs]
    omega
  refine ⟨_, timespecAddMsLong_eq hzero hms hroom, normalised_timespecAddMs hzero hms, ?_⟩
  rw [toNs_timespecAddMs hzero hms, hcast]
  simp only [Timespec.toNs]
  omega

/-- `recvReply` converts the milliseconds where their microseconds fit in an `int`, and is not
defined elsewhere. -/
theorem recvTimeout_converted_iff (hpos : 1 ≤ ms) :
  (∃ t, recvTimeout ms = .ok (some t) ∧ t.Normalised ∧ t.toUs = ms * 1000) ↔
    CInt.Fits 32 (ms * 1000)
  := by
  have hne : ms ≠ 0 := by omega
  constructor
  · rintro ⟨t, ht, -⟩
    obtain ⟨hfits, -⟩ | ⟨-, hoverflow⟩ := recvTimeout_cases ms
    · apply hfits
    · rw [hoverflow] at ht
      cases ht
  · intro hfits
    have hmod : (ms * 1000).tmod 1000000 = ms * 1000 % 1000000 :=
      Int.tmod_eq_emod_of_nonneg (by omega)
    have hdiv : ms.tdiv 1000 = ms / 1000 := Int.tdiv_eq_ediv_of_nonneg (by omega)
    refine ⟨⟨ms / 1000, ms * 1000 % 1000000⟩, ?_, ?_, ?_⟩
    · simp only [recvTimeout, if_neg hne, signed_of_fits hfits, hmod, hdiv]
    · simp only [Timeval.Normalised]
      omega
    · simp only [Timeval.toUs]
      omega

/-- The three conversions of an `int` of milliseconds agree exactly when the microseconds fit in an
`int`. -/
theorem msConverted_iff (hpos : 1 ≤ ms) (hint : ms ≤ 2147483647) :
  MsConverted ms ↔ ms ≤ 2147483
  := by
  have hfits : CInt.Fits 32 ms := by
    rw [fits_32]
    omega
  have hbound : CInt.Fits 32 (ms * 1000) ↔ ms ≤ 2147483 := by
    rw [fits_32]
    omega
  rw [← hbound, ← recvTimeout_converted_iff hpos]
  constructor
  · intro h
    apply h.recvReply
  · intro hreply
    exact ⟨timerItValue_converted hpos, hreply, timespecAddMs_converted hpos hfits⟩

/-- A second and a half. -/
theorem msConverted_second :
  MsConverted 1500
  := (msConverted_iff (by decide) (by decide)).mpr (by decide)

/-- The microseconds of 2147484 milliseconds do not fit in an `int`. -/
theorem msConverted_overflow :
  recvTimeout 2147484 = .error .overflow ∧
    ¬ ∀ ms : Int, 1 ≤ ms → ms ≤ 2147483647 → MsConverted ms
  := by
  have hoverflow : recvTimeout 2147484 = .error .overflow := rfl
  refine ⟨hoverflow, ?_⟩
  intro h
  obtain ⟨t, ht, -⟩ := (h 2147484 (by decide) (by decide)).recvReply
  rw [hoverflow] at ht
  cases ht

end X6losim
