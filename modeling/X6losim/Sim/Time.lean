import X6losim.Lib.CInt
import X6losim.Sim.Node

/-!
# Times

The functions on `struct timespec` besides `timespec_add_ms`, with the integers of their sizes.
-/

open CInt

namespace X6losim

/-- A time in nanoseconds. -/
def Timespec.toNs (t : Timespec) : Int := t.tvSec * 1000000000 + t.tvNsec

/-- The fields of a time fit in a `long`. -/
structure Timespec.Fits (t : Timespec) : Prop where
  tvSec : CInt.Fits 64 t.tvSec
  tvNsec : CInt.Fits 64 t.tvNsec

/-- The nanoseconds of a time are less than a second. -/
def Timespec.Normalised (t : Timespec) : Prop := 0 ≤ t.tvNsec ∧ t.tvNsec < 1000000000

/-- `compare_timespecs`. -/
def compareTimespecs (t1 t2 : Timespec) : Int :=
  if t1.tvSec < t2.tvSec then -1
  else if t1.tvSec = t2.tvSec then
    if t1.tvNsec < t2.tvNsec then -1
    else if t1.tvNsec = t2.tvNsec then 0
    else 1
  else 1

/-- The first carry of `timespec_subtract`: what `y` is after it. -/
def carryUp (x y : Timespec) : Option Timespec :=
  if x.tvNsec < y.tvNsec then do
    let diff ← signed 64 (y.tvNsec - x.tvNsec)
    let nsec := convert 32 (← signed 64 (diff.tdiv 1000000000 + 1))
    let tvNsec ← signed 64 (y.tvNsec - (← signed 32 (1000000000 * nsec)))
    let tvSec ← signed 64 (y.tvSec + nsec)
    return ⟨tvSec, tvNsec⟩
  else return y

/-- The second carry of `timespec_subtract`. -/
def carryDown (x y : Timespec) : Option Timespec := do
  if 1000000000 < (← signed 64 (x.tvNsec - y.tvNsec)) then
    let diff ← signed 64 (x.tvNsec - y.tvNsec)
    let nsec := convert 32 (diff.tdiv 1000000000)
    let tvNsec ← signed 64 (y.tvNsec + (← signed 32 (1000000000 * nsec)))
    let tvSec ← signed 64 (y.tvSec - nsec)
    return ⟨tvSec, tvNsec⟩
  else return y

/-- `timespec_subtract`: the result, what `y` is afterwards, and whether 1 is returned. -/
def timespecSubtract (x y : Timespec) : Option (Timespec × Timespec × Bool) := do
  let y ← carryUp x y
  let y ← carryDown x y
  let tvSec ← signed 64 (x.tvSec - y.tvSec)
  let tvNsec ← signed 64 (x.tvNsec - y.tvNsec)
  return (⟨tvSec, tvNsec⟩, y, x.tvSec < y.tvSec)

end X6losim
