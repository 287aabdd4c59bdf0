import Mathlib.Data.Int.Defs

/-!
# `std::time` on Unix: `Duration`, `SystemTime`, `UNIX_EPOCH`

A `SystemTime` is a `Timespec`: seconds as an `i64` and nanoseconds below `10^9`. `SystemTime + Duration` is
`checked_add(..).expect(..)`, and `checked_add` is `Timespec::checked_add_duration`: `i64::checked_add_unsigned` of the
duration's seconds, then the carry of the nanoseconds with `i64::checked_add`. `Duration::new` carries its nanoseconds
into its `u64` seconds with `checked_add(..).expect(..)`. A panic is `none`.
-/

namespace Rencfs

/-- `NANOS_PER_SEC`. -/
def nanosPerSec : Nat := 1000000000

/-- `i64::MAX`, `2^63 - 1`. -/
def i64Max : Int := 9223372036854775807

/-- `u64::MAX`, `2^64 - 1`. -/
def u64Max : Nat := 18446744073709551615

/-- `x as u64` for an `i64` `x`: the same bits, read unsigned. -/
def asU64 (x : Int) : Nat := (x % 18446744073709551616).toNat

/-- A `Duration`: `u64` seconds and nanoseconds below `10^9`. -/
structure Duration where
  secs : Nat
  nanos : Nat
  deriving DecidableEq, Repr

/-- `Duration::new(secs, nanos)`: panics when the carried seconds overflow `u64`. -/
def Duration.new (secs nanos : Nat) : Option Duration :=
  if secs + nanos / nanosPerSec ≤ u64Max then some ⟨secs + nanos / nanosPerSec, nanos % nanosPerSec⟩ else none

/-- A `SystemTime`: a `Timespec` of `i64` seconds and nanoseconds below `10^9`. -/
structure SystemTime where
  sec : Int
  nsec : Nat
  deriving DecidableEq, Repr

/-- `UNIX_EPOCH`. -/
def UNIX_EPOCH : SystemTime := ⟨0, 0⟩

/-- `i64::checked_add_unsigned` on a non-negative sum's side: `None` past `i64::MAX`. -/
def checkedAddUnsigned (a : Int) (b : Nat) : Option Int := if a + b ≤ i64Max then some (a + b) else none

/-- `i64::checked_add(1)`. -/
def checkedAddOne (a : Int) : Option Int := if a + 1 ≤ i64Max then some (a + 1) else none

/-- `Timespec::checked_add_duration`. -/
def SystemTime.checkedAdd (t : SystemTime) (d : Duration) : Option SystemTime :=
  (checkedAddUnsigned t.sec d.secs).bind fun secs =>
    if nanosPerSec ≤ d.nanos + t.nsec then
      (checkedAddOne secs).map fun secs => ⟨secs, d.nanos + t.nsec - nanosPerSec⟩
    else some ⟨secs, d.nanos + t.nsec⟩

/-- `SystemTime + Duration`: `checked_add(..).expect("overflow when adding duration to instant")`. -/
def SystemTime.add (t : SystemTime) (d : Duration) : Option SystemTime := t.checkedAdd d

end Rencfs
