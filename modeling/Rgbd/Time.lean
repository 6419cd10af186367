import Rgbd.Decimal.Shortest

/-!
Durations, wall-clock times and monotonic instants, all counted in nanoseconds.

A wall-clock time is a signed count of nanoseconds since the Unix epoch whose whole seconds
fit a signed 64-bit word; adding or subtracting a duration fails when the result leaves
that range. A duration is a natural count of nanoseconds below `2⁶⁴` seconds. Instants of
the monotonic clock count nanoseconds since an arbitrary base.

A duration read from binary64 seconds is the exact value rounded to the nearest
nanosecond, a tie going to the even count; negative, non-finite and too large values
have no duration.
-/

namespace Rgbd

def nanosPerSecond : Nat := 1000000000

/-- A span of time. -/
structure Duration where
  nanos : Nat
  deriving Repr, DecidableEq, Inhabited

namespace Duration

instance : OfNat Duration 0 := ⟨⟨0⟩⟩

def ofSeconds (s : Nat) : Duration := ⟨s * nanosPerSecond⟩

def secs (d : Duration) : Nat := d.nanos / nanosPerSecond

def subsecNanos (d : Duration) : Nat := d.nanos % nanosPerSecond

def roundHalfEven (n d : Nat) : Nat :=
  let q := n / d
  let r := n % d
  if 2 * r > d || (2 * r == d && q % 2 == 1) then q + 1 else q

/-- The duration nearest to `x` seconds; `none` for negative, non-finite values and
values of `2⁶⁴` seconds or more. Negative zero is the empty duration. -/
def ofSecondsFloat? (x : Float) : Option Duration :=
  if x < 0 || x.isNaN || x.isInf then none
  else
    match Decimal.Binary.ofBits x.toBits with
    | none => some 0
    | some b =>
      let up := Nat.pow 2 b.exponent.toNat
      let down := Nat.pow 2 (-b.exponent).toNat
      if b.mantissa * up ≥ Nat.pow 2 64 * down then none
      else some ⟨roundHalfEven (b.mantissa * up * nanosPerSecond) down⟩

def tenth (d : Duration) : Duration := ⟨d.nanos / 10⟩

def clamp (d lo hi : Duration) : Duration := ⟨max lo.nanos (min hi.nanos d.nanos)⟩

end Duration

/-- A wall-clock time: nanoseconds since the Unix epoch. -/
structure SystemTime where
  nanos : Int
  deriving Repr, DecidableEq, Inhabited

namespace SystemTime

def limit : Int := Int.pow 2 63 * (nanosPerSecond : Int)

def ofParts (secs : Int) (nanos : Nat) : SystemTime := ⟨secs * nanosPerSecond + nanos⟩

def secs (t : SystemTime) : Int := t.nanos / (nanosPerSecond : Int)

def subsecNanos (t : SystemTime) : Nat := (t.nanos % (nanosPerSecond : Int)).toNat

def checkedAdd (t : SystemTime) (d : Duration) : Option SystemTime :=
  let r := t.nanos + d.nanos
  if r < limit then some ⟨r⟩ else none

def checkedSub (t : SystemTime) (d : Duration) : Option SystemTime :=
  let r := t.nanos - d.nanos
  if -limit ≤ r then some ⟨r⟩ else none

def advance (t : SystemTime) (d : Duration) : SystemTime := (t.checkedAdd d).getD t

end SystemTime

/-- A reading of the monotonic clock: nanoseconds since a fixed base instant. -/
structure Instant where
  nanos : Nat
  deriving Repr, DecidableEq, Inhabited

namespace Instant

def add (i : Instant) (d : Duration) : Instant := ⟨i.nanos + d.nanos⟩

instance : LE Instant := ⟨fun a b => a.nanos ≤ b.nanos⟩

instance (a b : Instant) : Decidable (a ≤ b) := inferInstanceAs (Decidable (a.nanos ≤ b.nanos))

def sinceBase (i : Instant) : Duration := ⟨i.nanos⟩

def limit : Nat := Nat.pow 2 63 * nanosPerSecond

def isRepresentable (i : Instant) : Bool := i.nanos < limit

def checkedAdd (i : Instant) (d : Duration) : Option Instant :=
  if (i.add d).isRepresentable then some (i.add d) else none

end Instant

end Rgbd
