/-!
Shortest decimal digits of a binary64 value.

A finite nonzero double is `m · 2 ^ q`. The reals that round to it form an interval whose
ends are the midpoints to its two neighbours, the ends included exactly when `m` is even.
For each digit count `n = 1, 2, …, 17` the value's two neighbours on the grid of `n`-digit
decimals are tested in exact natural-number arithmetic. The first count with a neighbour
inside the interval gives the digits; of two such neighbours the nearer one wins and an
exact tie goes to the even digit string. Seventeen digits always suffice.

The result is a pair `(c, k)` meaning `c · 10 ^ k`, with `c` free of trailing zeros.
-/

namespace Rgbd.Decimal

/-- A finite, nonzero binary64 magnitude `mantissa · 2 ^ exponent`. -/
structure Binary where
  mantissa : Nat
  exponent : Int
  narrowBelow : Bool
  deriving Repr, DecidableEq

def Binary.ofBits (bits : UInt64) : Option Binary :=
  let fraction := (bits &&& 0xFFFFFFFFFFFFF).toNat
  let biased := ((bits >>> 52) &&& 0x7FF).toNat
  if biased = 0x7FF then none
  else if biased = 0 then
    if fraction = 0 then none else some ⟨fraction, -1074, false⟩
  else some ⟨fraction + Nat.pow 2 52, (biased : Int) - 1075, fraction = 0 && biased > 1⟩

def compareScaled (c : Nat) (k : Int) (a : Nat) (p : Int) : Ordering :=
  compare (c * Nat.pow 10 k.toNat * Nat.pow 2 (-p).toNat) (a * Nat.pow 2 p.toNat * Nat.pow 10 (-k).toNat)

def floorScaled (m : Nat) (q k : Int) : Nat :=
  (m * Nat.pow 2 q.toNat * Nat.pow 10 (-k).toNat) / (Nat.pow 2 (-q).toNat * Nat.pow 10 k.toNat)

def bitLength (n : Nat) : Nat := if n = 0 then 0 else n.log2 + 1

namespace Binary

variable (b : Binary)

/-- Whether `c · 10 ^ k` reads back as this value: it lies strictly between the midpoints
to the neighbours, or on one of them when the mantissa is even. -/
def admits (c : Nat) (k : Int) : Bool :=
  let p := b.exponent - 2
  let lower := if b.narrowBelow then 4 * b.mantissa - 1 else 4 * b.mantissa - 2
  let upper := 4 * b.mantissa + 2
  let closed := b.mantissa % 2 == 0
  let aboveLower := match compareScaled c k lower p with
    | .gt => true
    | .eq => closed
    | .lt => false
  let belowUpper := match compareScaled c k upper p with
    | .lt => true
    | .eq => closed
    | .gt => false
  aboveLower && belowUpper

def decimalExponentGuess : Int :=
  ((b.exponent + bitLength b.mantissa - 1) * 78913) / 262144

def decimalExponent : Int :=
  let up := fun (e : Int) => if compareScaled 1 (e + 1) b.mantissa b.exponent != .gt then e + 1 else e
  let down := fun (e : Int) => if compareScaled 1 e b.mantissa b.exponent == .gt then e - 1 else e
  down (down (up (up b.decimalExponentGuess)))

/-- The neighbour of the value on the grid `10 ^ k` that reads back, if either does;
the nearer one when both do, and the even one on an exact tie. -/
def pickOnGrid (k : Int) : Option Nat :=
  let lo := floorScaled b.mantissa b.exponent k
  let hi := lo + 1
  match b.admits lo k, b.admits hi k with
  | false, false => none
  | true, false => some lo
  | false, true => some hi
  | true, true =>
    match compareScaled (lo + hi) k (2 * b.mantissa) b.exponent with
    | .gt => some lo
    | .lt => some hi
    | .eq => some (if lo % 2 == 0 then lo else hi)

end Binary

def stripZeros (c : Nat) (k : Int) (fuel : Nat) : Nat × Int :=
  match fuel with
  | 0 => (c, k)
  | fuel + 1 =>
    if c ≠ 0 ∧ c % 10 = 0 then stripZeros (c / 10) (k + 1) fuel else (c, k)

def Binary.shortest (b : Binary) : Nat × Int :=
  let e := b.decimalExponent
  let found := (List.range' 1 17).findSome? fun (n : Nat) =>
    let k := e - (n : Int) + 1
    (b.pickOnGrid k).map fun c => (c, k)
  match found with
  | some (c, k) => stripZeros c k 20
  | none => (b.mantissa, 0)

/-- Shortest digits of the magnitude of a finite nonzero double; `none` for zero,
infinities and NaN. -/
def shortestDigits (x : Float) : Option (Nat × Int) :=
  (Binary.ofBits x.toBits).map Binary.shortest

end Rgbd.Decimal
