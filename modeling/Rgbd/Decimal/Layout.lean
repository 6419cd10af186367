import Rgbd.Decimal.Shortest

/-!
Laying out decimal digits as text.

Digits `c` with exponent `k` stand for `c · 10 ^ k`. With `n` the number of digits of `c`,
the value lies in `[10 ^ (n + k - 1), 10 ^ (n + k))`; a `Layout` decides from `n + k`
whether the value is written positionally or with an exponent mark.
-/

namespace Rgbd.Decimal

/-- How a decimal is written. -/
structure Layout where
  maxPositional : Int
  minPositional : Int
  exponentMark : String
  plusSign : Bool
  deriving Repr, DecidableEq

def zeros (count : Nat) : String := String.ofList (List.replicate count '0')

/-- The text of `c · 10 ^ k` for `c > 0`, without a sign. An integral positional value
keeps a `.0`; scientific notation puts a point after the first digit when more follow. -/
def Layout.digits (layout : Layout) (c : Nat) (k : Int) : String :=
  let s := (Nat.toDigits 10 c)
  let n : Int := s.length
  let kk := n + k
  if 0 ≤ k ∧ kk ≤ layout.maxPositional then
    String.ofList s ++ zeros k.toNat ++ ".0"
  else if 0 < kk ∧ kk ≤ layout.maxPositional then
    String.ofList (s.take kk.toNat) ++ "." ++ String.ofList (s.drop kk.toNat)
  else if layout.minPositional < kk ∧ kk ≤ 0 then
    "0." ++ zeros (-kk).toNat ++ String.ofList s
  else
    let mantissa := match s with
      | [d] => String.singleton d
      | d :: rest => String.singleton d ++ "." ++ String.ofList rest
      | [] => "0"
    let exponent := kk - 1
    mantissa ++ layout.exponentMark ++ (if layout.plusSign && exponent > 0 then "+" else "") ++
      toString exponent

/-- The text of a finite double: its shortest digits laid out, `-` in front of a negative
value (negative zero included), and zero written `0.0`. `none` for infinities and NaN. -/
def Layout.float (layout : Layout) (x : Float) : Option String :=
  if x.isNaN || x.isInf then none
  else
    let sign := if x.toBits >>> 63 == 1 then "-" else ""
    match shortestDigits x with
    | some (c, k) => some (sign ++ layout.digits c k)
    | none => some (sign ++ "0.0")

end Rgbd.Decimal
