import Rgbd.Decimal.Shortest

/-!
Reading numbers from command-line text.

A float is an optional sign followed by `inf`, `infinity` or `nan` in any case, or by
decimal digits with an optional point and an optional exponent (`e` or `E`, an optional
sign, digits); there must be a digit before or after the point. Its value is the binary64
value nearest to the exact decimal, ties to even: values too large are infinite and
values too small are zero.

A word is an optional `+` followed by decimal digits, at most `2 ^ 32 - 1`.
-/

namespace Rgbd.Decimal

def nearestBits (num den : Nat) : UInt64 :=
  let e0 : Int := (bitLength num : Int) - bitLength den - 53
  let e := if num * Nat.pow 2 (-e0).toNat ≥ den * Nat.pow 2 e0.toNat * Nat.pow 2 53 then e0 + 1 else e0
  let e := max e (-1074)
  let scaledNum := num * Nat.pow 2 (-e).toNat
  let scaledDen := den * Nat.pow 2 e.toNat
  let q := scaledNum / scaledDen
  let r := scaledNum % scaledDen
  let q := if 2 * r > scaledDen || (2 * r = scaledDen && q % 2 = 1) then q + 1 else q
  let (q, e) := if q = Nat.pow 2 53 then (Nat.pow 2 52, e + 1) else (q, e)
  if q < Nat.pow 2 52 then q.toUInt64
  else
    let biased := e + 1075
    if biased ≥ 2047 then 0x7FF0000000000000
    else (biased.toNat * Nat.pow 2 52 + (q - Nat.pow 2 52)).toUInt64

def nearestFloat (c : Nat) (k : Int) : Float :=
  if c = 0 then 0
  else
    let digits := (toString c).length
    if k + digits > 310 then Float.ofBits 0x7FF0000000000000
    else if k + digits < -330 then 0
    else Float.ofBits (nearestBits (c * Nat.pow 10 k.toNat) (Nat.pow 10 (-k).toNat))

def takeDigits (cs : List Char) : List Char × List Char := (cs.takeWhile Char.isDigit, cs.dropWhile Char.isDigit)

def digitsValue (ds : List Char) : Nat := ds.foldl (fun n d => 10 * n + (d.toNat - 48)) 0

def takeSign : List Char → Bool × List Char
  | '+' :: rest => (false, rest)
  | '-' :: rest => (true, rest)
  | cs => (false, cs)

def unsignedFloat? (cs : List Char) : Option Float :=
  let word := String.ofList (cs.map Char.toLower)
  if word = "inf" || word = "infinity" then some (Float.ofBits 0x7FF0000000000000)
  else if word = "nan" then some (Float.ofBits 0x7FF8000000000000)
  else
    let (whole, rest) := takeDigits cs
    let (fraction, rest) := match rest with
      | '.' :: rest => takeDigits rest
      | rest => ([], rest)
    if whole.isEmpty && fraction.isEmpty then none
    else
      let exponent : Option Int := match rest with
        | [] => some 0
        | e :: rest =>
          if e = 'e' || e = 'E' then
            let (negative, rest) := takeSign rest
            let (ds, tail) := takeDigits rest
            if ds.isEmpty || !tail.isEmpty then none
            else
              let n : Int := digitsValue ds
              some (if negative then -n else n)
          else none
      exponent.map fun k =>
        nearestFloat (digitsValue (whole ++ fraction)) (k - fraction.length)

def parseFloat? (s : String) : Option Float :=
  let (negative, rest) := takeSign s.toList
  (unsignedFloat? rest).map fun x => if negative then -x else x

def parseWord? (s : String) : Option Nat :=
  let cs := match s.toList with
    | '+' :: rest => rest
    | cs => cs
  if cs.isEmpty || !cs.all Char.isDigit then none
  else
    let n := digitsValue cs
    if n < Nat.pow 2 32 then some n else none

end Rgbd.Decimal
