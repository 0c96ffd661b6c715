import CurveKit.Decimal.Binary64

/-!
# Writing doubles

`shortest x` has the fewest digits that still round to `x`; among decimals of that
length the nearest one is taken. Values from `10 ^ -4` up to below `10 ^ 16` are
positional and always show a point, the others have an exponent.

`scientific 9 x` is `x` rounded to one digit before the point and nine after it,
with a sign and at least two digits in the exponent. The rounding is that of the
exact binary value, a half going to the even digit. Both zeros read the same, and
a value that is not a number has no sign.
-/
namespace CurveKit.Decimal

/-- A signed decimal exponent of at least two digits. -/
def exponentText (e : Int) : String :=
  let digits := e.natAbs.repr
  (if e < 0 then "-" else "+") ++ (if digits.length < 2 then "0" ++ digits else digits)

/-! ## The shortest decimal that reads back -/

/-- The decimals that round to one double: all those between `low` and `high`, given as
ratios over `den`, the ends included when the double's mantissa is even. -/
structure Rounding where
  low : Nat
  high : Nat
  den : Nat
  closed : Bool

/-- The interval of the positive double `m * 2 ^ e`. Below a power of two the neighbours are
half as far apart. -/
def Rounding.ofParts (m : Nat) (e : Int) : Rounding :=
  let narrow := m == Nat.pow 2 52 && -1074 < e
  let unit := scaleRatio 2 (e - 2) 1 1
  { low := (if narrow then 4 * m - 1 else 4 * m - 2) * unit.1
    high := (4 * m + 2) * unit.1
    den := unit.2
    closed := m % 2 == 0 }

/-- Does `num / den` round to the double of this interval? -/
def Rounding.contains (r : Rounding) (num den : Nat) : Bool :=
  let below := compare (r.low * den) (num * r.den)
  let above := compare (num * r.den) (r.high * den)
  if r.closed then below != .gt && above != .gt else below == .lt && above == .lt

/-- The neighbour of `num / den` on the grid of `count` digits that rounds to the same double:
the nearer of the two if both do. The grid's unit is `10 ^ (e + 1 - count)`. -/
def gridNeighbour (r : Rounding) (num den : Nat) (e : Int) (count : Nat) : Option Nat :=
  let unit := e + 1 - count
  let scaled := scaleRatio 10 (-unit) num den
  let hits (n : Nat) : Bool :=
    let v := scaleRatio 10 unit n 1
    r.contains v.1 v.2
  let nearest := roundDiv scaled.1 scaled.2
  let floor := scaled.1 / scaled.2
  let other := if nearest == floor then floor + 1 else floor
  if hits nearest then some nearest else if hits other then some other else none

def shortestFrom (r : Rounding) (num den : Nat) (e : Int) : Nat → Nat → Nat × Nat
  | 0, count => (num / den, count)
  | fuel + 1, count =>
    match gridNeighbour r num den e count with
    | some n => (n, count)
    | none => shortestFrom r num den e fuel (count + 1)

/-- The shortest digits of the positive double `m * 2 ^ e`, without trailing zeros, and the
exponent of the first one. Seventeen digits always suffice. -/
def shortestDigits (m : Nat) (e : Int) : List Char × Int :=
  let v := scaleRatio 2 e m 1
  let k := leadingExponent v.1 v.2
  let (n, count) := shortestFrom (Rounding.ofParts m e) v.1 v.2 k 17 1
  let digits := n.repr.toList
  let significant := (digits.reverse.dropWhile (· == '0')).reverse
  (significant, k + digits.length - count)

/-- Digits with a point: in place while the exponent is at least -4 and below 16, otherwise
after the first digit and followed by the exponent. -/
def placePoint (digits : List Char) (e : Int) : String :=
  if e < -4 || 16 ≤ e then
    let tail := digits.drop 1
    String.ofList (digits.take 1) ++ (if tail.isEmpty then "" else "." ++ String.ofList tail)
      ++ "e" ++ exponentText e
  else if e < 0 then
    "0." ++ String.ofList (List.replicate (-e - 1).toNat '0') ++ String.ofList digits
  else
    let whole := e.toNat + 1
    let left := digits.take whole ++ List.replicate (whole - digits.length) '0'
    let right := digits.drop whole
    String.ofList left ++ "." ++ (if right.isEmpty then "0" else String.ofList right)

/-- The text of a double: shortest digits, with the sign of zero kept. -/
def shortest (x : Float) : String :=
  match Parts.ofFloat x with
  | .nan => "nan"
  | .infinite negative => if negative then "-inf" else "inf"
  | .finite negative m e =>
    let (digits, k) := if m == 0 then (['0'], 0) else shortestDigits m e
    (if negative then "-" else "") ++ placePoint digits k

/-! ## A fixed number of places -/

/-- The digits of `num / den` in scientific form with `places` decimal places, and the exponent. -/
def scientificDigits (places num den : Nat) : Nat × Int :=
  let e := leadingExponent num den
  let r := scaleRatio 10 ((places : Int) - e) num den
  let n := roundDiv r.1 r.2
  if n == Nat.pow 10 (places + 1) then (Nat.pow 10 places, e + 1) else (n, e)

def scientific (places : Nat) (x : Float) : String :=
  match Parts.ofFloat x with
  | .nan => "nan"
  | .infinite negative => if negative then "-inf" else "inf"
  | .finite negative m e =>
    if m == 0 then "0." ++ String.ofList (List.replicate places '0') ++ "e+00"
    else
      let r := scaleRatio 2 e m 1
      let (n, k) := scientificDigits places r.1 r.2
      let digits := n.repr.toList
      (if negative then "-" else "") ++ String.ofList (digits.take 1) ++ "."
        ++ String.ofList (digits.drop 1) ++ "e" ++ exponentText k

end CurveKit.Decimal
