/-!
# Doubles as exact ratios

A finite double is a sign, a natural number and a power of two. `Parts.ofFloat`
reads the three off the bits, and `ofRatio` goes the other way: it is the double
nearest to a ratio of natural numbers, halves going to the even neighbour.

Results:
* `roundDiv_mul`: a quotient without remainder is not rounded.
* `roundDiv_le`, `le_roundDiv`: rounding moves a quotient by half a unit at most.
-/
namespace CurveKit.Decimal

/-- What a double stands for. -/
inductive Parts where
  | nan
  | infinite (negative : Bool)
  | finite (negative : Bool) (mantissa : Nat) (exponent : Int)
  deriving DecidableEq, Repr

/-- The value of a double: `mantissa * 2 ^ exponent` when it is finite. -/
def Parts.ofFloat (x : Float) : Parts :=
  let bits : Nat := x.toBits.toNat
  let negative := bits / Nat.pow 2 63 == 1
  let biased : Nat := bits / Nat.pow 2 52 % Nat.pow 2 11
  let fraction : Nat := bits % Nat.pow 2 52
  if biased == 2047 then
    if fraction == 0 then .infinite negative else .nan
  else if biased == 0 then .finite negative fraction (-1074)
  else .finite negative (Nat.pow 2 52 + fraction) ((biased : Int) - 1075)

/-- The quotient rounded to the nearest natural number, a half to the even one. -/
def roundDiv (num den : Nat) : Nat :=
  let q := num / den
  let r := num % den
  if 2 * r < den then q
  else if den < 2 * r then q + 1
  else if q % 2 == 0 then q else q + 1

theorem roundDiv_mul {den : Nat} (h : 0 < den) (q : Nat) : roundDiv (q * den) den = q := by
  simp [roundDiv, Nat.mul_div_cancel q h, h]

theorem roundDiv_le {den : Nat} (h : 0 < den) (num : Nat) :
    2 * (den * roundDiv num den) ≤ 2 * num + den := by
  have hd := Nat.div_add_mod num den
  have hm := Nat.mod_lt num h
  simp only [roundDiv]
  split
  · omega
  · split
    · rw [Nat.mul_add]; omega
    · split
      · omega
      · rw [Nat.mul_add]; omega

theorem le_roundDiv {den : Nat} (h : 0 < den) (num : Nat) :
    2 * num ≤ 2 * (den * roundDiv num den) + den := by
  have hd := Nat.div_add_mod num den
  have hm := Nat.mod_lt num h
  simp only [roundDiv]
  split
  · omega
  · split
    · rw [Nat.mul_add]; omega
    · split
      · omega
      · rw [Nat.mul_add]; omega

/-- `num / den * base ^ e` as a ratio of natural numbers. -/
def scaleRatio (base : Nat) (e : Int) (num den : Nat) : Nat × Nat :=
  match e with
  | .ofNat k => (num * Nat.pow base k, den)
  | .negSucc k => (num, den * Nat.pow base (k + 1))

/-- The bits of the positive double nearest to `num / den`, infinity included. -/
def nearestBits (num den : Nat) : Nat :=
  let top : Int := (num.log2 : Int) - den.log2
  let wide := scaleRatio 2 (52 - top) num den
  let q := max (if wide.1 / wide.2 < Nat.pow 2 52 then top - 53 else top - 52) (-1074)
  let scaled := scaleRatio 2 (-q) num den
  min ((q + 1074).toNat * Nat.pow 2 52 + roundDiv scaled.1 scaled.2) (2047 * Nat.pow 2 52)

/-- The double nearest to `± num / den`; `den` is positive. -/
def ofRatio (negative : Bool) (num den : Nat) : Float :=
  let bits := if num == 0 then 0 else nearestBits num den
  Float.ofBits (UInt64.ofNat (if negative then Nat.pow 2 63 + bits else bits))

/-- How many decimal digits a natural number has; 0 has one. -/
def digitCount (n : Nat) : Nat := (Nat.toDigits 10 n).length

/-- The double nearest to `± digits * 10 ^ exponent`; far exponents need no power of ten. -/
def ofDecimal (negative : Bool) (digits : Nat) (exponent : Int) : Float :=
  let top := (digitCount digits : Int) + exponent
  if digits == 0 || top < -400 then ofRatio negative 0 1
  else if 400 < top then ofRatio negative (Nat.pow 2 1024) 1
  else
    let r := scaleRatio 10 exponent digits 1
    ofRatio negative r.1 r.2

/-- The exponent `e` with `10 ^ e ≤ num / den < 10 ^ (e + 1)`, for a positive ratio. -/
def leadingExponent (num den : Nat) : Int :=
  let k := (digitCount num : Int) - digitCount den
  let r := scaleRatio 10 (-k) num den
  if r.2 ≤ r.1 then k else k - 1

end CurveKit.Decimal
