import CurveKit.Segment

/-!
# Cubic pieces from slopes

A cubic with given end values and end slopes, kept as four coefficients in the
distance from its start. Two ways to choose the slopes: the chord between the
neighbours of a point, and Akima's mean of the secants on both sides, which
weighs each by the change of secants on the other side.

Results:
* `chordSlope_of_inner`, `paddedSecant_inner`: the slopes and the secants between the ends.
-/
namespace CurveKit.Scheme

variable {K : Type} [Scalar K]

/-- The cubic `a + b u + c u² + d u³`. -/
structure Cubic (K : Type) where
  a : K
  b : K
  c : K
  d : K
  deriving DecidableEq, Repr

def Cubic.eval (p : Cubic K) (u : K) : K := p.a + u * (p.b + u * (p.c + u * p.d))

/-- The coefficient of the power `j` of the distance, for `j` up to 3. -/
def Cubic.coefficient (p : Cubic K) : Nat → K
  | 0 => p.a
  | 1 => p.b
  | 2 => p.c
  | _ => p.d

/-- The slope of the line from point `i` to point `i + 1`. -/
def secant (x y : Nat → K) (i : Nat) : K := (y (i + 1) - y i) / (x (i + 1) - x i)

/-- The cubic from point `i` to point `i + 1` with the slopes `m`. -/
def slopeCubic (x y m : Nat → K) (i : Nat) : Cubic K :=
  let h := x (i + 1) - x i
  let s := secant x y i
  { a := y i
    b := m i
    c := (3 * s - 2 * m i - m (i + 1)) / h
    d := (m i + m (i + 1) - 2 * s) / (h * h) }

/-- The slope of the chord between the neighbours of point `i`; at an end, of the segment
there. -/
def chordSlope (n : Nat) (x y : Nat → K) (i : Nat) : K :=
  if i == 0 then secant x y 0
  else if i + 1 == n then secant x y (n - 2)
  else (y (i + 1) - y (i - 1)) / (x (i + 1) - x (i - 1))

theorem chordSlope_of_inner {n i : Nat} {x y : Nat → K} (h0 : 0 < i) (hi : i + 1 < n) :
    chordSlope n x y i = (y (i + 1) - y (i - 1)) / (x (i + 1) - x (i - 1)) := by
  have hfirst : ¬ i = 0 := by omega
  have hlast : ¬ i + 1 = n := by omega
  simp only [chordSlope, beq_iff_eq, hfirst, hlast, if_false]

/-- The secants of `n` points with two more on each side, extrapolated from the two at that
end. Entry `i + 2` is the secant of segment `i`. -/
def paddedSecant (n : Nat) (x y : Nat → K) (i : Nat) : K :=
  let s := secant x y
  let first := 2 * s 0 - s 1
  let last := 2 * s (n - 2) - s (n - 3)
  if i == 0 then 2 * first - s 0
  else if i == 1 then first
  else if i ≤ n then s (i - 2)
  else if i == n + 1 then last
  else 2 * last - s (n - 2)

theorem paddedSecant_inner {n i : Nat} {x y : Nat → K} (hi : 2 ≤ i) (hi' : i ≤ n) :
    paddedSecant n x y i = secant x y (i - 2) := by
  have h0 : ¬ i = 0 := by omega
  have h1 : ¬ i = 1 := by omega
  simp only [paddedSecant, beq_iff_eq, h0, h1, hi', if_false, if_true]

/-- The mean of two secants, weighted, or plain if both weights are zero. -/
def weightedSlope (before behind weightBefore weightBehind : K) : K :=
  let total := weightBefore + weightBehind
  if total == 0 then (before + behind) / 2
  else (weightBefore * before + weightBehind * behind) / total

def akimaSlope (n : Nat) (x y : Nat → K) (i : Nat) : K :=
  let s := paddedSecant n x y
  weightedSlope (s (i + 1)) (s (i + 2)) (Scalar.magnitude (s (i + 3) - s (i + 2)))
    (Scalar.magnitude (s (i + 1) - s i))

/-- The cubic of segment `i` at a parameter. -/
def cubicPiece (x : Nat → K) (p : Nat → Cubic K) (i : Nat) (t : K) : K := (p i).eval (t - x i)

/-- Cubics between the second and the second-to-last of `n` points, which are held. -/
def guided (n : Nat) (x y : Nat → K) (p : Nat → Cubic K) (t : K) : K :=
  if t ≤ x 1 then y 1
  else if x (n - 2) ≤ t then y (n - 2)
  else cubicPiece x p (segment n x t) t

/-- Cubics between the ends, which are held. -/
def cubics (n : Nat) (x y : Nat → K) (p : Nat → Cubic K) (t : K) : K :=
  (held? n x y t).getD (cubicPiece x p (segment n x t) t)

end CurveKit.Scheme
