import CurveKit.Segment

/-!
# X-splines

A segment blends the four points around it with weights that depend on the
position in the segment and on the shapes of its two ends. Shape 0 passes through
the point, a positive shape pulls the curve past it, and a negative one, which
only the extended family has, sharpens it towards a corner.
-/
namespace CurveKit.Scheme

variable {K : Type} [Scalar K]

/-- The quintic blend for positive shapes, at the quotient of its first two arguments. -/
def fBlend (numerator denominator p : K) : K :=
  let u := numerator / denominator
  let u2 := u * u
  u * u2 * (10 - p + (2 * p - 15) * u + (6 - p) * u2)

/-- The blend of the two inner points around a negative shape. -/
def gBlend (u q : K) : K :=
  u * (q + u * (2 * q + u * (8 - 12 * q + u * (14 * q - 11 + u * (4 - 5 * q)))))

/-- The blend of the two outer points around a negative shape. -/
def hBlend (u q : K) : K :=
  let u2 := u * u
  u * (q + u * (2 * q + u2 * (-2 * q - u * q)))

inductive Family where
  | basic
  | extended
  | general
  deriving DecidableEq, Repr

/-- The weights of the points `i - 1`, `i`, `i + 1` and `i + 2` in segment `i`. -/
structure Weights (K : Type) where
  w0 : K
  w1 : K
  w2 : K
  w3 : K
  deriving DecidableEq, Repr

/-- The exponent of the basic family is 2; that of the others grows with the shape. -/
def Family.exponent (f : Family) (s : K) : K :=
  match f with
  | basic => 2
  | _ => 2 * (1 + s) * (1 + s)

/-- The weights of the points `i - 1` and `i + 1` at `t`, for a shape of point `i` that is not
negative. The point before drops out at `t = s`. -/
def leftWeights (f : Family) (t s : K) : K × K :=
  let p := f.exponent s
  (if t < s then fBlend (t - s) (-1 - s) p else 0, fBlend (t + s) (1 + s) p)

/-- The weights of the points `i` and `i + 2` at `t`, for a shape of point `i + 1` that is not
negative. The point behind comes in at `t = 1 - s`. -/
def rightWeights (f : Family) (t s : K) : K × K :=
  let p := f.exponent s
  (fBlend (t - 1 - s) (-1 - s) p, if 1 - s < t then fBlend (t - 1 + s) (1 + s) p else 0)

/-- Does the family treat a shape as negative? Only the extended one has negative shapes. -/
def Family.isSharp (f : Family) (s : K) : Bool :=
  match f with
  | extended => s < 0
  | _ => false

/-- The four weights at `t`, for the shapes of the two ends. -/
def weights (f : Family) (t s1 s2 : K) : Weights K :=
  let left := if f.isSharp s1 then (hBlend (-t) (-s1 / 2), gBlend t (-s1 / 2))
    else leftWeights f t s1
  let right := if f.isSharp s2 then (gBlend (1 - t) (-s2 / 2), hBlend (t - 1) (-s2 / 2))
    else rightWeights f t s2
  { w0 := left.1, w1 := right.1, w2 := left.2, w3 := right.2 }

/-- Is something divided by zero in the weights of an end with this shape? -/
def Family.isSingular (f : Family) (s : K) : Bool := !f.isSharp s && 1 + s == 0

def fBlend? (numerator denominator p : K) : Option K :=
  if denominator == 0 then none else some (fBlend numerator denominator p)

def weights? (f : Family) (t s1 s2 : K) : Option (Weights K) :=
  if f.isSingular s1 || f.isSingular s2 then none else some (weights f t s1 s2)

def Weights.toList (w : Weights K) : List K := [w.w0, w.w1, w.w2, w.w3]

def Weights.total (w : Weights K) : K := w.w0 + w.w1 + w.w2 + w.w3

def Weights.mean (w : Weights K) (p0 p1 p2 p3 : K) : K :=
  (w.w0 * p0 + w.w1 * p1 + w.w2 * p2 + w.w3 * p3) / w.total

/-- The weights in segment `i` of `n` points at a parameter. The end points of the curve always
act with shape 0. -/
def blendWeights (f : Family) (n : Nat) (x shape : Nat → K) (i : Nat) (t : K) : Weights K :=
  weights f ((t - x i) / (x (i + 1) - x i)) (if i == 0 then 0 else shape i)
    (if i + 2 == n then 0 else shape (i + 1))

/-- The blend of the points around segment `i`; the ends stand in for points beyond them. -/
def blendPiece (f : Family) (n : Nat) (x y shape : Nat → K) (i : Nat) (t : K) : K :=
  (blendWeights f n x shape i t).mean (y (i - 1)) (y i) (y (i + 1)) (y (min (i + 2) (n - 1)))

/-- Blends between the ends, which are held. -/
def blended (f : Family) (n : Nat) (x y shape : Nat → K) (t : K) : K :=
  (held? n x y t).getD (blendPiece f n x y shape (segment n x t) t)

end CurveKit.Scheme
