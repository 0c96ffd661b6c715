import CurveKit.Extension
import CurveKit.Segment

/-!
# Cubic pieces from tangents

A Hermite piece is given by its end values and its end tangents. Catmull-Rom
tangents are chords between the neighbours of a point; Kochanek-Bartels tangents
mix the differences on both sides of a point by tension, bias and continuity, and
differ on the two sides. At an end the missing neighbour is the end itself.
-/
namespace CurveKit.Scheme

variable {K : Type} [Scalar K]

/-- The cubic on the unit interval with the values `v0`, `v1` and the tangents `m0`, `m1`. -/
def hermite (t v0 v1 m0 m1 : K) : K :=
  let t2 := t * t
  let t3 := t2 * t
  (2 * t3 - 3 * t2 + 1) * v0 + (t3 - 2 * t2 + t) * m0 + (-2 * t3 + 3 * t2) * v1 + (t3 - t2) * m1

/-- The chord tangent at point `i` of `n`, for a segment of the given length. -/
def chordTangent (n : Nat) (x y : Nat → K) (i : Nat) (length : K) : K :=
  let before := i - 1
  let behind := min (i + 1) (n - 1)
  (y behind - y before) * (length / (x behind - x before))

/-- The Catmull-Rom piece from point `i` to point `i + 1`. -/
def catmullRomPiece (n : Nat) (x y : Nat → K) (i : Nat) (t : K) : K :=
  let length := x (i + 1) - x i
  hermite ((t - x i) / length) (y i) (y (i + 1)) (chordTangent n x y i length)
    (chordTangent n x y (i + 1) length)

/-- Catmull-Rom pieces between the ends, which are held. -/
def catmullRom (n : Nat) (x y : Nat → K) (t : K) : K :=
  (held? n x y t).getD (catmullRomPiece n x y (segment n x t) t)

/-- The difference to the entry before; zero at the first one. -/
def backward (a : Nat → K) (i : Nat) : K := if i == 0 then 0 else a i - a (i - 1)

/-- The difference to the next entry; zero at the last one. -/
def forward (n : Nat) (a : Nat → K) (i : Nat) : K := if i + 1 == n then 0 else a (i + 1) - a i

/-- The differences before and behind a point, mixed for the tangent with which it is reached. -/
def incomingMix (p : Tcb K) (before behind : K) : K :=
  (1 - p.tension) * (1 - p.continuity) * (1 + p.bias) / 2 * before
    + (1 - p.tension) * (1 + p.continuity) * (1 - p.bias) / 2 * behind

/-- The differences before and behind a point, mixed for the tangent with which it is left. -/
def outgoingMix (p : Tcb K) (before behind : K) : K :=
  (1 - p.tension) * (1 + p.continuity) * (1 + p.bias) / 2 * before
    + (1 - p.tension) * (1 - p.continuity) * (1 - p.bias) / 2 * behind

/-- What scales a tangent to the segment before its point; the parameters differ by `before` and
`behind`. -/
def incomingScale (before behind : K) : K := 2 * before / (before + behind)

/-- What scales a tangent to the segment behind its point. -/
def outgoingScale (before behind : K) : K := 2 * behind / (before + behind)

def incomingTangent (n : Nat) (x y : Nat → K) (p : Tcb K) (i : Nat) : K :=
  incomingMix p (backward y i) (forward n y i) * incomingScale (backward x i) (forward n x i)

def outgoingTangent (n : Nat) (x y : Nat → K) (p : Tcb K) (i : Nat) : K :=
  outgoingMix p (backward y i) (forward n y i) * outgoingScale (backward x i) (forward n x i)

/-- The piece from point `i` to point `i + 1` with the given incoming and outgoing tangents. -/
def tangentPiece (x y incoming outgoing : Nat → K) (i : Nat) (t : K) : K :=
  hermite ((t - x i) / (x (i + 1) - x i)) (y i) (y (i + 1)) (outgoing i) (incoming (i + 1))

/-- Pieces from tangents between the ends, which are held. -/
def kochanekBartels (n : Nat) (x y incoming outgoing : Nat → K) (t : K) : K :=
  (held? n x y t).getD (tangentPiece x y incoming outgoing (segment n x t) t)

end CurveKit.Scheme
