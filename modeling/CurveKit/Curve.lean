import CurveKit.Scheme.Blend
import CurveKit.Scheme.Hermite
import CurveKit.Scheme.Natural
import CurveKit.Scheme.Slope
import CurveKit.Store

/-!
# Curves

A curve is what a spline turns its control points into before it can be
evaluated: the parameters, and for every component its values with a rule that
holds whatever the scheme computes in advance. Components know nothing of each
other.
-/
namespace CurveKit

variable {K : Type} [Scalar K]

/-- The family of an X-spline. -/
def Kind.family? : Kind → Option Scheme.Family
  | basicX => some .basic
  | extendedX => some .extended
  | generalX => some .general
  | _ => none

theorem Kind.tag_of_family {kind : Kind} {f : Scheme.Family} (h : kind.family? = some f) :
    kind.tag ≠ .none ∧ kind.tag ≠ .tcb := by
  cases kind <;> simp [family?, tag] at h ⊢

theorem Kind.tag_of_no_family {kind : Kind} (h : kind.family? = none) :
    kind.tag = .none ∨ kind.tag = .tcb := by
  cases kind <;> simp [family?, tag] at h ⊢

/-- What is kept at the parameter of a control point. -/
structure Knot (K : Type) where
  value : List K
  bend : Bend K
  deriving DecidableEq, Repr

/-- How a component is evaluated, with what is computed in advance. -/
inductive Rule (K : Type) where
  | lines
  | parabolas
  /-- The second derivatives at the control points. -/
  | natural (moments : Array K)
  | chords
  /-- The cubics of all segments, of which the first and the last are not used. -/
  | guided (pieces : Array (Scheme.Cubic K))
  /-- The cubics of all segments. -/
  | cubics (pieces : Array (Scheme.Cubic K))
  /-- The tangents at the control points. -/
  | tangents (incoming outgoing : Array K)
  /-- The shapes of the control points. -/
  | blends (family : Scheme.Family) (shapes : Array K)

/-- Entry `i` of the cubics of a component. -/
def nthCubic (pieces : Array (Scheme.Cubic K)) (i : Nat) : Scheme.Cubic K :=
  pieces.getD i ⟨0, 0, 0, 0⟩

/-- The entries of a sequence below `n`. -/
def tabulate {α : Type} (n : Nat) (f : Nat → α) : Array α := (Array.range n).map f

theorem nth_tabulate {n i : Nat} (f : Nat → K) (hi : i < n) : nth (tabulate n f) i = f i := by
  simp [nth, tabulate, hi]

theorem nthCubic_tabulate {n i : Nat} (f : Nat → Scheme.Cubic K) (hi : i < n) :
    nthCubic (tabulate n f) i = f i := by
  simp [nthCubic, tabulate, hi]

namespace Rule

/-- The rule of a kind for `n` points with the parameters `x`, the values `y` and the extension
data `bend`. -/
def prepare (kind : Kind) (n : Nat) (x y : Nat → K) (bend : Nat → Bend K) (globalShape : K) :
    Except Breakdown (Rule K) :=
  match kind with
  | .linear => .ok lines
  | .quadratic => .ok parabolas
  | .natural => (Scheme.moments n x y).map fun m => natural m.toArray
  | .catmullRom => .ok chords
  | .sor => .ok (guided (tabulate (n - 1) (Scheme.slopeCubic x y (Scheme.chordSlope n x y))))
  | .akima => .ok (cubics (tabulate (n - 1) (Scheme.slopeCubic x y (Scheme.akimaSlope n x y))))
  | .tcb => .ok (tangents
      (tabulate n fun i => Scheme.incomingTangent n x y ((bend i).triple .incoming) i)
      (tabulate n fun i => Scheme.outgoingTangent n x y ((bend i).triple .outgoing) i))
  | .basicX => .ok (blends .basic (tabulate n fun _ => globalShape))
  | .extendedX => .ok (blends .extended (tabulate n fun i => (bend i).freedom))
  | .generalX => .ok (blends .general (tabulate n fun i => (bend i).freedom))

/-- The value at a parameter. Lines and parabolas continue past the ends if `extrapolate` says
so; all other schemes hold their ends. -/
def eval (r : Rule K) (extrapolate : Bool) (n : Nat) (x y : Nat → K) (t : K) : K :=
  match r with
  | lines =>
    if extrapolate then Scheme.linear n x y t
    else (Scheme.held? n x y t).getD (Scheme.linear n x y t)
  | parabolas =>
    if extrapolate then Scheme.quadratic n x y t
    else (Scheme.held? n x y t).getD (Scheme.quadratic n x y t)
  | natural m => Scheme.natural n x y (nth m) t
  | chords => Scheme.catmullRom n x y t
  | guided p => Scheme.guided n x y (nthCubic p) t
  | cubics p => Scheme.cubics n x y (nthCubic p) t
  | tangents incoming outgoing => Scheme.kochanekBartels n x y (nth incoming) (nth outgoing) t
  | blends family shapes => Scheme.blended family n x y (nth shapes) t

/-- The cubics a rule keeps, if it keeps cubics. -/
def pieces? : Rule K → Option (Array (Scheme.Cubic K))
  | guided p => some p
  | cubics p => some p
  | _ => none

end Rule

/-- One component: its values at the control points, and its rule. -/
structure Component (K : Type) where
  values : Array K
  rule : Rule K

/-- A curve that is ready to be evaluated. -/
structure Curve (K : Type) where
  parameters : Array K
  components : List (Component K)

namespace Curve

def column (knots : List (Knot K)) (k : Nat) : Array K :=
  (knots.map fun p => p.value.getD k 0).toArray

def prepareComponent (kind : Kind) (parameters : Array K) (knots : List (Knot K)) (globalShape : K)
    (k : Nat) : Except Breakdown (Component K) :=
  let values := column knots k
  let bends := (knots.map (·.bend)).toArray
  (Rule.prepare kind parameters.size (nth parameters) (nth values) (fun i => bends.getD i .none)
    globalShape).map fun rule => { values, rule }

/-- The curve of a kind through the entries of a store, whose values have `terms` components. -/
def prepare (kind : Kind) (terms : Nat) (store : Store K (Knot K)) (globalShape : K) :
    Except Breakdown (Curve K) := do
  let parameters := store.parameters.toArray
  let components ← (List.range terms).mapM
    (prepareComponent kind parameters store.contents globalShape)
  pure { parameters, components }

/-- The value at a parameter, component by component. -/
def eval (c : Curve K) (extrapolate : Bool) (t : K) : List K :=
  c.components.map fun p =>
    p.rule.eval extrapolate c.parameters.size (nth c.parameters) (nth p.values) t

end Curve

end CurveKit
