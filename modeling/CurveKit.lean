import CurveKit.Formula
import CurveKit.Guard
import CurveKit.Proofs.Datum.Arrays
import CurveKit.Proofs.Exact.Affine
import CurveKit.Proofs.Exact.Akima
import CurveKit.Proofs.Exact.Beyond
import CurveKit.Proofs.Exact.Checked
import CurveKit.Proofs.Exact.Chord
import CurveKit.Proofs.Exact.Coefficients
import CurveKit.Proofs.Exact.Mirrored
import CurveKit.Proofs.Exact.Moments
import CurveKit.Proofs.Exact.Ordinates
import CurveKit.Proofs.Exact.Reproduction
import CurveKit.Proofs.Exact.Sampled
import CurveKit.Proofs.Exact.Slopes
import CurveKit.Proofs.Exact.Smooth
import CurveKit.Proofs.Figure.Comparison
import CurveKit.Proofs.Pool.Arranged
import CurveKit.Proofs.Pool.Clamped
import CurveKit.Proofs.Pool.Copies
import CurveKit.Proofs.Pool.Destroyed
import CurveKit.Proofs.Pool.Failures
import CurveKit.Proofs.Pool.Finalized
import CurveKit.Proofs.Pool.Handles
import CurveKit.Proofs.Pool.Local
import CurveKit.Proofs.Pool.Owners
import CurveKit.Proofs.Pool.Phases
import CurveKit.Proofs.Pool.Sharing
import CurveKit.Proofs.Scalar.Rules
import CurveKit.Proofs.Session.Calls
import CurveKit.Proofs.Spline.Acceptance
import CurveKit.Proofs.Spline.Answers
import CurveKit.Proofs.Spline.Components
import CurveKit.Proofs.Spline.Parts
import CurveKit.Proofs.Spline.Search
import CurveKit.Proofs.Spline.Shapes
import CurveKit.Proofs.Spline.Triples
import CurveKit.Recipe
import CurveKit.Session
import CurveKit.Spline.Parts
import CurveKit.Stash

/-!
# Splines over scalar and array-valued data

A spline keeps points and extension entries in one store ordered by parameter,
fits them with one of ten kinds of curve when finalized, and answers single and
batched evaluations from the fitted curve.

* `CurveKit.Datum`, `CurveKit.Decimal`, `CurveKit.Text`, `CurveKit.Tensor`: the
  values handed to a spline, and how they are read and printed.
* `CurveKit.Store`, `CurveKit.Extension`, `CurveKit.Kind`, `CurveKit.Config`: the
  stored entries, the ten kinds and the shared settings.
* `CurveKit.Scheme`: the arithmetic of the kinds over any `Scalar`, run over
  doubles and reasoned about over an ordered field.
* `CurveKit.Spline`, `CurveKit.Pool`, `CurveKit.Session`: one spline, handles and
  owners over several, and the requests that drive them. `CurveKit.Spline.Parts`
  is a spline with its lists, flag, snapshot and caches kept apart.
* `CurveKit.Label`, `CurveKit.Formula`, `CurveKit.Figure`, `CurveKit.Selection`,
  `CurveKit.Recipe`, `CurveKit.Stash`, `CurveKit.Guard`: the tools around a spline.

`CurveKit.Proofs` has the theory: `Store` and `Spline` for one spline, `Pool` and
`Session` for every run of calls, `Scalar` for what holds in doubles, `Exact` for
what the formulas give over an ordered field, `Figure` for comparison figures.
-/
