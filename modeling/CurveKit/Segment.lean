import CurveKit.Scalar

/-!
# Segments

Parameters are kept in ascending order. `upperBound` bisects them for the place
behind all entries that are at most a given one, and `segment` turns that place
into the segment between two neighbours, the outer segments taking all that lies
beyond the ends. `held?` gives the value of an end for what lies at or beyond it.

A linear piece joins two neighbours; a quadratic piece is the parabola through
three of them. Both continue past the ends unless the ends are held.

Results:
* `le_upperBound`, `upperBound_le`: the place lies in the bisected range.
* `upperBound_congr`: only the entries of that range are looked at.
* `segment_le`: a segment has a point behind it.
-/
namespace CurveKit

variable {K : Type} [Scalar K]

/-- The first place from `lo` up to `hi` whose entry is greater than `t`, by bisection. -/
def upperBound (a : Nat → K) (t : K) (lo hi : Nat) : Nat :=
  if lo < hi then
    let mid := (lo + hi) / 2
    if t < a mid then upperBound a t lo mid else upperBound a t (mid + 1) hi
  else lo
termination_by hi - lo

theorem le_upperBound (a : Nat → K) (t : K) (lo hi : Nat) : lo ≤ upperBound a t lo hi := by
  fun_induction upperBound a t lo hi with
  | case1 lo hi _ _ _ ih => exact ih
  | case2 lo hi _ _ _ ih => omega
  | case3 => exact Nat.le_refl _

theorem upperBound_le (a : Nat → K) (t : K) {lo hi : Nat} (h : lo ≤ hi) :
    upperBound a t lo hi ≤ hi := by
  fun_induction upperBound a t lo hi with
  | case1 lo hi _ mid _ ih => have := ih (by omega); omega
  | case2 lo hi _ mid _ ih => exact ih (by omega)
  | case3 => exact h

/-- Entries outside the range do not matter. -/
theorem upperBound_congr {a b : Nat → K} (t : K) {lo hi : Nat}
    (h : ∀ i, lo ≤ i → i < hi → a i = b i) : upperBound a t lo hi = upperBound b t lo hi := by
  fun_induction upperBound b t lo hi with
  | case1 lo hi hlt mid ht ih =>
    have hm : a mid = b mid := h mid (by omega) (by omega)
    rw [upperBound, if_pos hlt, ← ih fun i h1 h2 => h i h1 (by omega)]
    exact if_pos (hm ▸ ht)
  | case2 lo hi hlt mid ht ih =>
    have hm : a mid = b mid := h mid (by omega) (by omega)
    rw [upperBound, if_pos hlt, ← ih fun i h1 h2 => h i (by omega) h2]
    exact if_neg (hm ▸ ht)
  | case3 lo hi hlt => rw [upperBound, if_neg hlt]

/-- The segment from entry `i` to entry `i + 1` of `n` parameters that holds `t`. -/
def segment (n : Nat) (x : Nat → K) (t : K) : Nat := min (upperBound x t 0 n - 1) (n - 2)

theorem segment_le (n : Nat) (x : Nat → K) (t : K) : segment n x t ≤ n - 2 :=
  Nat.min_le_right _ _

namespace Scheme

/-- The value of the first or last of `n` points for a parameter at or beyond it. -/
def held? (n : Nat) (x y : Nat → K) (t : K) : Option K :=
  if t ≤ x 0 then some (y 0) else if x (n - 1) ≤ t then some (y (n - 1)) else none

/-- The straight line from point `i` to point `i + 1`. -/
def linePiece (x y : Nat → K) (i : Nat) (t : K) : K :=
  let u := (t - x i) / (x (i + 1) - x i)
  y i + u * (y (i + 1) - y i)

/-- Straight lines between neighbours. -/
def linear (n : Nat) (x y : Nat → K) (t : K) : K := linePiece x y (segment n x t) t

/-- The parabola through points `i`, `i + 1` and `i + 2`, in Lagrange's form. -/
def parabolaPiece (x y : Nat → K) (i : Nat) (t : K) : K :=
  let l0 := (t - x (i + 1)) * (t - x (i + 2)) / ((x i - x (i + 1)) * (x i - x (i + 2)))
  let l1 := (t - x i) * (t - x (i + 2)) / ((x (i + 1) - x i) * (x (i + 1) - x (i + 2)))
  let l2 := (t - x i) * (t - x (i + 1)) / ((x (i + 2) - x i) * (x (i + 2) - x (i + 1)))
  l0 * y i + l1 * y (i + 1) + l2 * y (i + 2)

/-- On each segment the parabola through its ends and the point before it; the first segment
uses the point behind it. -/
def quadratic (n : Nat) (x y : Nat → K) (t : K) : K := parabolaPiece x y (segment n x t - 1) t

end Scheme

end CurveKit
