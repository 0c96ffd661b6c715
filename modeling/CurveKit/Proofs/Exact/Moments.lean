import CurveKit.Proofs.Exact.Natural

/-!
# Second derivatives of natural splines

Whatever the values are, the system of a natural spline has one solution, and elimination
finds it. So second derivatives that were found in another way are those that the curve
keeps: none for values on a straight line, and sums and multiples of those of other values.
No scheme breaks down at ascending parameters.

Results:
* `Scheme.exists_moments`: the second derivatives are found, and there are no others.
* `Scheme.moments_combine`, `Scheme.moments_line`: those of combined values, and of a line.
* `Spline.exists_curve`: every live spline with enough points at ascending parameters has a curve.
-/
namespace CurveKit

open scoped Exact Matrix

variable {K : Type} [Field K] [LinearOrder K] {n i : Nat} {x y z w : Nat → K} {a b c : K}

namespace Scheme

/-- Second derivatives at `n` control points that meet the system of a natural spline. There are
none at its ends and beyond them. -/
structure Moments (n : Nat) (x y u : Nat → K) : Prop where
  solves : Solves (momentRows n x y) u
  first : u 0 = 0
  beyond : ∀ i, n - 1 ≤ i → u i = 0

/-- The unknowns of a system, with zeros around them, are second derivatives if they solve it. -/
theorem moments_padded {v : Fin (momentRows n x y).length → K}
    (h : bandMatrix (momentRows n x y) *ᵥ v = rightSide (momentRows n x y)) :
    Moments n x y (padded v) where
  solves := mulVec_eq_rightSide.1 h
  first := rfl
  beyond i hi := by
    cases i with
    | zero => rfl
    | succ i =>
      refine padded_of_le v ?_
      rw [length_momentRows]
      omega

theorem Moments.padded_eq {u : Nat → K} (h : Moments n x y u) :
    padded (fun j : Fin (momentRows n x y).length => u (j + 1)) = u := by
  funext i
  cases i with
  | zero => exact h.first.symm
  | succ i =>
    by_cases hi : i < (momentRows n x y).length
    · exact dif_pos hi
    · rw [padded_of_le _ (not_lt.1 hi)]
      rw [length_momentRows] at hi
      exact (h.beyond (i + 1) (by omega)).symm

/-- The second derivatives of combined values. A constant has none. -/
theorem moments_combine {u v : Nat → K} (hy : Moments n x y u) (hw : Moments n x w v)
    (h : ∀ i < n, z i = a * y i + b * w i + c) :
    Moments n x z fun i => a * u i + b * v i where
  solves j r hr := by
    obtain ⟨hj, rfl⟩ := List.getElem?_eq_some_iff.1 hr
    have hlt : j < n - 2 := by simpa [length_momentRows] using hj
    have hrow (y : Nat → K) : (momentRows n x y)[j]? = some (momentRow n x y j) := by
      simp [momentRows_eq, hlt]
    have hu := hy.solves j _ (hrow y)
    have hv := hw.solves j _ (hrow w)
    have hz : (momentRows n x z)[j] = momentRow n x z j := by simp [momentRows_eq]
    rw [hz]
    simp only [momentRow_eq] at hu hv ⊢
    rw [h j (by omega), h (j + 1) (by omega), h (j + 2) (by omega)]
    linear_combination a * hu + b * hv
  first := by rw [hy.first, hw.first, mul_zero, mul_zero, add_zero]
  beyond i hi := by rw [hy.beyond i hi, hw.beyond i hi, mul_zero, mul_zero, add_zero]

/-- Values on a straight line have no second derivatives. -/
theorem moments_line (hx : Ascending n x) (h : ∀ i < n, y i = a + b * x i) :
    Moments n x y fun _ => 0 where
  solves j r hr := by
    obtain ⟨hj, rfl⟩ := List.getElem?_eq_some_iff.1 hr
    have hlt : j < n - 2 := by simpa [length_momentRows] using hj
    have hrow : (momentRows n x y)[j] = momentRow n x y j := by simp [momentRows_eq]
    have h0 : x (j + 1) - x j ≠ 0 := sub_ne_zero.2 (hx j (j + 1) (by omega) (by omega)).ne'
    have h1 : x (j + 2) - x (j + 1) ≠ 0 :=
      sub_ne_zero.2 (hx (j + 1) (j + 2) (by omega) (by omega)).ne'
    rw [hrow]
    simp only [momentRow_eq]
    rw [h j (by omega), h (j + 1) (by omega), h (j + 2) (by omega)]
    field_simp
    ring
  first := rfl
  beyond _ _ := rfl

variable [IsStrictOrderedRing K]

/-- The second derivatives are found, and they are the only ones. -/
theorem exists_moments (hx : Ascending n x) (y : Nat → K) : ∃ m, moments n x y = .ok m ∧
    Moments n x y (nth m.toArray) ∧ ∀ u, Moments n x y u → u = nth m.toArray := by
  have hplace : InPlace (momentRows n x y) :=
    inPlace_of_dominant (fun r => dominant_of_mem hx) (matched_momentRows n x y)
  obtain ⟨v, hsolve, hunique⟩ := hplace.solve_eq
  refine ⟨_, moments_eq hsolve, ?_, fun u hu => ?_⟩
  · rw [nth_moments]
    exact moments_padded ((hunique v).2 rfl)
  · rw [nth_moments, ← (hunique fun j => u (j + 1)).1, hu.padded_eq]
    rw [mulVec_eq_rightSide, hu.padded_eq]
    exact hu.solves

theorem nth_of_moments (hx : Ascending n x) {m : List K} (h : moments n x y = .ok m) :
    Moments n x y (nth m.toArray) ∧ ∀ u, Moments n x y u → nth m.toArray = u := by
  obtain ⟨m', hm, hmoments, hunique⟩ := exists_moments hx y
  obtain rfl : m = m' := Except.ok.inj (h.symm.trans hm)
  exact ⟨hmoments, fun u hu => (hunique u hu).symm⟩

end Scheme

variable [IsStrictOrderedRing K]

theorem Rule.exists_prepare (kind : Kind) (hx : Ascending n x) (y : Nat → K) (bend : Nat → Bend K)
    (shape : K) : ∃ r, prepare kind n x y bend shape = .ok r := by
  by_cases h : kind = .natural
  · subst h
    obtain ⟨m, hm, -, -⟩ := Scheme.exists_moments hx y
    exact ⟨_, map_eq_ok.2 ⟨m, hm, rfl⟩⟩
  · exact exists_prepare_of_ne h n x y bend shape

/-- A live spline with enough control points at ascending parameters has a curve. -/
theorem Spline.exists_curve {s : Spline K} (alive : s.destroyed = false)
    (hn : s.kind.minPoints ≤ s.store.size) (hx : Ascending s.store.size s.parameterAt) :
    ∃ c, s.build = .ok c :=
  exists_build alive hn hx fun _ _ => Rule.exists_prepare s.kind hx _ _ _

end CurveKit
