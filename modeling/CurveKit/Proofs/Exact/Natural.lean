import CurveKit.Proofs.Exact.Elimination
import CurveKit.Proofs.Exact.Interpolation
import Mathlib.Algebra.Polynomial.Degree.Lemmas
import Mathlib.Algebra.Polynomial.Derivative
import Mathlib.Tactic.ComputeDegree
import Mathlib.Tactic.IntervalCases
import Mathlib.Tactic.LinearCombination

/-!
# Natural cubic splines

The second derivatives at the control points solve a symmetric and strictly diagonally
dominant system, so there is one solution and elimination finds it without exchanging
rows. With it the cubics of neighbouring segments have the same value and the same first
and second derivative at the control point between them.

Results:
* `Scheme.dominant_momentRow`, `Scheme.matched_momentRows`: the system of the second derivatives.
* `Scheme.moments_eq`: the solution is found.
* `Scheme.momentCubic`: the formula of a segment as a polynomial, with its derivatives.
* `Scheme.naturalCubics`: what the polynomials of the solution have in common.
* `Spline.natural_correct`: all of this for every natural spline.
-/
namespace CurveKit

open scoped Exact Matrix

open Polynomial (C X derivative)

open scoped Polynomial

variable {K : Type} [Field K] [LinearOrder K]

namespace Scheme

/-! ## The system -/

section System

variable {n j : Nat} {x y : Nat → K}

theorem length_momentRows (n : Nat) (x y : Nat → K) : (momentRows n x y).length = n - 2 := by
  simp [momentRows_eq]

theorem momentRow_eq (n : Nat) (x y : Nat → K) (j : Nat) : momentRow n x y j =
    { lower := if j = 0 then 0 else x (j + 1) - x j
      diagonal := 2 * (x (j + 1) - x j + (x (j + 2) - x (j + 1)))
      upper := if j + 3 = n then 0 else x (j + 2) - x (j + 1)
      right := 6 * ((y (j + 2) - y (j + 1)) / (x (j + 2) - x (j + 1)) -
        (y (j + 1) - y j) / (x (j + 1) - x j)) } := by
  simp [momentRow]

theorem matched_momentRows (n : Nat) (x y : Nat → K) : Matched (momentRows n x y) := by
  refine List.isChain_iff_getElem.2 fun j hj => ?_
  have hn : ¬ j + 3 = n := by
    rw [length_momentRows] at hj
    omega
  simp [momentRows_eq, momentRow_eq, hn]

variable [IsStrictOrderedRing K]

theorem dominant_momentRow (hx : Ascending n x) (hj : j + 2 < n) :
    (momentRow n x y j).Dominant := by
  have h0 : 0 < x (j + 1) - x j := sub_pos.2 (hx j (j + 1) (by omega) (by omega))
  have h1 : 0 < x (j + 2) - x (j + 1) := sub_pos.2 (hx (j + 1) (j + 2) (by omega) hj)
  have hlower : |if j = 0 then 0 else x (j + 1) - x j| ≤ x (j + 1) - x j := by
    split
    · rw [abs_zero]
      exact h0.le
    · exact (abs_of_pos h0).le
  have hupper : |if j + 3 = n then 0 else x (j + 2) - x (j + 1)| ≤ x (j + 2) - x (j + 1) := by
    split
    · rw [abs_zero]
      exact h1.le
    · exact (abs_of_pos h1).le
  rw [momentRow_eq, Row.Dominant]
  dsimp only
  rw [abs_of_pos (show 0 < 2 * (x (j + 1) - x j + (x (j + 2) - x (j + 1))) by linarith)]
  linarith

theorem dominant_of_mem (hx : Ascending n x) {r : Row K} (hr : r ∈ momentRows n x y) :
    r.Dominant := by
  rw [momentRows_eq] at hr
  obtain ⟨j, hj, rfl⟩ := List.mem_map.1 hr
  have hj := List.mem_range.1 hj
  exact dominant_momentRow hx (by omega)

section Rows

omit [IsStrictOrderedRing K]

variable {m : Nat → K}

/-- No unknown belongs to an entry that is missing, so it can be put in again. -/
theorem lower_momentRow (h0 : m 0 = 0) :
    (momentRow n x y j).lower * m j = (x (j + 1) - x j) * m j := by
  rw [momentRow_eq]
  dsimp only
  split
  · rename_i hj0
    rw [hj0, h0, mul_zero, mul_zero]
  · rfl

theorem upper_momentRow (hlast : m (n - 1) = 0) :
    (momentRow n x y j).upper * m (j + 2) = (x (j + 2) - x (j + 1)) * m (j + 2) := by
  rw [momentRow_eq]
  dsimp only
  split
  · rename_i hjn
    rw [show j + 2 = n - 1 by omega, hlast, mul_zero, mul_zero]
  · rfl

/-- The rows of the system, with the missing entries put in again. -/
theorem solves_momentRows (h : Solves (momentRows n x y) m) (h0 : m 0 = 0)
    (hlast : m (n - 1) = 0) (hj : j + 2 < n) :
    (x (j + 1) - x j) * m j + 2 * (x (j + 1) - x j + (x (j + 2) - x (j + 1))) * m (j + 1) +
      (x (j + 2) - x (j + 1)) * m (j + 2) =
    6 * ((y (j + 2) - y (j + 1)) / (x (j + 2) - x (j + 1)) -
      (y (j + 1) - y j) / (x (j + 1) - x j)) := by
  have hrow : (momentRows n x y)[j]? = some (momentRow n x y j) := by
    simp [momentRows_eq, show j < n - 2 by omega]
  have heq := h j _ hrow
  rwa [lower_momentRow h0, upper_momentRow hlast, momentRow_eq] at heq

theorem solves_of_rows (h0 : m 0 = 0) (hlast : m (n - 1) = 0)
    (h : ∀ j, j + 2 < n → (x (j + 1) - x j) * m j +
        2 * (x (j + 1) - x j + (x (j + 2) - x (j + 1))) * m (j + 1) +
        (x (j + 2) - x (j + 1)) * m (j + 2) =
      6 * ((y (j + 2) - y (j + 1)) / (x (j + 2) - x (j + 1)) -
        (y (j + 1) - y j) / (x (j + 1) - x j))) : Solves (momentRows n x y) m := by
  intro j r hr
  obtain ⟨hj, rfl⟩ := List.getElem?_eq_some_iff.1 hr
  have hlt : j < n - 2 := by simpa [length_momentRows] using hj
  have hrow : (momentRows n x y)[j] = momentRow n x y j := by simp [momentRows_eq]
  rw [hrow, lower_momentRow h0, upper_momentRow hlast, momentRow_eq]
  exact h j (by omega)

end Rows

omit [IsStrictOrderedRing K] in
theorem nth_moments {m : Nat} (v : Fin m → K) :
    nth (0 :: List.ofFn v ++ [0]).toArray = padded v := by
  funext j
  cases j with
  | zero => simp [nth, padded]
  | succ j =>
    by_cases hj : j < m
    · have hleft : (List.ofFn v ++ [0])[j]? = (List.ofFn v)[j]? :=
        List.getElem?_append_left (by simpa using hj)
      simp [nth, padded, hj, hleft]
    · have hright : (List.ofFn v ++ [0])[j]?.getD 0 = 0 := by
        rw [List.getElem?_append_right (by simpa using hj), List.getElem?_singleton]
        split <;> rfl
      simpa [nth, padded, hj] using hright

omit [IsStrictOrderedRing K] in
/-- Nothing breaks down once the system is solved. -/
theorem moments_eq {inner : List K} (h : solve (momentRows n x y) = some inner) :
    moments n x y = .ok (0 :: inner ++ [0]) := by
  have hfinite : (momentRows n x y).all Row.isFinite = true := List.all_eq_true.2 fun _ _ => rfl
  simp only [moments, hfinite, h]
  simp

end System

/-! ## The cubics -/

section Cubics

variable {n i : Nat} {x y m : Nat → K}

/-- The formula of segment `i` with the second derivatives `m`. -/
noncomputable def momentCubic (x y m : Nat → K) (i : Nat) : K[X] :=
  let h := x (i + 1) - x i
  let a := C h⁻¹ * (C (x (i + 1)) - X)
  let b := C h⁻¹ * (X - C (x i))
  a * C (y i) + b * C (y (i + 1)) + ((a ^ 3 - a) * C (m i) + (b ^ 3 - b) * C (m (i + 1))) *
    C (h * h / 6)

theorem eval_momentCubic (t : K) : (momentCubic x y m i).eval t = naturalPiece x y m i t := by
  simp only [momentCubic, naturalPiece, Scalar.cube, Scalar.ofNat_eq, Polynomial.eval_add,
    Polynomial.eval_mul, Polynomial.eval_sub, Polynomial.eval_pow, Polynomial.eval_C,
    Polynomial.eval_X]
  ring

omit [LinearOrder K] in
theorem natDegree_momentCubic (x y m : Nat → K) (i : Nat) :
    (momentCubic x y m i).natDegree ≤ 3 := by
  unfold momentCubic
  dsimp only
  compute_degree!

variable [IsStrictOrderedRing K]

theorem slope_momentCubic (h : x i < x (i + 1)) (t : K) :
    (derivative (momentCubic x y m i)).eval t =
      (y (i + 1) - y i) / (x (i + 1) - x i) +
        ((3 * (t - x i) ^ 2 - (x (i + 1) - x i) ^ 2) * m (i + 1) -
          (3 * (x (i + 1) - t) ^ 2 - (x (i + 1) - x i) ^ 2) * m i) / (6 * (x (i + 1) - x i)) := by
  have hne : x (i + 1) - x i ≠ 0 := sub_ne_zero.2 h.ne'
  simp only [momentCubic, Polynomial.derivative_add, Polynomial.derivative_sub,
    Polynomial.derivative_mul, Polynomial.derivative_pow, Polynomial.derivative_C,
    Polynomial.derivative_X, Polynomial.eval_add, Polynomial.eval_sub, Polynomial.eval_mul,
    Polynomial.eval_pow, Polynomial.eval_C, Polynomial.eval_X, Polynomial.eval_zero,
    Polynomial.eval_one, Nat.reduceSub]
  field_simp
  ring

theorem curvature_momentCubic (h : x i < x (i + 1)) (t : K) :
    (derivative (derivative (momentCubic x y m i))).eval t =
      ((x (i + 1) - t) * m i + (t - x i) * m (i + 1)) / (x (i + 1) - x i) := by
  have hne : x (i + 1) - x i ≠ 0 := sub_ne_zero.2 h.ne'
  simp only [momentCubic, Polynomial.derivative_add, Polynomial.derivative_sub,
    Polynomial.derivative_mul, Polynomial.derivative_pow, Polynomial.derivative_C,
    Polynomial.derivative_X, Polynomial.derivative_zero, Polynomial.derivative_one,
    Polynomial.eval_add, Polynomial.eval_sub, Polynomial.eval_mul, Polynomial.eval_pow,
    Polynomial.eval_C, Polynomial.eval_X, Polynomial.eval_zero, Polynomial.eval_one, pow_one,
    Nat.reduceSub]
  field_simp
  ring

theorem slope_start (h : x i < x (i + 1)) : (derivative (momentCubic x y m i)).eval (x i) =
    (y (i + 1) - y i) / (x (i + 1) - x i) -
      (x (i + 1) - x i) * (2 * m i + m (i + 1)) / 6 := by
  have hne : x (i + 1) - x i ≠ 0 := sub_ne_zero.2 h.ne'
  rw [slope_momentCubic h]
  field_simp
  ring

theorem slope_stop (h : x i < x (i + 1)) : (derivative (momentCubic x y m i)).eval (x (i + 1)) =
    (y (i + 1) - y i) / (x (i + 1) - x i) +
      (x (i + 1) - x i) * (m i + 2 * m (i + 1)) / 6 := by
  have hne : x (i + 1) - x i ≠ 0 := sub_ne_zero.2 h.ne'
  rw [slope_momentCubic h]
  field_simp
  ring

theorem curvature_start (h : x i < x (i + 1)) :
    (derivative (derivative (momentCubic x y m i))).eval (x i) = m i := by
  rw [curvature_momentCubic h, sub_self, zero_mul, add_zero,
    mul_div_cancel_left₀ _ (sub_ne_zero.2 h.ne')]

theorem curvature_stop (h : x i < x (i + 1)) :
    (derivative (derivative (momentCubic x y m i))).eval (x (i + 1)) = m (i + 1) := by
  rw [curvature_momentCubic h, sub_self, zero_mul, zero_add,
    mul_div_cancel_left₀ _ (sub_ne_zero.2 h.ne')]

omit [LinearOrder K] [IsStrictOrderedRing K] in
/-- The cubics of a natural spline: they run from each point to the next one, go on there with the
same value and the same first two derivatives, and have no curvature at the ends. -/
structure NaturalCubics (n : Nat) (x y : Nat → K) (P : Nat → K[X]) : Prop where
  degree : ∀ i, (P i).natDegree ≤ 3
  start : ∀ i, i + 1 < n → (P i).eval (x i) = y i
  stop : ∀ i, i + 1 < n → (P i).eval (x (i + 1)) = y (i + 1)
  inner : ∀ i, i + 2 < n → ∀ q ≤ 2, (derivative^[q] (P i)).eval (x (i + 1)) =
    (derivative^[q] (P (i + 1))).eval (x (i + 1))
  first : (derivative^[2] (P 0)).eval (x 0) = 0
  last : (derivative^[2] (P (n - 2))).eval (x (n - 1)) = 0

/-- The second derivatives that solve the system give the cubics of a natural spline. -/
theorem naturalCubics (hx : Ascending n x) (hn : 2 ≤ n) (h : Solves (momentRows n x y) m)
    (h0 : m 0 = 0) (hlast : m (n - 1) = 0) : NaturalCubics n x y (momentCubic x y m) := by
  have hlt (i : Nat) (hi : i + 1 < n) : x i < x (i + 1) := hx i (i + 1) (by omega) hi
  refine ⟨natDegree_momentCubic x y m, fun i hi => ?_, fun i hi => ?_, fun i hi q hq => ?_, ?_, ?_⟩
  · rw [eval_momentCubic, (links_natural m (hlt i hi)).start]
  · rw [eval_momentCubic, (links_natural m (hlt i hi)).stop]
  · have hleft := hlt i (by omega)
    have hright := hlt (i + 1) hi
    interval_cases q
    · change (momentCubic x y m i).eval _ = (momentCubic x y m (i + 1)).eval _
      rw [eval_momentCubic, eval_momentCubic, (links_natural m hleft).stop,
        (links_natural m hright).start]
    · -- The slopes agree just because the second derivatives meet the row of the point.
      change (derivative (momentCubic x y m i)).eval _ =
        (derivative (momentCubic x y m (i + 1))).eval _
      rw [slope_stop hleft, slope_start hright]
      linear_combination solves_momentRows h h0 hlast hi / 6
    · change (derivative (derivative (momentCubic x y m i))).eval _ =
        (derivative (derivative (momentCubic x y m (i + 1)))).eval _
      rw [curvature_stop hleft, curvature_start hright]
  · exact (curvature_start (hlt 0 hn)).trans h0
  · obtain ⟨l, rfl⟩ : ∃ l, n = l + 2 := ⟨n - 2, by omega⟩
    exact (curvature_stop (hlt l (by omega))).trans hlast

theorem naturalCubics_of_solution (hx : Ascending n x) (hn : 2 ≤ n)
    {v : Fin (momentRows n x y).length → K}
    (h : bandMatrix (momentRows n x y) *ᵥ v = rightSide (momentRows n x y)) :
    NaturalCubics n x y (momentCubic x y (padded v)) := by
  refine naturalCubics hx hn (mulVec_eq_rightSide.1 h) rfl ?_
  obtain ⟨l, rfl⟩ : ∃ l, n = l + 2 := ⟨n - 2, by omega⟩
  refine padded_of_le v ?_
  rw [length_momentRows]
  exact le_refl l

end Cubics

end Scheme

/-! ## Splines -/

namespace Spline

open Scheme (bandMatrix rightSide momentRows InPlace NaturalCubics)

variable {s : Spline K} {k : Nat}

theorem ruleOf_natural (hk : s.kind = .natural) {inner : List K}
    (h : Scheme.solve (momentRows s.store.size s.parameterAt (s.valueAt k)) = some inner) :
    Curve.ruleOf s.kind s.store s.globalShape (Curve.column s.store.contents k) =
      .ok (.natural (0 :: inner ++ [0]).toArray) := by
  unfold Curve.ruleOf
  rw [hk]
  exact map_eq_ok.2 ⟨_, Scheme.moments_eq h, rfl⟩

variable [IsStrictOrderedRing K]

/-- **Natural splines.** The system for the second derivatives of a component is symmetric and
strictly diagonally dominant, it has one solution, and elimination meets no zero pivot and
exchanges no rows. So a live natural spline of at least two points at ascending parameters can be
finalized, and it keeps that solution. The formulas of its segments are the cubics of a natural
spline, which it is made up of between its ends, and it goes through all of its points. -/
theorem natural_correct (hg : s.Grown) (hk : s.kind = .natural) (alive : s.destroyed = false)
    (hn : 2 ≤ s.store.size) (hx : Ascending s.store.size s.parameterAt) :
    let n := s.store.size
    let x := s.parameterAt
    let rows := fun k => momentRows n x (s.valueAt k)
    (∀ k, (bandMatrix (rows k)).IsSymm ∧
      (∀ i, ∑ j ∈ Finset.univ.erase i, |bandMatrix (rows k) i j| < |bandMatrix (rows k) i i|) ∧
      (∃! v, bandMatrix (rows k) *ᵥ v = rightSide (rows k)) ∧ InPlace (rows k)) ∧
    ∃ c, s.finalize = ⟨.ok (), { s with curve := some c }, s.finalizeEvents⟩ ∧
      (∀ k < s.terms, ∀ v, bandMatrix (rows k) *ᵥ v = rightSide (rows k) →
        c.ruleAt k = .natural (0 :: List.ofFn v ++ [0]).toArray) ∧
      (∃ P : Nat → Nat → K[X], (∀ k < s.terms, NaturalCubics n x (s.valueAt k) (P k)) ∧
        ∀ i t, c.piece i t = (List.range s.terms).map fun k => (P k i).eval t) ∧
      ∀ config,
        (∀ t, x 0 < t → t < x (n - 1) → get config { s with curve := some c } (.ok t) =
          .ok (c.piece (segment n x t) t)) ∧
        ∀ a ∈ s.store.entries, get config { s with curve := some c } (.ok a.parameter) =
          .ok a.content.value := by
  intro n x rows
  have hdominant (k : Nat) : ∀ r ∈ rows k, r.Dominant := fun r => Scheme.dominant_of_mem hx
  have hmatched (k : Nat) : Scheme.Matched (rows k) := Scheme.matched_momentRows n x (s.valueAt k)
  have hplace (k : Nat) : InPlace (rows k) := Scheme.inPlace_of_dominant (hdominant k) (hmatched k)
  choose v hsolve hunique using fun k => (hplace k).solve_eq
  have hruleOf (k : Nat) := ruleOf_natural hk (hsolve k)
  obtain ⟨c, hb⟩ := exists_build alive (by rw [hk]; exact hn) hx fun k _ => ⟨_, hruleOf k⟩
  have hrule (k : Nat) (hk' : k < s.terms) :
      c.ruleAt k = .natural (0 :: List.ofFn (v k) ++ [0]).toArray :=
    Except.ok.inj ((ruleAt_of_build hb hk').symm.trans (hruleOf k))
  have hsolution (k : Nat) : bandMatrix (rows k) *ᵥ v k = rightSide (rows k) :=
    (hunique k (v k)).2 rfl
  refine ⟨fun k => ⟨Scheme.isSymm_bandMatrix (hmatched k), Scheme.sum_lt_diagonal (hdominant k),
    ⟨v k, hsolution k, fun w => (hunique k w).1⟩, hplace k⟩, c, ?_, fun k hk' w hw => ?_,
    ⟨_, fun k _ => Scheme.naturalCubics_of_solution hx hn (hsolution k), fun i t => ?_⟩,
    fun config => ⟨?_, ?_⟩⟩
  · exact finalize_of_build hb
  · rw [hrule k hk', (hunique k w).1 hw]
  · rw [piece_of_build hb]
    refine List.map_congr_left fun k hk' => ?_
    rw [hrule k (List.mem_range.1 hk'), Scheme.eval_momentCubic, Rule.piece, Scheme.nth_moments]
  · have hguides : s.kind.guides = 0 := Kind.guides_of_ne (by rw [hk]; decide)
    exact fun t => (hg.rebuilt hb).get_inside rfl config hguides
  · intro a ha
    obtain ⟨i, hi⟩ := List.getElem?_of_mem ha
    refine (hg.rebuilt hb).get_point rfl config hi fun k hk' => ?_
    have hlinks (i : Nat) (hi : i + 1 < n) :
        Scheme.Links x (s.valueAt k) i ((c.ruleAt k).piece n x (s.valueAt k) i) := by
      rw [hrule k hk']
      exact Scheme.links_natural _ (hx i (i + 1) (by omega) hi)
    have hguides : (c.ruleAt k).guides = 0 := by
      rw [hrule k hk']
      rfl
    rw [← parameterAt_eq hi]
    exact Rule.eval_of_links hlinks hx (by rw [hguides]; exact hn) _
      (by rw [hguides]; exact Nat.zero_le i)
      (by rw [hguides]; exact (List.getElem?_eq_some_iff.1 hi).1)

/-- A natural spline of four rational points that came out of order. -/
theorem natural_correct_four :
    let s : Spline ℚ := ((((empty .natural 0).place 3 [1] .none).place 0 [4] .none).place 7 [5]
      .none).place 1 [2] .none
    InPlace (momentRows 4 s.parameterAt (s.valueAt 0)) ∧
    ∃ c, s.finalize = ⟨.ok (), { s with curve := some c }, s.finalizeEvents⟩ ∧
      (∃ P : Nat → ℚ[X], NaturalCubics 4 s.parameterAt (s.valueAt 0) P ∧
        ∀ t, c.piece 1 t = [(P 1).eval t]) ∧
      get .builtin { s with curve := some c } (.ok 3) = .ok [1] := by
  intro s
  have hg : s.Grown := by
    refine .place_plain (.place_plain (.place_plain (.place_plain (.empty .natural 0) rfl rfl
      (by decide) ?_) rfl rfl (by decide) ?_) rfl rfl (by decide) ?_) rfl rfl (by decide) ?_
    all_goals decide +kernel
  have hsize : s.store.size = 4 := by decide +kernel
  have hterms : s.terms = 1 := by decide +kernel
  have hascending : ∀ j < 4, ∀ i < j, s.parameterAt i < s.parameterAt j := by decide +kernel
  have hthird : s.store.entries[2]? = some ⟨3, ⟨[1], .none⟩⟩ :=
    entry_eq (by decide +kernel) (by decide +kernel)
  obtain ⟨hsystem, c, hfinalize, -, ⟨P, hP, hpiece⟩, hget⟩ :=
    natural_correct hg rfl rfl (by rw [hsize]; decide)
      fun i j hij hj => hascending j (hsize ▸ hj) i hij
  rw [hsize] at hsystem hP
  rw [hterms] at hpiece
  have hvalue := (hget .builtin).2 _ (List.mem_of_getElem? hthird)
  exact ⟨(hsystem 0).2.2.2, c, hfinalize, ⟨P 0, hP 0 (hterms ▸ Nat.one_pos), hpiece 1⟩, hvalue⟩

end Spline

end CurveKit
