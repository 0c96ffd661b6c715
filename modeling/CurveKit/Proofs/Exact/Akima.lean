import CurveKit.Proofs.Exact.Moments
import Mathlib.Algebra.Polynomial.Derivative
import Mathlib.Analysis.Convex.Basic
import Mathlib.Tactic.ComputeDegree

/-!
# Akima splines

Akima's slope at a control point is a mean of the secants on both sides of it. Each is weighted
by the change of secants on the other side, so that the one that goes on in the same way counts
for more. A mean lies between what it is taken of, and it is one of the two where the weight of
the other is zero. On a segment with a point on each side of it that are on one straight line
with its ends all three secants are the same, so both slopes are, and the cubic is that line.

Results:
* `Scheme.secants_secantAt`: the secants of the segments, and two more at each end.
* `Scheme.weightedSlope_mem`: a weighted mean lies between the two.
* `Scheme.akimaSlopes`: Akima's slope at every control point.
* `Scheme.slopedCubics`: the cubics of the segments, as polynomials.
* `Scheme.slopes_of_line`, `Scheme.polynomial_of_line`: straight segments.
* `Spline.akima_correct`: the same for every Akima spline.
-/
namespace CurveKit

open Polynomial
open scoped Exact

variable {K : Type} [Field K] [LinearOrder K] {n i : Nat} {x y g : Nat → K}

namespace Scheme

/-! ## Secants -/

/-- The secants of `n` points by the number of their segment, and two more at each end. Each of
these goes on from the two next to it as they do. -/
structure Secants (n : Nat) (x y : Nat → K) (m : ℤ → K) : Prop where
  inner : ∀ i : Nat, i + 1 < n → m i = (y (i + 1) - y i) / (x (i + 1) - x i)
  before : m (-1) = 2 * m 0 - m 1
  farBefore : m (-2) = 2 * m (-1) - m 0
  behind : m (n - 1) = 2 * m (n - 2) - m (n - 3)
  farBehind : m n = 2 * m (n - 1) - m (n - 2)

/-- The secants of the scheme by the number of their segment. -/
def secantAt (n : Nat) (x y : Nat → K) (j : ℤ) : K := paddedSecant n x y (j + 2).toNat

theorem secantAt_eq {j : ℤ} (l : Nat) (h : j + 2 = l) :
    secantAt n x y j = paddedSecant n x y l := by
  rw [secantAt, h, Int.toNat_natCast]

theorem secants_secantAt (hn : 3 ≤ n) : Secants n x y (secantAt n x y) := by
  obtain ⟨l, rfl⟩ : ∃ l, n = l + 3 := ⟨n - 3, by omega⟩
  have hinner (j : ℤ) (i : Nat) (hj : j = i) (hi : i + 1 < l + 3) :
      secantAt (l + 3) x y j = secant x y i := by
    rw [secantAt_eq (i + 2) (by omega), paddedSecant_inner (by omega) (by omega),
      Nat.add_sub_cancel]
  have hfirst : secantAt (l + 3) x y (-1) = 2 * secant x y 0 - secant x y 1 := by
    rw [secantAt_eq 1 rfl]
    rfl
  have hlast : secantAt (l + 3) x y ((l + 3 : Nat) - 1) =
      2 * secant x y (l + 1) - secant x y l := by
    rw [secantAt_eq (l + 4) (by omega)]
    simp [paddedSecant]
  have hinnerLast : secantAt (l + 3) x y ((l + 3 : Nat) - 2) = secant x y (l + 1) :=
    hinner _ (l + 1) (by omega) (by omega)
  constructor
  · intro i hi
    rw [hinner i i rfl hi, secant]
  · rw [hfirst, hinner 0 0 rfl (by omega), hinner 1 1 rfl (by omega)]
  · rw [hfirst, hinner 0 0 rfl (by omega), secantAt_eq 0 rfl]
    rfl
  · rw [hlast, hinnerLast, hinner ((l + 3 : Nat) - 3) l (by omega) (by omega)]
  · rw [hlast, hinnerLast, secantAt_eq (l + 5) (by omega)]
    simp [paddedSecant]

/-! ## Slopes -/

section Means

variable {before behind p q : K}

theorem weightedSlope_of_ne (h : p + q ≠ 0) :
    weightedSlope before behind p q = (p * before + q * behind) / (p + q) := by
  simp [weightedSlope, h]

theorem weightedSlope_of_eq (h : p + q = 0) :
    weightedSlope before behind p q = (before + behind) / 2 := by
  simp [weightedSlope, h]

/-- A weighted mean lies between what it is taken of. -/
theorem weightedSlope_mem [IsStrictOrderedRing K] (hp : 0 ≤ p) (hq : 0 ≤ q) :
    weightedSlope before behind p q ∈ Set.uIcc before behind := by
  have hconvex : Convex K (Set.uIcc before behind) := convex_uIcc before behind
  have hmean {u v : K} (hu : 0 ≤ u) (hv : 0 ≤ v) (h : 0 < u + v) :
      (u * before + v * behind) / (u + v) ∈ Set.uIcc before behind := by
    have hmem := convex_iff_div.1 hconvex Set.left_mem_uIcc Set.right_mem_uIcc hu hv h
    rwa [smul_eq_mul, smul_eq_mul, div_mul_eq_mul_div, div_mul_eq_mul_div, ← add_div] at hmem
  by_cases htotal : p + q = 0
  · have hhalf := hmean zero_le_one zero_le_one (add_pos one_pos one_pos)
    rwa [one_mul, one_mul, one_add_one_eq_two, ← weightedSlope_of_eq htotal] at hhalf
  · rw [weightedSlope_of_ne htotal]
    exact hmean hp hq ((add_nonneg hp hq).lt_of_ne' htotal)

end Means

/-- Akima's slopes at `n` points with the secants `m`: means that are weighted by the change of
secants on the other side, or plain ones where the secants do not change on either side. -/
structure AkimaSlopes (n : Nat) (m : ℤ → K) (g : Nat → K) : Prop where
  weighted : ∀ i < n, |m (i + 1) - m i| + |m (i - 1) - m (i - 2)| ≠ 0 →
    g i = (|m (i + 1) - m i| * m (i - 1) + |m (i - 1) - m (i - 2)| * m i) /
      (|m (i + 1) - m i| + |m (i - 1) - m (i - 2)|)
  plain : ∀ i < n, |m (i + 1) - m i| + |m (i - 1) - m (i - 2)| = 0 →
    g i = (m (i - 1) + m i) / 2
  between : ∀ i < n, g i ∈ Set.uIcc (m (i - 1)) (m i)
  flatBehind : ∀ i < n, m i = m (i + 1) → m (i - 1) ≠ m (i - 2) → g i = m i
  flatBefore : ∀ i < n, m (i - 1) = m (i - 2) → m i ≠ m (i + 1) → g i = m (i - 1)

theorem akimaSlope_eq (n : Nat) (x y : Nat → K) (i : Nat) :
    let m := secantAt n x y
    akimaSlope n x y i =
      weightedSlope (m (i - 1)) (m i) |m (i + 1) - m i| |m (i - 1) - m (i - 2)| := by
  intro m
  have hbehind : m i = paddedSecant n x y (i + 2) := secantAt_eq _ (by omega)
  have hfarBehind : m (i + 1) = paddedSecant n x y (i + 3) := secantAt_eq _ (by omega)
  have hbefore : m (i - 1) = paddedSecant n x y (i + 1) := secantAt_eq _ (by omega)
  have hfarBefore : m (i - 2) = paddedSecant n x y i := secantAt_eq _ (by omega)
  rw [hbehind, hfarBehind, hbefore, hfarBefore]
  rfl

theorem akimaSlopes [IsStrictOrderedRing K] (n : Nat) (x y : Nat → K) :
    AkimaSlopes n (secantAt n x y) (akimaSlope n x y) := by
  have heq := akimaSlope_eq n x y
  constructor
  · intro i _ h
    rw [heq, weightedSlope_of_ne h]
  · intro i _ h
    rw [heq, weightedSlope_of_eq h]
  · intro i _
    rw [heq]
    exact weightedSlope_mem (abs_nonneg _) (abs_nonneg _)
  · intro i _ hflat hne
    have hweight := abs_ne_zero.2 (sub_ne_zero.2 hne)
    rw [heq, ← hflat, sub_self, abs_zero, weightedSlope_of_ne (by rwa [zero_add]), zero_mul,
      zero_add, zero_add, mul_div_cancel_left₀ _ hweight]
  · intro i _ hflat hne
    have hweight := abs_ne_zero.2 (sub_ne_zero.2 hne.symm)
    rw [heq, ← hflat, sub_self, abs_zero, weightedSlope_of_ne (by rwa [add_zero]), zero_mul,
      add_zero, add_zero, mul_div_cancel_left₀ _ hweight]

theorem AkimaSlopes.eq_of_secants {m : ℤ → K} (h : AkimaSlopes n m g) (hi : i < n) {b : K}
    (hbefore : m (i - 1) = b) (hbehind : m i = b) : g i = b := by
  have hmem := h.between i hi
  rw [hbefore, hbehind, Set.uIcc_self] at hmem
  exact hmem

/-! ## Cubics -/

/-- A cubic as a polynomial in the parameter, for a segment that begins at `start`. -/
noncomputable def Cubic.polynomial (p : Cubic K) (start : K) : K[X] :=
  C p.a + (X - C start) * (C p.b + (X - C start) * (C p.c + (X - C start) * C p.d))

omit [LinearOrder K] in
theorem natDegree_polynomial (p : Cubic K) (start : K) : (p.polynomial start).natDegree ≤ 3 := by
  unfold Cubic.polynomial
  compute_degree!

theorem eval_polynomial (p : Cubic K) (start t : K) :
    (p.polynomial start).eval t = p.eval (t - start) := by
  simp [Cubic.polynomial, Cubic.eval]

omit [LinearOrder K] in
theorem slope_polynomial (p : Cubic K) (start t : K) :
    (derivative (p.polynomial start)).eval t =
      p.b + 2 * p.c * (t - start) + 3 * p.d * (t - start) ^ 2 := by
  simp only [Cubic.polynomial, derivative_add, derivative_sub, derivative_mul, derivative_C,
    derivative_X, eval_add, eval_sub, eval_mul, eval_C, eval_X, eval_zero, eval_one]
  ring

theorem slope_slopeCubic_stop (h : x i < x (i + 1)) (y g : Nat → K) :
    (slopeCubic x y g i).b + 2 * (slopeCubic x y g i).c * (x (i + 1) - x i) +
      3 * (slopeCubic x y g i).d * (x (i + 1) - x i) ^ 2 = g (i + 1) := by
  have hne : x (i + 1) - x i ≠ 0 := sub_ne_zero.2 h.ne'
  simp only [slopeCubic, Scalar.ofNat_eq]
  field_simp
  ring

/-- Polynomials through `n` points, one for each segment, with the slopes `g`. -/
structure SlopedCubics (n : Nat) (x y g : Nat → K) (P : Nat → K[X]) : Prop where
  degree : ∀ i, (P i).natDegree ≤ 3
  start : ∀ i, i + 1 < n → (P i).eval (x i) = y i
  stop : ∀ i, i + 1 < n → (P i).eval (x (i + 1)) = y (i + 1)
  slopeStart : ∀ i, i + 1 < n → (derivative (P i)).eval (x i) = g i
  slopeStop : ∀ i, i + 1 < n → (derivative (P i)).eval (x (i + 1)) = g (i + 1)

noncomputable def slopePolynomial (x y g : Nat → K) (i : Nat) : K[X] :=
  (slopeCubic x y g i).polynomial (x i)

/-- The cubics that are made from slopes are those polynomials. -/
theorem slopedCubics (hx : Ascending n x) (y g : Nat → K) :
    SlopedCubics n x y g (slopePolynomial x y g) := by
  have hlinks (i : Nat) (hi : i + 1 < n) : Links x y i (cubicPiece x (slopeCubic x y g) i) :=
    links_slopeCubic rfl (hx i (i + 1) (by omega) hi)
  constructor
  · intro i
    exact natDegree_polynomial _ _
  · intro i hi
    rw [slopePolynomial, eval_polynomial]
    exact (hlinks i hi).start
  · intro i hi
    rw [slopePolynomial, eval_polynomial]
    exact (hlinks i hi).stop
  · intro i hi
    rw [slopePolynomial, slope_polynomial, sub_self]
    simp [slopeCubic]
  · intro i hi
    rw [slopePolynomial, slope_polynomial]
    exact slope_slopeCubic_stop (hx i (i + 1) (by omega) hi) y g

/-- A cubic with the slope of the line through its ends is that line. -/
theorem polynomial_of_line {a b : K} (h : x i < x (i + 1)) (h0 : y i = a + b * x i)
    (h1 : y (i + 1) = a + b * x (i + 1)) (hstart : g i = b) (hstop : g (i + 1) = b) :
    slopePolynomial x y g i = C a + C b * X := by
  have hsecant : secant x y i = b := by
    rw [secant, div_eq_iff (sub_ne_zero.2 h.ne'), h0, h1]
    ring
  have hc : (slopeCubic x y g i).c = 0 := by
    simp only [slopeCubic, hsecant, hstart, hstop, Scalar.ofNat_eq]
    ring
  have hd : (slopeCubic x y g i).d = 0 := by
    simp only [slopeCubic, hsecant, hstart, hstop, Scalar.ofNat_eq]
    ring
  have ha : (slopeCubic x y g i).a = a + b * x i := h0
  have hb : (slopeCubic x y g i).b = b := hstart
  rw [slopePolynomial, Cubic.polynomial, ha, hb, hc, hd]
  simp only [map_zero, map_add, map_mul]
  ring

/-- If the ends of a segment and the points next to them are on one straight line, all secants there
have its slope, and so both slopes of the segment are the same. -/
theorem slopes_of_line {m : ℤ → K} (hm : Secants n x y m) (hg : AkimaSlopes n m g)
    (hx : Ascending n x) (h0 : 0 < i) (hi : i + 2 < n) {a b : K}
    (hline : ∀ j, i - 1 ≤ j → j ≤ i + 2 → y j = a + b * x j) : g i = b ∧ g (i + 1) = b := by
  have hsecant (j : Nat) (hlow : i - 1 ≤ j) (hhigh : j ≤ i + 1) : m j = b := by
    have hne : x (j + 1) - x j ≠ 0 := sub_ne_zero.2 (hx j (j + 1) (by omega) (by omega)).ne'
    rw [hm.inner j (by omega), hline j hlow (by omega), hline (j + 1) (by omega) (by omega),
      div_eq_iff hne]
    ring
  have hbefore : m (i - 1) = b := by
    rw [← Int.natCast_pred_of_pos h0]
    exact hsecant (i - 1) (by omega) (by omega)
  have hown : m i = b := hsecant i (by omega) (by omega)
  have hbehind : m (i + 1 : Nat) = b := hsecant (i + 1) (by omega) (by omega)
  have hown' : m ((i + 1 : Nat) - 1) = b := by
    rwa [Nat.cast_add_one, add_sub_cancel_right]
  exact ⟨hg.eq_of_secants (by omega) hbefore hown, hg.eq_of_secants (by omega) hown' hbehind⟩

end Scheme

/-! ## Splines -/

/-- In each segment with its ends an Akima component is the cubic with Akima's slopes. -/
theorem Rule.eval_cubics {r : Rule K} {bend : Nat → Bend K} {shape t : K} {extrapolate : Bool}
    (hr : prepare .akima n x y bend shape = .ok r) (hx : Ascending n x) (hn : 4 ≤ n)
    (hi : i + 1 < n) (hl : x i ≤ t) (hl' : t ≤ x (i + 1)) :
    r.eval extrapolate n x y t =
      (Scheme.slopePolynomial x y (Scheme.akimaSlope n x y) i).eval t := by
  have hguides : r.guides = 0 := guides_of_prepare hr
  have hjoined : r.Joined n x y :=
    joined_of_links (fun i hi => links_of_prepare hr rfl hx hn hi) (by omega)
  rw [hjoined.eval_segment hx (by omega) (by omega) (by omega) hl hl',
    Scheme.slopePolynomial, Scheme.eval_polynomial]
  cases hr
  rw [piece, Scheme.cubicPiece, nthCubic_tabulate _ (by omega)]

namespace Spline

open Scheme (Secants AkimaSlopes SlopedCubics)

variable {s : Spline K}

/-- **Akima splines.** A live Akima spline with enough points at ascending parameters can be
finalized. In each component its slopes are Akima's means of the secants on both sides, at the ends
of the secants that go on beyond them, and they lie between these. On each segment, with its ends,
the component is the cubic through the ends with the slopes there. So it is a straight line if the
ends and the points next to them are on one. -/
theorem akima_correct [IsStrictOrderedRing K] (hg : s.Grown) (hk : s.kind = .akima)
    (alive : s.destroyed = false) (hn : 4 ≤ s.store.size)
    (hx : Ascending s.store.size s.parameterAt) :
    let n := s.store.size
    let x := s.parameterAt
    ∃ c, s.build = .ok c ∧ ∃ (m : Nat → ℤ → K) (g : Nat → Nat → K) (P : Nat → Nat → K[X]),
      (∀ k, Secants n x (s.valueAt k) (m k) ∧ AkimaSlopes n (m k) (g k) ∧
        SlopedCubics n x (s.valueAt k) (g k) (P k)) ∧
      ∀ config i, i + 1 < n → ∀ t, x i ≤ t → t ≤ x (i + 1) →
        get config { s with curve := some c } (.ok t) =
          .ok ((List.range s.terms).map fun k => (P k i).eval t) ∧
        ∀ a b : Nat → K, 0 < i → i + 2 < n →
          (∀ k < s.terms, ∀ j, i - 1 ≤ j → j ≤ i + 2 → s.valueAt k j = a k + b k * x j) →
          get config { s with curve := some c } (.ok t) =
            .ok ((List.range s.terms).map fun k => a k + b k * t) := by
  intro n x
  have hmin : s.kind.minPoints ≤ s.store.size := by
    rw [hk]
    exact hn
  obtain ⟨c, hc⟩ := exists_curve alive hmin hx
  let g (k : Nat) : Nat → K := Scheme.akimaSlope n x (s.valueAt k)
  have hslopes (k : Nat) : AkimaSlopes n (Scheme.secantAt n x (s.valueAt k)) (g k) :=
    Scheme.akimaSlopes n x (s.valueAt k)
  have hsecants (k : Nat) : Secants n x (s.valueAt k) (Scheme.secantAt n x (s.valueAt k)) :=
    Scheme.secants_secantAt (by omega)
  refine ⟨c, hc, _, g, fun k => Scheme.slopePolynomial x (s.valueAt k) (g k),
    fun k => ⟨hsecants k, hslopes k, Scheme.slopedCubics hx _ _⟩, fun config i hi t hl hr => ?_⟩
  have hanswer : get config { s with curve := some c } (.ok t) =
      .ok ((List.range s.terms).map fun k =>
        (Scheme.slopePolynomial x (s.valueAt k) (g k) i).eval t) :=
    (hg.rebuilt hc).get_components rfl config fun k hkt =>
      Rule.eval_cubics (hk ▸ prepare_of_build hc hkt) hx hn hi hl hr
  refine ⟨hanswer, fun a b h0 hin hline => ?_⟩
  rw [hanswer]
  refine congrArg _ (List.map_congr_left fun k hkt => ?_)
  have hpoints := hline k (List.mem_range.1 hkt)
  obtain ⟨hstart, hstop⟩ := Scheme.slopes_of_line (hsecants k) (hslopes k) hx h0 hin hpoints
  rw [Scheme.polynomial_of_line (hx i (i + 1) (by omega) hi) (hpoints i (by omega) (by omega))
    (hpoints (i + 1) (by omega) (by omega)) hstart hstop]
  simp

/-- An Akima spline on five rational points that came out of order. All but the last one are on a
straight line, which the second segment is, and with the slope of which the last segment begins. -/
theorem akima_correct_outlier :
    let s : Spline ℚ := (((((empty .akima 0).place 2 [2] .none).place 0 [0] .none).place 5 [0]
      .none).place 4 [4] .none).place 1 [1] .none
    ∃ c, s.build = .ok c ∧
      get .builtin { s with curve := some c } (.ok (3 / 2)) = .ok [3 / 2] ∧
      ∃ P : ℚ[X], (derivative P).eval 4 = 1 ∧ ∀ t, 4 ≤ t → t ≤ 5 →
        get .builtin { s with curve := some c } (.ok t) = .ok [P.eval t] := by
  intro s
  have hg : s.Grown := by
    refine .place_plain (.place_plain (.place_plain (.place_plain (.place_plain (.empty .akima 0)
      rfl rfl (by decide) ?_) rfl rfl (by decide) ?_) rfl rfl (by decide) ?_) rfl rfl
      (by decide) ?_) rfl rfl (by decide) ?_
    all_goals decide +kernel
  have hsize : s.store.size = 5 := by decide +kernel
  have hterms : s.terms = 1 := by decide +kernel
  have hascending : ∀ j < 5, ∀ i < j, s.parameterAt i < s.parameterAt j := by decide +kernel
  have hparameter : s.parameterAt 1 = 1 ∧ s.parameterAt 2 = 2 ∧ s.parameterAt 3 = 4 ∧
      s.parameterAt 4 = 5 := by decide +kernel
  have hline : ∀ j < 4, s.valueAt 0 j = 0 + 1 * s.parameterAt j := by decide +kernel
  have hlast : s.valueAt 0 4 = 0 := by decide +kernel
  obtain ⟨c, hc, m, g, P, hP, hget⟩ := akima_correct hg rfl rfl (by rw [hsize]; decide)
    fun i j hij hj => hascending j (hsize ▸ hj) i hij
  rw [hsize] at hP hget
  rw [hterms] at hget
  obtain ⟨h1, h2, h3, h4⟩ := hparameter
  obtain ⟨hm, hslopes, hcubics⟩ := hP 0
  have hstraight : get .builtin { s with curve := some c } (.ok (3 / 2)) = _ :=
    (hget .builtin 1 (by decide) (3 / 2) (by rw [h1]; norm_num) (by rw [h2]; norm_num)).2
      (fun _ => 0) (fun _ => 1) (by decide) (by decide) fun k hk j _ hj => by
        rw [Nat.lt_one_iff.1 hk]
        exact hline j (by omega)
  have hsecants : m 0 1 = 1 ∧ m 0 2 = 1 ∧ m 0 3 = -4 := by
    have hfirst := hm.inner 1 (by decide)
    have hsecond := hm.inner 2 (by decide)
    have hthird := hm.inner 3 (by decide)
    simp only [Nat.reduceAdd, hline 1 (by decide), hline 2 (by decide), hline 3 (by decide), hlast,
      h1, h2, h3, h4] at hfirst hsecond hthird
    norm_num at hfirst hsecond hthird
    exact ⟨hfirst, hsecond, hthird⟩
  have hfar : m 0 4 = -9 := by
    have hbehind := hm.behind
    norm_num [hsecants] at hbehind
    exact hbehind
  have hslope : g 0 3 = m 0 2 := by
    refine hslopes.flatBefore 3 (by decide) ?_ ?_
    · norm_num [hsecants]
    · norm_num [hsecants, hfar]
  refine ⟨c, hc, hstraight.trans (by norm_num), P 0 3, ?_, fun t hl hr => ?_⟩
  · rw [← h3, hcubics.slopeStart 3 (by decide), hslope, hsecants.2.1]
  · exact (hget .builtin 3 (by decide) t (h3 ▸ hl) (h4.symm ▸ hr)).1

end Spline

end CurveKit
