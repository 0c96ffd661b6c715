import CurveKit.Proofs.Exact.Join
import CurveKit.Proofs.Exact.Knot

/-!
# X-splines on evenly spaced parameters

Around a control point between the ends five points have a weight. Those of the outermost
two vanish there to second order. The weights of the neighbours go on from one segment to
the next as one function, since they come from the same shape. The weight of the point
itself comes from the shapes of its neighbours, but it is 1 there, with the same first two
derivatives for all shapes; only in the basic family the second derivative differs. So the
curve can be differentiated twice, in the basic family once.

Results:
* `Scheme.contDiff_outer`, `Scheme.contDiff_inner`: the weights of an end, also where one drops out.
* `Scheme.joins_neighbours`, `Scheme.joins_far`, `Scheme.joins_own`: how the weights go on.
* `Scheme.joins_mean`: how the weighted mean goes on.
* `Scheme.contDiffAt_blendPiece`, `Scheme.joins_blendPiece`: the formulas inside their segments and
  at the control points.
* `Spline.smooth_of_even`: the same for every finalized X-spline.
-/
namespace CurveKit

open scoped Exact

variable {K : Type} [NontriviallyNormedField K] [LinearOrder K]

namespace Scheme

/-- How often the curves of a family can be differentiated on evenly spaced parameters. -/
def Family.smoothness : Family → Nat
  | basic => 1
  | _ => 2

theorem Family.smoothness_le (f : Family) : f.smoothness ≤ 2 := by
  cases f <;> decide

/-! ## The weights of an end -/

section Weights

variable {f : Family} {s a b : K}

theorem endWeights_sharp (h : f.isSharp s = true) (t : K) :
    endWeights f t s = (hBlend (-t) (-s / 2), gBlend t (-s / 2)) := by
  rw [endWeights, if_pos h]

/-- The weights around a shape that is not negative, with the outer one cut off. -/
theorem endWeights_blunt (h : f.isSharp s = false) (t : K) :
    endWeights f t s = (if t < s then fBlend (s - t) (1 + s) (f.exponent s) else 0,
      fBlend (s + t) (1 + s) (f.exponent s)) := by
  have hneg : fBlend (t - s) (-1 - s) (f.exponent s) = fBlend (s - t) (1 + s) (f.exponent s) := by
    rw [← fBlend_neg]
    congr 1 <;> ring
  rw [endWeights, h, if_neg Bool.false_ne_true, leftWeights, add_comm s t]
  simp only [Scalar.one_eq, Scalar.zero_eq, hneg]

variable [IsStrictOrderedRing K] [OrderTopology K]

theorem contDiff_cut (b p : K) : ContDiff K 2 fun v => if 0 < v then fBlend v b p else 0 := by
  have hcut : (fun v => if 0 < v then fBlend v b p else 0) = fun v =>
      max v 0 ^ 3 * (b⁻¹ ^ 3 * (v * b⁻¹ + 2 * (1 - v * b⁻¹) * (1 + v * b⁻¹) +
        (8 - p) * (1 - v * b⁻¹) ^ 2)) := by
    funext v
    split
    · rename_i hv
      rw [max_eq_left hv.le, fBlend_eq, div_eq_mul_inv]
      ring
    · rename_i hv
      rw [max_eq_right (not_lt.1 hv), zero_pow (by decide), zero_mul]
  rw [hcut]
  exact (contDiff_max_pow 2).mul (by fun_prop)

/-- The outer weight of an end can be differentiated twice, also where it drops out. -/
theorem contDiff_outer (f : Family) (s : K) : ContDiff K 2 fun t => (endWeights f t s).1 := by
  cases h : f.isSharp s with
  | true =>
    simp only [endWeights_sharp h, hBlend_neg]
    fun_prop
  | false =>
    simp only [endWeights_blunt h, ← sub_pos (a := s)]
    exact (contDiff_cut (1 + s) (f.exponent s)).comp (contDiff_const.sub contDiff_id)

omit [IsStrictOrderedRing K] [OrderTopology K] in
theorem contDiff_inner (f : Family) (s : K) : ContDiff K 2 fun t => (endWeights f t s).2 := by
  cases h : f.isSharp s with
  | true =>
    simp only [endWeights_sharp h, gBlend_eq]
    fun_prop
  | false =>
    simp only [endWeights_blunt h, fBlend_eq]
    fun_prop

/-- The weight of a neighbour goes on from one side of a point to the other. -/
theorem joins_neighbours (h : f.Admits s) :
    Joins 2 (fun u => (endWeights f (-u) s).1) (fun u => (endWeights f u s).2) 0 := by
  cases hs : f.isSharp s with
  | true =>
    let q := -s / 2
    refine joins_of_pow (p := fun u => q * u * (1 + u) ^ 3 * (1 - u)) (j := fun _ => 0)
      (k := fun u => 8 - 11 * u + 4 * u ^ 2 + q * (-12 + 16 * u - 4 * u ^ 2)) ?_ ?_ ?_
      (fun u => ?_) fun u => ?_
    · exact ContDiff.contDiffAt (by fun_prop)
    · exact contDiffAt_const
    · exact ContDiff.contDiffAt (by fun_prop)
    · rw [endWeights_sharp hs, hBlend_neg]
      ring
    · rw [endWeights_sharp hs, gBlend_eq]
      ring
  | false =>
    have hs0 := h.nonneg hs
    have hcut := (contDiff_cut (1 + s) (f.exponent s)).comp
      (contDiff_const.add contDiff_id : ContDiff K 2 fun u => s + u)
    refine ⟨?_, hcut.contDiffAt.congr_of_eventuallyEq (.of_forall fun u => ?_)⟩
    · rw [neg_zero, endWeights_zero h]
      split <;> rfl
    · simp only [endWeights_blunt hs, Function.comp_apply]
      split
      · rw [sub_neg_eq_add]
        exact if_congr (by rw [neg_lt_iff_pos_add]) rfl rfl
      · rename_i hu
        rw [if_pos (add_pos_of_nonneg_of_pos hs0 (not_le.1 hu))]

/-- The weight of a point sets in smoothly at the next point but one. -/
theorem joins_far (h : f.Admits s) :
    Joins 2 (fun _ => 0) (fun u => (endWeights f (1 - u) s).1) 0 := by
  cases hs : f.isSharp s with
  | true =>
    let q := -s / 2
    refine joins_of_pow (p := fun _ => 0) (j := fun _ => 0)
      (k := fun u => -(q * (1 - u) * (2 - u))) contDiffAt_const contDiffAt_const ?_
      (fun u => by ring) fun u => ?_
    · exact ContDiff.contDiffAt (by fun_prop)
    · rw [endWeights_sharp hs, hBlend_neg]
      ring
  | false =>
    have hzero (u : K) (hu : u ≤ 0) : (endWeights f (1 - u) s).1 = 0 := by
      have hcut : ¬ 1 - u < s := by linarith [h.high]
      rw [endWeights_blunt hs]
      exact if_neg hcut
    have houter := (contDiff_outer f s).comp
      (contDiff_const.sub contDiff_id : ContDiff K 2 fun u : K => 1 - u)
    refine ⟨(hzero 0 (le_refl 0)).symm,
      houter.contDiffAt.congr_of_eventuallyEq (.of_forall fun u => ?_)⟩
    simp only [Function.comp_apply]
    split
    · rename_i hu
      exact (hzero u hu).symm
    · rfl

omit [OrderTopology K] in
theorem inner_eq (h : f.Admits s) : ∃ (curvature : K) (k : K → K), ContDiff K 2 k ∧
    (f ≠ .basic → curvature = -2) ∧
    ∀ u, (endWeights f (1 + u) s).2 = 1 + u ^ 2 * curvature + u ^ 3 * k u := by
  cases hs : f.isSharp s with
  | true =>
    let q := -s / 2
    refine ⟨-2, fun u => 4 + 9 * u + 4 * u ^ 2 - q * (1 + u) * (6 + 5 * u), by fun_prop,
      fun _ => rfl, fun u => ?_⟩
    rw [endWeights_sharp hs, gBlend_eq]
    ring
  | false =>
    have hne : 1 + s ≠ 0 := by linarith [h.nonneg hs]
    let p := f.exponent s
    refine ⟨-p / (1 + s) ^ 2, fun u => (10 - 3 * p) / (1 + s) ^ 3 +
      (15 - 3 * p) * u / (1 + s) ^ 4 + (6 - p) * u ^ 2 / (1 + s) ^ 5, by fun_prop,
      fun hf => ?_, fun u => ?_⟩
    · have hp : p = 2 * (1 + s) * (1 + s) := by
        cases f with
        | basic => exact absurd rfl hf
        | _ => simp [p, Family.exponent]
      rw [hp]
      field_simp
    · rw [endWeights_blunt hs]
      change fBlend (s + (1 + u)) (1 + s) p = _
      rw [fBlend_eq]
      field_simp
      ring

/-- The weight of a point goes on at the point, though from there on it comes from another shape. -/
theorem joins_own (ha : f.Admits a) (hb : f.Admits b) :
    Joins f.smoothness (fun u => (endWeights f (1 + u) a).2) (fun u => (endWeights f (1 - u) b).2)
      0 := by
  obtain ⟨ca, ka, hka, hca, hleft⟩ := inner_eq ha
  obtain ⟨cb, kb, hkb, hcb, hright⟩ := inner_eq hb
  have hright (u : K) : (endWeights f (1 - u) b).2 = 1 + u ^ 2 * cb - u ^ 3 * kb (-u) := by
    rw [sub_eq_add_neg, hright]
    ring
  have hflip : ContDiff K 2 fun u => kb (-u) := hkb.comp contDiff_id.neg
  by_cases hf : f = .basic
  · -- The curvature depends on the shape here, so the weights only agree up to the square.
    subst hf
    refine joins_of_pow (r := 1) (p := fun _ => 1) (j := fun u => ca + u * ka u)
      (k := fun u => cb - u * kb (-u)) contDiffAt_const ?_ ?_ (fun u => ?_) fun u => ?_
    · exact (contDiff_const.add (contDiff_id.mul (hka.of_le (by norm_num)))).contDiffAt
    · exact (contDiff_const.sub (contDiff_id.mul (hflip.of_le (by norm_num)))).contDiffAt
    · rw [hleft]
      ring
    · rw [hright]
      ring
  · have hsmooth : f.smoothness = 2 := by cases f <;> first | rfl | exact absurd rfl hf
    rw [hsmooth]
    refine joins_of_pow (p := fun u => 1 + u ^ 2 * (-2)) (j := ka) (k := fun u => -kb (-u)) ?_
      hka.contDiffAt hflip.neg.contDiffAt (fun u => ?_) fun u => ?_
    · exact ContDiff.contDiffAt (by fun_prop)
    · rw [hleft, hca hf]
    · rw [hright, hcb hf]
      ring

end Weights

/-! ## The means -/

section Means

/-- The values with their weights, added up. -/
def Weights.weighted (w : Weights K) (p0 p1 p2 p3 : K) : K :=
  w.w0 * p0 + w.w1 * p1 + w.w2 * p2 + w.w3 * p3

theorem Weights.mean_eq (w : Weights K) (p0 p1 p2 p3 : K) :
    w.mean p0 p1 p2 p3 = w.weighted p0 p1 p2 p3 / w.weighted 1 1 1 1 := by
  simp only [mean, weighted, total, mul_one]

theorem Weights.weighted_ones (w : Weights K) : w.weighted 1 1 1 1 = w.total := by
  simp only [weighted, total, mul_one]

variable [IsStrictOrderedRing K] [OrderTopology K] {f : Family} {a b c : K}

theorem contDiff_weighted (f : Family) (a b p0 p1 p2 p3 : K) :
    ContDiff K 2 fun u => (weights f u a b).weighted p0 p1 p2 p3 := by
  have hflip : ContDiff K 2 fun u : K => 1 - u := contDiff_const.sub contDiff_id
  simp only [weights_eq, Weights.weighted]
  exact ((((contDiff_outer f a).mul contDiff_const).add
    (((contDiff_inner f b).comp hflip).mul contDiff_const)).add
    ((contDiff_inner f a).mul contDiff_const)).add
    (((contDiff_outer f b).comp hflip).mul contDiff_const)

theorem joins_weighted (ha : f.Admits a) (hb : f.Admits b) (hc : f.Admits c)
    (p0 p1 p2 p3 p4 : K) :
    Joins f.smoothness (fun u => (weights f (1 + u) a b).weighted p0 p1 p2 p3)
      (fun u => (weights f u b c).weighted p1 p2 p3 p4) 0 := by
  -- Around the point five points have a weight, each of the outer two on one side only.
  have hle := f.smoothness_le
  have h0 := ((joins_far ha).flip.of_le hle).mul_const p0
  have h1 := ((joins_neighbours hb).flip.of_le hle).mul_const p1
  have h2 := (joins_own ha hc).mul_const p2
  have h3 := ((joins_neighbours hb).of_le hle).mul_const p3
  have h4 := ((joins_far hc).of_le hle).mul_const p4
  refine ((((h0.add h1).add h2).add h3).add h4).congr (fun u => ?_) fun u => ?_
  · have hback : 1 - (1 + u) = -u := by ring
    simp only [weights_eq, Weights.weighted, sub_neg_eq_add, hback]
    ring
  · simp only [weights_eq, Weights.weighted, neg_neg]
    ring

/-- Around a control point the four weighted points of a segment become those of the next one. -/
theorem joins_mean (ha : f.Admits a) (hb : f.Admits b) (hc : f.Admits c) (p0 p1 p2 p3 p4 : K) :
    Joins f.smoothness (fun u => (weights f (1 + u) a b).mean p0 p1 p2 p3)
      (fun u => (weights f u b c).mean p1 p2 p3 p4) 0 := by
  have hpos : 0 < (weights f (1 : K) a b).total := total_pos zero_le_one (le_refl 1) ha hb
  have hne : (weights f (1 + 0 : K) a b).weighted 1 1 1 1 ≠ 0 := by
    rw [add_zero, Weights.weighted_ones]
    exact hpos.ne'
  simp only [Weights.mean_eq]
  exact (joins_weighted ha hb hc p0 p1 p2 p3 p4).div (joins_weighted ha hb hc 1 1 1 1 1) hne

end Means

/-! ## The formulas -/

section Pieces

variable [IsStrictOrderedRing K] [OrderTopology K] {f : Family} {n i : Nat} {x y shape : Nat → K}

/-- A formula can be differentiated twice in its whole segment, also where a weight drops out. -/
theorem contDiffAt_blendPiece (hs : ∀ j < n, f.Admits (shape j)) (hi : i + 1 < n)
    (hx : x i < x (i + 1)) {t : K} (ht : t ∈ Set.Icc (x i) (x (i + 1))) :
    ContDiffAt K 2 (blendPiece f n x y shape i) t := by
  have haffine : ContDiff K 2 fun t => (t - x i) / (x (i + 1) - x i) :=
    (contDiff_id.sub contDiff_const).div_const _
  have htotal := (total_pos_of_mem hs hi hx ht).ne'
  rw [← Weights.weighted_ones, blendWeights_eq hi] at htotal
  have hpiece : blendPiece f n x y shape i = fun t =>
      (weights f ((t - x i) / (x (i + 1) - x i)) (actingShape n shape i)
        (actingShape n shape (i + 1))).weighted (y (i - 1)) (y i) (y (i + 1))
          (y (min (i + 2) (n - 1))) /
      (weights f ((t - x i) / (x (i + 1) - x i)) (actingShape n shape i)
        (actingShape n shape (i + 1))).weighted 1 1 1 1 := by
    funext t
    rw [blendPiece, blendWeights_eq hi, Weights.mean_eq]
  rw [hpiece]
  exact ((contDiff_weighted f _ _ _ _ _ _).comp haffine).contDiffAt.div
    ((contDiff_weighted f _ _ _ _ _ _).comp haffine).contDiffAt htotal

/-- Between segments of the same length the formula of an X-spline goes on as the next one. -/
theorem joins_blendPiece (hs : ∀ j < n, f.Admits (shape j)) (hi : i + 2 < n)
    (hx : x i < x (i + 1)) (heven : x (i + 2) - x (i + 1) = x (i + 1) - x i) :
    Joins f.smoothness (blendPiece f n x y shape i) (blendPiece f n x y shape (i + 1))
      (x (i + 1)) := by
  have hlength : 0 < x (i + 1) - x i := sub_pos.2 hx
  have hnext : min (i + 2) (n - 1) = i + 2 := by omega
  have hjoins := joins_mean (admits_actingShape hs (show i < n by omega))
    (admits_actingShape hs (show i + 1 < n by omega)) (admits_actingShape hs hi) (y (i - 1)) (y i)
    (y (i + 1)) (y (i + 2)) (y (min (i + 3) (n - 1)))
  refine (hjoins.comp_affine (x (i + 1)) hlength).congr (fun t => ?_) fun t => ?_
  · have hstep : 1 + (t - x (i + 1)) / (x (i + 1) - x i) = (t - x i) / (x (i + 1) - x i) := by
      field_simp
      ring
    rw [blendPiece, blendWeights_eq (by omega), hstep, hnext]
  · rw [blendPiece, blendWeights_eq hi, heven]
    rfl

end Pieces

end Scheme

/-! ## Splines -/

namespace Spline

open Scheme (Family)

variable [IsStrictOrderedRing K] [OrderTopology K] {s : Spline K} {c : Curve K} {f : Family}

/-- **X-splines on evenly spaced parameters.** Between its ends a finalized X-spline can be
differentiated twice where the distances between its parameters are the same, in the basic family
once. The formula of a segment can be differentiated twice in the whole segment with its ends, so
nothing jumps where a weight drops out, and at each control point between the ends the formulas
that meet there have the same value and the same derivatives. -/
theorem smooth_of_even (hg : s.Grown) (hf : s.kind.family? = some f) (hc : s.curve = some c)
    (heven : ∀ i, i + 2 < s.store.size → s.parameterAt (i + 2) - s.parameterAt (i + 1) =
      s.parameterAt (i + 1) - s.parameterAt i) (config : Config) :
    let n := s.store.size
    let x := s.parameterAt
    let r := f.smoothness
    (∀ t, s.get config (.ok t) = .ok (c.eval (config.isOn .extrapolate) t)) ∧
    (∀ t, x 0 < t → t < x (n - 1) → s.get config (.ok t) = .ok (c.piece (segment n x t) t)) ∧
    ∀ k < s.terms,
      ContDiffOn K r (fun t => (c.eval (config.isOn .extrapolate) t).getD k 0)
        (Set.Ioo (x 0) (x (n - 1))) ∧
      (∀ i, i + 1 < n → ∀ t ∈ Set.Icc (x i) (x (i + 1)),
        ContDiffAt K 2 (fun u => (c.piece i u).getD k 0) t) ∧
      ∀ i, i + 2 < n → ∀ m ≤ r,
        iteratedDeriv m (fun u => (c.piece i u).getD k 0) (x (i + 1)) =
          iteratedDeriv m (fun u => (c.piece (i + 1) u).getD k 0) (x (i + 1)) := by
  intro n x r
  have hb := hg.coherent.curve c hc
  obtain ⟨hx, hn⟩ := points_of_build hb
  obtain ⟨hmin, hguides⟩ := Kind.points_of_family hf
  rw [hmin] at hn
  have hadmits (j : Nat) (hj : j < n) : f.Admits (s.shapeAt j) := hg.admits_shapeAt hf j
  have hbetween {t : K} (hl : x 0 < t) (hr : t < x (n - 1)) :
      s.get config (.ok t) = .ok (c.piece (segment n x t) t) :=
    hg.get_inside hc config hguides hl hr
  refine ⟨hg.get_eq hc config, fun t => hbetween, fun k hk => ?_⟩
  have hpiece (i : Nat) (hi : i + 1 < n) : (fun u => (c.piece i u).getD k 0) =
      Scheme.blendPiece f n x (s.valueAt k) s.shapeAt i := by
    funext u
    rw [← piece_family hb hf hk hi]
    simp [piece_of_build hb, hk]
  have hsmooth (i : Nat) (hi : i + 1 < n) (t : K) (ht : t ∈ Set.Icc (x i) (x (i + 1))) :
      ContDiffAt K 2 (fun u => (c.piece i u).getD k 0) t := by
    rw [hpiece i hi]
    exact Scheme.contDiffAt_blendPiece hadmits hi (hx i (i + 1) (by omega) hi) ht
  have hjoins (i : Nat) (hi : i + 2 < n) : Joins r (fun u => (c.piece i u).getD k 0)
      (fun u => (c.piece (i + 1) u).getD k 0) (x (i + 1)) := by
    rw [hpiece i (by omega), hpiece (i + 1) hi]
    exact Scheme.joins_blendPiece hadmits hi (hx i (i + 1) (by omega) (by omega)) (heven i hi)
  have hle : (r : WithTop ℕ∞) ≤ 2 := by exact_mod_cast f.smoothness_le
  refine ⟨?_, hsmooth, fun i hi m hm => ?_⟩
  · refine (contDiffOn_pieced hx hn (fun i hi t ht => ?_) hjoins).congr fun t ht => ?_
    · exact (hsmooth i hi t (Set.Ioo_subset_Icc_self ht)).of_le hle
    · have h := hbetween ht.1 ht.2
      rw [hg.get_eq hc config] at h
      rw [Except.ok.inj h]
  · have hi' := hx i (i + 1) (by omega) (by omega)
    have hi'' := hx (i + 1) (i + 2) (by omega) hi
    exact (hjoins i hi).iteratedDeriv_eq
      ((hsmooth i (by omega) _ (Set.right_mem_Icc.2 hi'.le)).of_le hle)
      ((hsmooth (i + 1) hi _ (Set.left_mem_Icc.2 hi''.le)).of_le hle) hm

/-- An extended X-spline of rational points with a positive and a negative shape. -/
theorem smooth_of_even_extended :
    let s : Spline ℚ := ((((empty .extendedX 0).place 3 [1] (.shape (-1))).place 1 [4]
      (.shape (1 / 2))).place 4 [5] (.shape 1)).place 2 [2] (.shape (-1 / 3))
    ∃ c, s.build = .ok c ∧
      ContDiffOn ℚ 2 (fun t => (c.eval true t).getD 0 0) (Set.Ioo 1 4) ∧
      iteratedDeriv 2 (fun t => (c.piece 0 t).getD 0 0) 2 =
        iteratedDeriv 2 (fun t => (c.piece 1 t).getD 0 0) 2 := by
  intro s
  have hg : s.Grown := by
    refine .place_shape (.place_shape (.place_shape (.place_shape (.empty .extendedX 0)
      rfl rfl (by decide) ?_ ?_ ?_) rfl rfl (by decide) ?_ ?_ ?_) rfl rfl (by decide) ?_ ?_ ?_)
      rfl rfl (by decide) ?_ ?_ ?_
    all_goals decide +kernel
  obtain ⟨c, hb⟩ : ∃ c, s.build = .ok c := exists_ok_of_isOk (by decide +kernel)
  have hsize : s.store.size = 4 := by decide +kernel
  have hterms : 0 < s.terms := by decide +kernel
  have hfirst : s.parameterAt 0 = 1 := by decide +kernel
  have hsecond : s.parameterAt 1 = 2 := by decide +kernel
  have hlast : s.parameterAt (s.store.size - 1) = 4 := by decide +kernel
  have heven : ∀ i < 2, s.parameterAt (i + 2) - s.parameterAt (i + 1) =
      s.parameterAt (i + 1) - s.parameterAt i := by decide +kernel
  obtain ⟨-, -, hall⟩ := smooth_of_even (hg.rebuilt hb) rfl rfl
    (fun i hi => heven i (by simp only [hsize] at hi; omega)) .builtin
  obtain ⟨hcurve, -, hderiv⟩ := hall 0 hterms
  refine ⟨c, hb, ?_, ?_⟩
  · refine hcurve.mono fun t ht => ?_
    exact ⟨hfirst.trans_lt ht.1, ht.2.trans_eq hlast.symm⟩
  · exact hsecond ▸ hderiv 0 (hsize ▸ by decide) 2 (le_refl 2)

end Spline

end CurveKit
