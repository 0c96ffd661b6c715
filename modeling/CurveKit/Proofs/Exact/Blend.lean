import CurveKit.Proofs.Exact.Segment
import CurveKit.Scheme.Blend
import Mathlib.Order.Interval.Set.Defs
import Mathlib.Tactic.Linarith
import Mathlib.Tactic.Positivity
import Mathlib.Tactic.Ring

/-!
# X-spline weights in exact arithmetic

Each end of a segment has a weight for the point before it and one for the point behind
it, and both ends are treated alike. For a shape that is not negative both weights are at
least 0. For a negative shape the outer one is negative, but not as much as the inner one
is positive. So the four weights always have a positive sum.

Results:
* `fBlend_eq`, `hBlend_neg`, `gBlend_eq`: the blends, factored.
* `weights_eq`: the weights of a segment are those of its two ends.
* `endWeights_nonneg`, `endWeights_sum_pos`: the signs of the weights of one end.
* `total_pos`, `weights_nonneg`: the signs of the four weights and of their sum.
* `mean_mem_Icc`: a weighted mean stays where the values with weight are.
-/
namespace CurveKit

open scoped Exact

namespace Scheme

section Blends

variable {K : Type} [Field K] [LinearOrder K]

theorem fBlend_eq (a b p : K) : fBlend a b p =
    (a / b) ^ 3 * (a / b + 2 * (1 - a / b) * (1 + a / b) + (8 - p) * (1 - a / b) ^ 2) := by
  unfold fBlend
  simp only [Scalar.ofNat_eq]
  ring

/-- Only the quotient matters. -/
theorem fBlend_neg (a b p : K) : fBlend (-a) (-b) p = fBlend a b p := by
  rw [fBlend_eq, fBlend_eq, neg_div_neg_eq]

theorem hBlend_neg (t q : K) : hBlend (-t) q = -(q * t * (1 - t) ^ 3 * (1 + t)) := by
  unfold hBlend
  simp only [Scalar.ofNat_eq]
  ring

theorem gBlend_eq (t q : K) :
    gBlend t q = t ^ 3 * (8 - 11 * t + 4 * t ^ 2) + q * t * (1 - t) ^ 3 * (1 + 5 * t) := by
  unfold gBlend
  simp only [Scalar.ofNat_eq]
  ring

theorem hBlend_add_gBlend (t q : K) :
    hBlend (-t) q + gBlend t q =
      t ^ 3 * (8 - 11 * t + 4 * t ^ 2) + 4 * q * t ^ 2 * (1 - t) ^ 3 := by
  rw [hBlend_neg, gBlend_eq]
  ring

end Blends

/-! ## The two ends of a segment -/

section Ends

variable {K : Type} [Field K] [LinearOrder K]

/-- The shapes that a family admits: up to 1, and only for the extended one below 0. -/
structure Family.Admits (f : Family) (s : K) : Prop where
  low : (if f = .extended then -1 else 0) ≤ s
  high : s ≤ 1

/-- The weights of the outer and the inner point around an end with a shape, at a distance from
that end. -/
def endWeights (f : Family) (t s : K) : K × K :=
  if f.isSharp s then (hBlend (-t) (-s / 2), gBlend t (-s / 2)) else leftWeights f t s

theorem isSharp_of_nonneg (f : Family) {s : K} (h : 0 ≤ s) : f.isSharp s = false := by
  cases f with
  | extended =>
    simp only [Family.isSharp, Scalar.zero_eq, decide_eq_false_iff_not]
    exact not_lt.2 h
  | _ => rfl

theorem neg_of_isSharp {f : Family} {s : K} (h : f.isSharp s = true) : s < 0 := by
  cases f with
  | extended => simpa only [Family.isSharp, Scalar.zero_eq, decide_eq_true_eq] using h
  | _ => cases h

theorem Family.Admits.nonneg {f : Family} {s : K} (h : f.Admits s) (hs : f.isSharp s = false) :
    0 ≤ s := by
  cases f with
  | extended =>
    simp only [Family.isSharp, Scalar.zero_eq, decide_eq_false_iff_not] at hs
    exact not_lt.1 hs
  | basic => simpa using h.low
  | general => simpa using h.low

/-- The two weights of an end together, if its shape is negative. -/
theorem endWeights_sum_of_isSharp {f : Family} {t s : K} (h : f.isSharp s = true) :
    (endWeights f t s).1 + (endWeights f t s).2 =
      t ^ 3 * (8 - 11 * t + 4 * t ^ 2) + 4 * (-s / 2) * t ^ 2 * (1 - t) ^ 3 := by
  rw [endWeights, if_pos h]
  simp only [Scalar.ofNat_eq]
  exact hBlend_add_gBlend t (-s / 2)

/-- The outer weight is 0 at the end that is farther away. -/
theorem endWeights_outer_one {f : Family} {s : K} (hs0 : 0 ≤ s) (hs1 : s ≤ 1) :
    (endWeights f 1 s).1 = 0 := by
  rw [endWeights, isSharp_of_nonneg f hs0, if_neg Bool.false_ne_true, leftWeights]
  simp only [Scalar.zero_eq]
  exact if_neg (not_lt.2 hs1)

structure Weights.Nonneg (w : Weights K) : Prop where
  w0 : 0 ≤ w.w0
  w1 : 0 ≤ w.w1
  w2 : 0 ≤ w.w2
  w3 : 0 ≤ w.w3

theorem rightWeights_eq [IsStrictOrderedRing K] (f : Family) (t s : K) :
    rightWeights f t s = (leftWeights f (1 - t) s).swap := by
  have hinner : fBlend (t - 1 - s) (-1 - s) (f.exponent s) =
      fBlend (1 - t + s) (1 + s) (f.exponent s) := by
    rw [← fBlend_neg]
    congr 1 <;> ring
  have houter : fBlend (t - 1 + s) (1 + s) (f.exponent s) =
      fBlend (1 - t - s) (-1 - s) (f.exponent s) := by
    rw [← fBlend_neg]
    congr 1 <;> ring
  have hin : 1 - s < t ↔ 1 - t < s := sub_lt_comm
  simp only [rightWeights, leftWeights, Scalar.one_eq, Prod.swap_prod_mk]
  exact Prod.ext hinner (if_congr hin houter rfl)

/-- The weights of a segment are those of its two ends. -/
theorem weights_eq [IsStrictOrderedRing K] (f : Family) (t s1 s2 : K) :
    weights f t s1 s2 =
      ⟨(endWeights f t s1).1, (endWeights f (1 - t) s2).2, (endWeights f t s1).2,
        (endWeights f (1 - t) s2).1⟩ := by
  have hneg : -(1 - t) = t - 1 := by ring
  unfold weights endWeights
  simp only [rightWeights_eq, hneg, Scalar.ofNat_eq, Scalar.one_eq]
  cases f.isSharp s2 <;> rfl

end Ends

/-! ## Signs -/

section Signs

variable {K : Type} [Field K] [LinearOrder K] [IsStrictOrderedRing K]

theorem fBlend_pos {a b p : K} (h0 : 0 < a / b) (h1 : a / b ≤ 1) (hp : p ≤ 8) :
    0 < fBlend a b p := by
  rw [fBlend_eq]
  have hrest : 0 ≤ 1 - a / b := sub_nonneg.2 h1
  have hp' : 0 ≤ 8 - p := sub_nonneg.2 hp
  positivity

theorem fBlend_nonneg {a b p : K} (h0 : 0 ≤ a / b) (h1 : a / b ≤ 1) (hp : p ≤ 8) :
    0 ≤ fBlend a b p := by
  rw [fBlend_eq]
  have hrest : 0 ≤ 1 - a / b := sub_nonneg.2 h1
  have hp' : 0 ≤ 8 - p := sub_nonneg.2 hp
  positivity

theorem exponent_le (f : Family) {s : K} (h0 : 0 ≤ s) (h1 : s ≤ 1) : f.exponent s ≤ 8 := by
  have hs : 2 * (1 + s) * (1 + s) ≤ 8 := by nlinarith
  cases f <;> simp only [Family.exponent, Scalar.ofNat_eq, Scalar.one_eq]
  · norm_num
  · exact hs
  · exact hs

variable {f : Family} {t s : K}

theorem Family.Admits.of_nonneg (h0 : 0 ≤ s) (h1 : s ≤ 1) : f.Admits s := by
  refine ⟨?_, h1⟩
  split
  · linarith
  · exact h0

theorem Family.admits_zero (f : Family) : f.Admits (0 : K) := .of_nonneg (le_refl 0) zero_le_one

theorem Family.Admits.isSingular (h : f.Admits s) : f.isSingular s = false := by
  rw [Family.isSingular]
  cases hs : f.isSharp s with
  | true => rfl
  | false =>
    have hne : 1 + s ≠ 0 := by linarith [h.nonneg hs]
    simpa using hne

/-- Both weights of an end are at least 0, if its shape is not negative. -/
theorem endWeights_nonneg (h0 : 0 ≤ t) (h1 : t ≤ 1) (hs0 : 0 ≤ s) (hs1 : s ≤ 1) :
    0 ≤ (endWeights f t s).1 ∧ 0 ≤ (endWeights f t s).2 := by
  have hp := exponent_le f hs0 hs1
  have hden : 0 < 1 + s := by linarith
  rw [endWeights, isSharp_of_nonneg f hs0, if_neg Bool.false_ne_true, leftWeights]
  simp only [Scalar.zero_eq, Scalar.one_eq]
  constructor
  · split
    · rename_i hts
      have hu : (t - s) / (-1 - s) = (s - t) / (1 + s) := by
        rw [← neg_div_neg_eq]
        congr 1 <;> ring
      have hts' : t < s := hts
      refine fBlend_nonneg ?_ ?_ hp
      · rw [hu]
        exact div_nonneg (by linarith) hden.le
      · rw [hu, div_le_one hden]
        linarith
    · exact le_refl _
  · refine fBlend_nonneg (div_nonneg (by linarith) hden.le) ?_ hp
    rw [div_le_one hden]
    linarith

/-- The inner weight is positive away from the end. -/
theorem endWeights_inner_pos (h0 : 0 < t) (h1 : t ≤ 1) (hs0 : 0 ≤ s) (hs1 : s ≤ 1) :
    0 < (endWeights f t s).2 := by
  have hden : 0 < 1 + s := by linarith
  rw [endWeights, isSharp_of_nonneg f hs0, if_neg Bool.false_ne_true, leftWeights]
  simp only [Scalar.one_eq]
  refine fBlend_pos (div_pos (by linarith) hden) ?_ (exponent_le f hs0 hs1)
  rw [div_le_one hden]
  linarith

theorem endWeights_sum_nonneg (h0 : 0 ≤ t) (h1 : t ≤ 1) (hs : f.Admits s) :
    0 ≤ (endWeights f t s).1 + (endWeights f t s).2 := by
  cases hsharp : f.isSharp s with
  | false =>
    obtain ⟨houter, hinner⟩ := endWeights_nonneg (f := f) h0 h1 (hs.nonneg hsharp) hs.high
    exact add_nonneg houter hinner
  | true =>
    have hq : 0 < -s / 2 := by linarith [neg_of_isSharp hsharp]
    have hrest : 0 ≤ 1 - t := sub_nonneg.2 h1
    have hpoly : 0 < 8 - 11 * t + 4 * t ^ 2 := by nlinarith
    rw [endWeights_sum_of_isSharp hsharp]
    positivity

/-- Both weights of an end together are positive away from it. -/
theorem endWeights_sum_pos (h0 : 0 < t) (h1 : t ≤ 1) (hs : f.Admits s) :
    0 < (endWeights f t s).1 + (endWeights f t s).2 := by
  cases hsharp : f.isSharp s with
  | false =>
    have hs0 := hs.nonneg hsharp
    exact add_pos_of_nonneg_of_pos (endWeights_nonneg h0.le h1 hs0 hs.high).1
      (endWeights_inner_pos h0 h1 hs0 hs.high)
  | true =>
    have hq : 0 < -s / 2 := by linarith [neg_of_isSharp hsharp]
    have hrest : 0 ≤ 1 - t := sub_nonneg.2 h1
    have hpoly : 0 < 8 - 11 * t + 4 * t ^ 2 := by nlinarith
    rw [endWeights_sum_of_isSharp hsharp]
    positivity

end Signs

/-! ## Four weights -/

section Four

variable {K : Type} [Field K] [LinearOrder K] [IsStrictOrderedRing K]

section Shapes

variable {f : Family} {t s1 s2 : K}

/-- Nothing is divided by zero, if the shapes are admitted. -/
theorem weights?_eq (h1 : f.Admits s1) (h2 : f.Admits s2) :
    weights? f t s1 s2 = some (weights f t s1 s2) := by
  rw [weights?, h1.isSingular, h2.isSingular]
  rfl

/-- The sum of the weights is positive: the end that is not where the point is takes care of it. -/
theorem total_pos (h0 : 0 ≤ t) (h1 : t ≤ 1) (hs1 : f.Admits s1) (hs2 : f.Admits s2) :
    0 < (weights f t s1 s2).total := by
  have hsplit : (weights f t s1 s2).total = ((endWeights f t s1).1 + (endWeights f t s1).2) +
      ((endWeights f (1 - t) s2).1 + (endWeights f (1 - t) s2).2) := by
    rw [weights_eq, Weights.total]
    ring
  have h0' : 0 ≤ 1 - t := sub_nonneg.2 h1
  have h1' : 1 - t ≤ 1 := sub_le_self 1 h0
  rw [hsplit]
  rcases h0.eq_or_lt with rfl | hpos
  · exact add_pos_of_nonneg_of_pos (endWeights_sum_nonneg h0 h1 hs1)
      (endWeights_sum_pos (by simp) h1' hs2)
  · exact add_pos_of_pos_of_nonneg (endWeights_sum_pos hpos h1 hs1)
      (endWeights_sum_nonneg h0' h1' hs2)

/-- No weight is negative, if no shape is. -/
theorem weights_nonneg (h0 : 0 ≤ t) (h1 : t ≤ 1) (hs1 : 0 ≤ s1) (hs1' : s1 ≤ 1) (hs2 : 0 ≤ s2)
    (hs2' : s2 ≤ 1) : (weights f t s1 s2).Nonneg := by
  obtain ⟨h00, h01⟩ := endWeights_nonneg (f := f) h0 h1 hs1 hs1'
  obtain ⟨h10, h11⟩ := endWeights_nonneg (f := f) (sub_nonneg.2 h1) (sub_le_self 1 h0) hs2 hs2'
  rw [weights_eq]
  exact ⟨h00, h11, h01, h10⟩

theorem weights_zero_w3 (hs2 : 0 ≤ s2) (hs2' : s2 ≤ 1) : (weights f 0 s1 s2).w3 = 0 := by
  rw [weights_eq, sub_zero]
  exact endWeights_outer_one hs2 hs2'

end Shapes

/-! ## Weighted means -/

section Mean

variable {w : Weights K} {a b p0 p1 p2 p3 : K}

/-- A weighted mean is not below what no value with weight is below. -/
theorem le_mean (hw : w.Nonneg) (ht : 0 < w.total) (h0 : a ≤ p0) (h1 : a ≤ p1) (h2 : a ≤ p2)
    (h3 : w.w3 = 0 ∨ a ≤ p3) : a ≤ w.mean p0 p1 p2 p3 := by
  have h3' : w.w3 * a ≤ w.w3 * p3 := by
    rcases h3 with h3 | h3
    · rw [h3, zero_mul, zero_mul]
    · exact mul_le_mul_of_nonneg_left h3 hw.w3
  have hsum : a * w.total = w.w0 * a + w.w1 * a + w.w2 * a + w.w3 * a := by
    rw [Weights.total]
    ring
  rw [Weights.mean, le_div_iff₀ ht, hsum]
  exact add_le_add (add_le_add (add_le_add (mul_le_mul_of_nonneg_left h0 hw.w0)
    (mul_le_mul_of_nonneg_left h1 hw.w1)) (mul_le_mul_of_nonneg_left h2 hw.w2)) h3'

theorem mean_le (hw : w.Nonneg) (ht : 0 < w.total) (h0 : p0 ≤ a) (h1 : p1 ≤ a) (h2 : p2 ≤ a)
    (h3 : w.w3 = 0 ∨ p3 ≤ a) : w.mean p0 p1 p2 p3 ≤ a := by
  have hneg : w.mean (-p0) (-p1) (-p2) (-p3) = -w.mean p0 p1 p2 p3 := by
    rw [Weights.mean, Weights.mean, ← neg_div]
    congr 1
    ring
  have h := le_mean hw ht (neg_le_neg h0) (neg_le_neg h1) (neg_le_neg h2) (h3.imp_right neg_le_neg)
  rw [hneg] at h
  exact neg_le_neg_iff.1 h

/-- A weighted mean stays in every interval that the values with weight are in. -/
theorem mean_mem_Icc (hw : w.Nonneg) (ht : 0 < w.total) (h0 : p0 ∈ Set.Icc a b)
    (h1 : p1 ∈ Set.Icc a b) (h2 : p2 ∈ Set.Icc a b) (h3 : w.w3 = 0 ∨ p3 ∈ Set.Icc a b) :
    w.mean p0 p1 p2 p3 ∈ Set.Icc a b :=
  ⟨le_mean hw ht h0.1 h1.1 h2.1 (h3.imp_right And.left),
    mean_le hw ht h0.2 h1.2 h2.2 (h3.imp_right And.right)⟩

end Mean

end Four

end Scheme

end CurveKit
