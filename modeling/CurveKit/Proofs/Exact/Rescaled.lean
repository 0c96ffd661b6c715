import CurveKit.Proofs.Exact.Affine

/-!
# Curves on rescaled parameters

Shifting and stretching the parameters of a curve shifts and stretches the curve with them.
In exact arithmetic the formula of a segment sees its parameters only in quotients of
differences, and what is a slope or a second derivative is divided by the factor as often as
it is a derivative. The factor may be negative here; what that does to the order of the
points is another matter.

Results:
* `Rescaled.sub`, `Rescaled.position`: differences and quotients of rescaled parameters.
* `Scheme.linePiece_rescale`, `Scheme.parabolaPiece_rescale`, `Scheme.naturalPiece_rescale`,
  `Scheme.catmullRomPiece_rescale`, `Scheme.tangentPiece_rescale`, `Scheme.cubicPiece_rescale`,
  `Scheme.blendPiece_rescale`: the formulas of the schemes, one by one.
* `Scheme.Moments.rescale`: the second derivatives of a natural spline.
* `Rule.piece_rescale`, `Rule.eval_rescale`: all of them together, and the ends.
-/
namespace CurveKit

open scoped Exact

variable {K : Type} [Field K] [LinearOrder K] {n i : Nat} {x x' y : Nat → K} {a b t : K}

/-- Parameters that are shifted and stretched, point by point. -/
def Rescaled (n : Nat) (a b : K) (x x' : Nat → K) : Prop := ∀ i < n, x' i = a * x i + b

section Quotients

variable (h : Rescaled n a b x x')

include h

omit [LinearOrder K] in
theorem Rescaled.sub {j : Nat} (hi : i < n) (hj : j < n) : x' i - x' j = a * (x i - x j) := by
  rw [h i hi, h j hj]
  ring

omit [LinearOrder K] in
theorem Rescaled.sub_left (hi : i < n) (t : K) : a * t + b - x' i = a * (t - x i) := by
  rw [h i hi]
  ring

omit [LinearOrder K] in
theorem Rescaled.sub_right (hi : i < n) (t : K) : x' i - (a * t + b) = a * (x i - t) := by
  rw [h i hi]
  ring

omit [LinearOrder K] in
/-- The position of a parameter in its segment. -/
theorem Rescaled.position (ha : a ≠ 0) (hi : i + 1 < n) (t : K) :
    (a * t + b - x' i) / (x' (i + 1) - x' i) = (t - x i) / (x (i + 1) - x i) := by
  rw [h.sub_left (by omega), h.sub hi (by omega), mul_div_mul_left _ _ ha]

end Quotients

/-! ## The formulas -/

namespace Scheme

section Formulas

variable (h : Rescaled n a b x x') (ha : a ≠ 0)

include h ha

theorem linePiece_rescale (hi : i + 1 < n) (t : K) :
    linePiece x' y i (a * t + b) = linePiece x y i t := by
  simp only [linePiece]
  rw [h.position ha hi]

/-- In Lagrange's form as many differences stand above as below. -/
theorem parabolaPiece_rescale (hi : i + 2 < n) (t : K) :
    parabolaPiece x' y i (a * t + b) = parabolaPiece x y i t := by
  have hquotient (p q r s : K) : a * p * (a * q) / (a * r * (a * s)) = p * q / (r * s) := by
    rw [mul_mul_mul_comm, mul_mul_mul_comm a r, mul_div_mul_left _ _ (mul_ne_zero ha ha)]
  have h0 : i < n := by omega
  have h1 : i + 1 < n := by omega
  simp only [parabolaPiece, h.sub_left h0, h.sub_left h1, h.sub_left hi, h.sub h0 h1, h.sub h0 hi,
    h.sub h1 h0, h.sub h1 hi, h.sub hi h0, h.sub hi h1, hquotient]

omit ha in
theorem secant_rescale (hi : i + 1 < n) : secant x' y i = a⁻¹ * secant x y i := by
  simp only [secant]
  rw [h.sub hi (by omega), div_mul_eq_div_div_swap, div_eq_inv_mul _ a]

/-- A second derivative is divided by the factor twice. -/
theorem naturalPiece_rescale (m : Nat → K) (hi : i + 1 < n) (t : K) :
    naturalPiece x' y (fun i => m i / (a * a)) i (a * t + b) = naturalPiece x y m i t := by
  have hfirst : i < n := by omega
  have hmoment (p q r s l : K) : (p * (q / (a * a)) + r * (s / (a * a))) * (a * l * (a * l)) =
      (p * q + r * s) * (l * l) := by
    field_simp
  simp only [naturalPiece]
  rw [h.position ha hi, h.sub_right hi, h.sub hi hfirst, mul_div_mul_left _ _ ha, hmoment]

/-- Those that solve the system of a natural spline are divided by it twice, too. -/
theorem Moments.rescale {m : Nat → K} (hm : Moments n x y m) :
    Moments n x' y fun i => m i / (a * a) where
  solves := by
    have hlast : m (n - 1) = 0 := hm.beyond _ (le_refl _)
    refine solves_of_rows (by rw [hm.first, zero_div]) (by rw [hlast, zero_div]) fun j hj => ?_
    have hrow := solves_momentRows hm.solves hm.first hlast hj
    have hone : a * a⁻¹ = 1 := mul_inv_cancel₀ ha
    have hbefore : (y (j + 1) - y j) / (x' (j + 1) - x' j) = _ := secant_rescale h (by omega)
    have hbehind : (y (j + 2) - y (j + 1)) / (x' (j + 2) - x' (j + 1)) = _ := secant_rescale h hj
    rw [hbefore, hbehind, h.sub (by omega) (by omega), h.sub hj (by omega)]
    simp only [secant]
    linear_combination a⁻¹ * hrow + a⁻¹ * ((x (j + 1) - x j) * m j +
      2 * (x (j + 1) - x j + (x (j + 2) - x (j + 1))) * m (j + 1) +
      (x (j + 2) - x (j + 1)) * m (j + 2)) * hone
  first := by rw [hm.first, zero_div]
  beyond i hi := by rw [hm.beyond i hi, zero_div]

theorem chordTangent_rescale (hi : i < n) (length : K) :
    chordTangent n x' y i (a * length) = chordTangent n x y i length := by
  have hbehind : min (i + 1) (n - 1) < n := by omega
  have hbefore : i - 1 < n := by omega
  simp only [chordTangent]
  rw [h.sub hbehind hbefore, mul_div_mul_left _ _ ha]

theorem catmullRomPiece_rescale (hi : i + 1 < n) (t : K) :
    catmullRomPiece n x' y i (a * t + b) = catmullRomPiece n x y i t := by
  have hfirst : i < n := by omega
  simp only [catmullRomPiece]
  rw [h.position ha hi, h.sub hi hfirst, chordTangent_rescale h ha hfirst,
    chordTangent_rescale h ha hi]

omit ha in
theorem backward_rescale (hi : i < n) : backward x' i = a * backward x i := by
  simp only [backward, beq_iff_eq, Scalar.zero_eq]
  split
  · rw [mul_zero]
  · exact h.sub hi (by omega)

omit ha in
theorem forward_rescale (hi : i < n) : forward n x' i = a * forward n x i := by
  simp only [forward, beq_iff_eq, Scalar.zero_eq]
  split
  · rw [mul_zero]
  · exact h.sub (by omega) hi

theorem incomingTangent_rescale (p : Tcb K) (hi : i < n) :
    incomingTangent n x' y p i = incomingTangent n x y p i := by
  simp only [incomingTangent, incomingScale]
  rw [backward_rescale h hi, forward_rescale h hi, ← mul_add, mul_left_comm,
    mul_div_mul_left _ _ ha]

theorem outgoingTangent_rescale (p : Tcb K) (hi : i < n) :
    outgoingTangent n x' y p i = outgoingTangent n x y p i := by
  simp only [outgoingTangent, outgoingScale]
  rw [backward_rescale h hi, forward_rescale h hi, ← mul_add, mul_left_comm,
    mul_div_mul_left _ _ ha]

theorem tangentPiece_rescale {p p' q q' : Nat → K} (hi : i + 1 < n) (hp : p' (i + 1) = p (i + 1))
    (hq : q' i = q i) (t : K) :
    tangentPiece x' y p' q' i (a * t + b) = tangentPiece x y p q i t := by
  simp only [tangentPiece]
  rw [h.position ha hi, hp, hq]

omit ha in
theorem chordSlope_rescale (hn : 2 ≤ n) (hi : i < n) :
    chordSlope n x' y i = a⁻¹ * chordSlope n x y i := by
  simp only [chordSlope, beq_iff_eq]
  split
  · exact secant_rescale h hn
  · split
    · exact secant_rescale h (by omega)
    · rw [h.sub (by omega) (by omega), div_mul_eq_div_div_swap, div_eq_inv_mul _ a]

omit ha in
theorem akimaSlope_rescale [IsStrictOrderedRing K] (hn : 3 ≤ n) (i : Nat) :
    akimaSlope n x' y i = a⁻¹ * akimaSlope n x y i :=
  akimaSlope_of_secants (fun _ hi => secant_rescale h hi) hn i

/-- A cubic that is made from slopes is the same at the same place if its slopes are divided. -/
theorem cubicPiece_rescale {p q : Nat → Cubic K} {m m' : Nat → K}
    (hp : p i = slopeCubic x y m i) (hq : q i = slopeCubic x' y m' i) (hi : i + 1 < n)
    (h0 : m' i = a⁻¹ * m i) (h1 : m' (i + 1) = a⁻¹ * m (i + 1)) (t : K) :
    cubicPiece x' q i (a * t + b) = cubicPiece x p i t := by
  have hfirst : i < n := by omega
  rw [cubicPiece, cubicPiece, hp, hq]
  simp only [Cubic.eval, slopeCubic]
  rw [h.sub_left hfirst, h.sub hi hfirst, secant_rescale h hi, h0, h1]
  field_simp

theorem blendPiece_rescale (f : Family) (shape : Nat → K) (hi : i + 1 < n) (t : K) :
    blendPiece f n x' y shape i (a * t + b) = blendPiece f n x y shape i t := by
  simp only [blendPiece, blendWeights]
  rw [h.position ha hi]

end Formulas

end Scheme

/-! ## The rules of the schemes -/

/-- Bisection compares the parameters with the given one, and does nothing else with them. -/
theorem segment_congr {t' : K} (hx : Ascending n x) (hx' : Ascending n x')
    (h : ∀ i < n, x' i ≤ t' ↔ x i ≤ t) : segment n x' t' = segment n x t := by
  have hle := upperBound_le x t (Nat.zero_le n)
  have hle' := upperBound_le x' t' (Nat.zero_le n)
  have hiff (i : Nat) (hi : i < n) : i < upperBound x' t' 0 n ↔ i < upperBound x t 0 n := by
    rw [hx.upperBound hi, hx'.upperBound hi, h i hi]
  have hbound : upperBound x' t' 0 n = upperBound x t 0 n := by
    rcases lt_trichotomy (upperBound x' t' 0 n) (upperBound x t 0 n) with hlt | heq | hlt
    · exact absurd ((hiff _ (by omega)).2 hlt) (lt_irrefl _)
    · exact heq
    · exact absurd ((hiff _ (by omega)).1 hlt) (lt_irrefl _)
  rw [segment, hbound, segment]

namespace Rule

variable [IsStrictOrderedRing K] {kind : Kind} {bend : Nat → Bend K} {shape : K} {p q : Rule K}
  (hp : prepare kind n x y bend shape = .ok p) (hq : prepare kind n x' y bend shape = .ok q)
  (h : Rescaled n a b x x') (hx : Ascending n x) (hx' : Ascending n x')
  (hn : kind.minPoints ≤ n)

include hp hq h hx hx' hn

/-- The formulas on rescaled parameters are the same. -/
theorem piece_rescale (ha : a ≠ 0) (hi : i + 1 < n) (t : K) :
    q.piece n x' y i (a * t + b) = p.piece n x y i t := by
  have hlt : i < n - 1 := by omega
  cases kind with
  | linear =>
    cases hp
    cases hq
    exact Scheme.linePiece_rescale h ha hi t
  | quadratic =>
    cases hp
    cases hq
    have hthree : 3 ≤ n := hn
    exact Scheme.parabolaPiece_rescale h ha (by omega) t
  | natural =>
    obtain ⟨m, hm, rfl⟩ := map_eq_ok.1 hp
    obtain ⟨m', hm', rfl⟩ := map_eq_ok.1 hq
    have hmoments := (Scheme.nth_of_moments hx hm).1.rescale h ha
    rw [piece, (Scheme.nth_of_moments hx' hm').2 _ hmoments]
    exact Scheme.naturalPiece_rescale h ha _ hi t
  | catmullRom =>
    cases hp
    cases hq
    exact Scheme.catmullRomPiece_rescale h ha hi t
  | sor =>
    cases hp
    cases hq
    apply Scheme.cubicPiece_rescale h ha (nthCubic_tabulate _ hlt) (nthCubic_tabulate _ hlt) hi
    · exact Scheme.chordSlope_rescale h (by omega) (by omega)
    · exact Scheme.chordSlope_rescale h (by omega) hi
  | akima =>
    cases hp
    cases hq
    have hthree : 3 ≤ n := le_trans (by decide) hn
    apply Scheme.cubicPiece_rescale h ha (nthCubic_tabulate _ hlt) (nthCubic_tabulate _ hlt) hi
    · exact Scheme.akimaSlope_rescale h hthree i
    · exact Scheme.akimaSlope_rescale h hthree (i + 1)
  | tcb =>
    cases hp
    cases hq
    have hi' : i < n := by omega
    apply Scheme.tangentPiece_rescale h ha hi
    · simp only [nth_tabulate _ hi]
      exact Scheme.incomingTangent_rescale h ha _ hi
    · simp only [nth_tabulate _ hi']
      exact Scheme.outgoingTangent_rescale h ha _ hi'
  | basicX | extendedX | generalX =>
    cases hp
    cases hq
    exact Scheme.blendPiece_rescale h ha _ _ hi t

/-- Stretching keeps the order, so the whole component goes with its parameters. -/
theorem eval_rescale (ha : 0 < a) (extrapolate : Bool) (t : K) :
    q.eval extrapolate n x' y (a * t + b) = p.eval extrapolate n x y t := by
  have hguides := kind.guides_le
  have hsegment := segment_le n x t
  have hle (i : Nat) (hi : i < n) : x' i ≤ a * t + b ↔ x i ≤ t := by
    rw [h i hi, add_le_add_iff_right, mul_le_mul_iff_of_pos_left ha]
  have hge (i : Nat) (hi : i < n) : a * t + b ≤ x' i ↔ t ≤ x i := by
    rw [h i hi, add_le_add_iff_right, mul_le_mul_iff_of_pos_left ha]
  have hpiece := piece_rescale hp hq h hx hx' hn ha.ne' (show segment n x t + 1 < n by omega) t
  simp only [eval_eq, continues_of_prepare hp, continues_of_prepare hq, guides_of_prepare hp,
    guides_of_prepare hq, segment_congr hx hx' hle, hpiece,
    hge kind.guides (by omega), hle (n - 1 - kind.guides) (by omega)]

end Rule

end CurveKit
