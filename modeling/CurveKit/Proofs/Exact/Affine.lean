import CurveKit.Proofs.Exact.Chord

/-!
# Curves depend on their values in an affine way

In exact arithmetic the weights of the values in the formula of a segment do not depend on
the values, and their sum is one: those of a line, of Lagrange's form, of a cubic from
tangents that are differences, of a cubic from second derivatives that solve their system,
and those of a blend. So the curve of combined values is combined in the same way. Only
Akima's slopes weigh the secants by the values themselves. They still scale with the values,
whatever the sign of the factor is, and also where all weights are zero.

Results:
* `Scheme.linePiece_combine`, `Scheme.parabolaPiece_combine`, `Scheme.naturalPiece_combine`,
  `Scheme.catmullRomPiece_combine`, `Scheme.tangentPiece_combine`, `Scheme.cubicPiece_combine`,
  `Scheme.blendPiece_combine`: the formulas of the schemes, one by one.
* `Scheme.weightedSlope_scale`, `Scheme.akimaSlope_scale`: Akima's slopes.
* `Rule.piece_combine`, `Rule.eval_combine`: all of them together, and the ends.
* `Spline.affine_in_values`: the same for every finalized spline.
-/
namespace CurveKit

open scoped Exact

variable {K : Type} [Field K] [LinearOrder K] {n i : Nat} {x y w z : Nat → K} {a b c : K}

/-- Values that are combined of two others and a constant, point by point. -/
def Combined (n : Nat) (a b c : K) (y w z : Nat → K) : Prop :=
  ∀ i < n, z i = a * y i + b * w i + c

/-! ## The formulas -/

namespace Scheme

section Formulas

variable (h : Combined n a b c y w z)

include h

theorem linePiece_combine (hi : i + 1 < n) (t : K) :
    linePiece x z i t = a * linePiece x y i t + b * linePiece x w i t + c := by
  rw [linePiece, h i (by omega), h (i + 1) hi, linePiece, linePiece]
  ring

/-- The weights of Lagrange's form have the sum one. -/
theorem parabolaPiece_combine (hx : Ascending n x) (hi : i + 2 < n) (t : K) :
    parabolaPiece x z i t = a * parabolaPiece x y i t + b * parabolaPiece x w i t + c := by
  have h01 : x i - x (i + 1) ≠ 0 := sub_ne_zero.2 (hx i (i + 1) (by omega) (by omega)).ne
  have h02 : x i - x (i + 2) ≠ 0 := sub_ne_zero.2 (hx i (i + 2) (by omega) hi).ne
  have h12 : x (i + 1) - x (i + 2) ≠ 0 := sub_ne_zero.2 (hx (i + 1) (i + 2) (by omega) hi).ne
  have hsum : (t - x (i + 1)) * (t - x (i + 2)) / ((x i - x (i + 1)) * (x i - x (i + 2))) +
      (t - x i) * (t - x (i + 2)) / ((x (i + 1) - x i) * (x (i + 1) - x (i + 2))) +
      (t - x i) * (t - x (i + 1)) / ((x (i + 2) - x i) * (x (i + 2) - x (i + 1))) = 1 := by
    rw [← neg_sub (x i) (x (i + 1)), ← neg_sub (x i) (x (i + 2)),
      ← neg_sub (x (i + 1)) (x (i + 2))]
    field_simp
    ring
  simp only [parabolaPiece]
  rw [h i (by omega), h (i + 1) (by omega), h (i + 2) hi]
  linear_combination c * hsum

/-- The positions of a parameter in its segment, from both ends, have the sum one. -/
theorem naturalPiece_combine {u v : Nat → K} (hx : x i < x (i + 1)) (hi : i + 1 < n) (t : K) :
    naturalPiece x z (fun i => a * u i + b * v i) i t =
      a * naturalPiece x y u i t + b * naturalPiece x w v i t + c := by
  have hsum : (x (i + 1) - t) / (x (i + 1) - x i) + (t - x i) / (x (i + 1) - x i) = 1 := by
    rw [← add_div, sub_add_sub_cancel, div_self (sub_ne_zero.2 hx.ne')]
  simp only [naturalPiece]
  rw [h i (by omega), h (i + 1) hi]
  linear_combination c * hsum

end Formulas

theorem hermite_combine (t v0 v1 m0 m1 v0' v1' m0' m1' : K) :
    hermite t (a * v0 + b * v0' + c) (a * v1 + b * v1' + c) (a * m0 + b * m0') (a * m1 + b * m1') =
      a * hermite t v0 v1 m0 m1 + b * hermite t v0' v1' m0' m1' + c := by
  simp only [hermite, Scalar.ofNat_eq, Scalar.one_eq]
  ring

/-- The secants beyond the ends are combined as those between them, whatever points they are of. -/
theorem paddedSecant_of_secants {x' x'' : Nat → K}
    (h : ∀ i, i + 1 < n → secant x'' z i = a * secant x y i + b * secant x' w i) (hn : 3 ≤ n)
    (i : Nat) : paddedSecant n x'' z i = a * paddedSecant n x y i + b * paddedSecant n x' w i := by
  have h0 := h 0 (by omega)
  have h1 := h 1 (by omega)
  have h2 := h (n - 2) (by omega)
  have h3 := h (n - 3) (by omega)
  simp only [paddedSecant, beq_iff_eq, Scalar.ofNat_eq]
  split
  · rw [h0, h1]
    ring
  · split
    · rw [h0, h1]
      ring
    · split
      · exact h _ (by omega)
      · split
        · rw [h2, h3]
          ring
        · rw [h2, h3]
          ring

section Tangents

variable (h : Combined n a b c y w z)

include h

theorem chordTangent_combine (hi : i < n) (length : K) : chordTangent n x z i length =
    a * chordTangent n x y i length + b * chordTangent n x w i length := by
  simp only [chordTangent]
  rw [h (min (i + 1) (n - 1)) (by omega), h (i - 1) (by omega)]
  ring

theorem catmullRomPiece_combine (hi : i + 1 < n) (t : K) : catmullRomPiece n x z i t =
    a * catmullRomPiece n x y i t + b * catmullRomPiece n x w i t + c := by
  simp only [catmullRomPiece]
  rw [h i (by omega), h (i + 1) hi, chordTangent_combine h (by omega), chordTangent_combine h hi,
    hermite_combine]

theorem backward_combine (hi : i < n) : backward z i = a * backward y i + b * backward w i := by
  simp only [backward, beq_iff_eq, Scalar.zero_eq]
  split
  · ring
  · rw [h i hi, h (i - 1) (by omega)]
    ring

theorem forward_combine (hi : i < n) :
    forward n z i = a * forward n y i + b * forward n w i := by
  simp only [forward, beq_iff_eq, Scalar.zero_eq]
  split
  · ring
  · rw [h i hi, h (i + 1) (by omega)]
    ring

theorem incomingTangent_combine (p : Tcb K) (hi : i < n) : incomingTangent n x z p i =
    a * incomingTangent n x y p i + b * incomingTangent n x w p i := by
  simp only [incomingTangent, incomingMix]
  rw [backward_combine h hi, forward_combine h hi]
  ring

theorem outgoingTangent_combine (p : Tcb K) (hi : i < n) : outgoingTangent n x z p i =
    a * outgoingTangent n x y p i + b * outgoingTangent n x w p i := by
  simp only [outgoingTangent, outgoingMix]
  rw [backward_combine h hi, forward_combine h hi]
  ring

theorem secant_combine (hi : i + 1 < n) : secant x z i = a * secant x y i + b * secant x w i := by
  simp only [secant]
  rw [h i (by omega), h (i + 1) hi]
  ring

theorem chordSlope_combine (hn : 2 ≤ n) (hi : i < n) :
    chordSlope n x z i = a * chordSlope n x y i + b * chordSlope n x w i := by
  simp only [chordSlope, beq_iff_eq]
  split
  · exact secant_combine h hn
  · split
    · exact secant_combine h (by omega)
    · rw [h (i + 1) (by omega), h (i - 1) (by omega)]
      ring

theorem cubicPiece_combine {p q r : Nat → Cubic K} {mp mq mr : Nat → K}
    (hp : p i = slopeCubic x y mp i) (hq : q i = slopeCubic x w mq i)
    (hr : r i = slopeCubic x z mr i) (hi : i + 1 < n) (h0 : mr i = a * mp i + b * mq i)
    (h1 : mr (i + 1) = a * mp (i + 1) + b * mq (i + 1)) (t : K) :
    cubicPiece x r i t = a * cubicPiece x p i t + b * cubicPiece x q i t + c := by
  rw [cubicPiece, cubicPiece, cubicPiece, hp, hq, hr]
  simp only [Cubic.eval, slopeCubic]
  rw [secant_combine h hi, h i (by omega), h0, h1]
  ring

/-- The tangents are combined as the values are, but for the constant. -/
theorem tangentPiece_combine {py pw pz qy qw qz : Nat → K} (hi : i + 1 < n)
    (hp : pz (i + 1) = a * py (i + 1) + b * pw (i + 1)) (hq : qz i = a * qy i + b * qw i) (t : K) :
    tangentPiece x z pz qz i t = a * tangentPiece x y py qy i t + b * tangentPiece x w pw qw i t +
      c := by
  simp only [tangentPiece]
  rw [h i (by omega), h (i + 1) hi, hp, hq, hermite_combine]

end Tangents

/-! ### Akima's slopes -/

/-- A weighted mean scales with what it weighs, if the weights scale with its magnitude. -/
theorem weightedSlope_scale [IsStrictOrderedRing K] (a before behind p q : K) :
    weightedSlope (a * before) (a * behind) (|a| * p) (|a| * q) =
      a * weightedSlope before behind p q := by
  rcases eq_or_ne a 0 with rfl | ha
  · simp [weightedSlope]
  · have habs : |a| ≠ 0 := abs_ne_zero.2 ha
    simp only [weightedSlope, Scalar.zero_eq, Scalar.ofNat_eq, beq_iff_eq, ← mul_add,
      mul_eq_zero, habs, false_or]
    split
    · ring
    · rw [← mul_div_mul_left (p * before + q * behind) (p + q) habs, ← mul_div_assoc]
      congr 1
      ring

/-- Whatever the sign of the factor is, the changes of the secants keep their proportion. -/
theorem akimaSlope_of_secants [IsStrictOrderedRing K] {x' : Nat → K}
    (h : ∀ i, i + 1 < n → secant x' z i = a * secant x y i) (hn : 3 ≤ n) (i : Nat) :
    akimaSlope n x' z i = a * akimaSlope n x y i := by
  have hlinear (i : Nat) (hi : i + 1 < n) :
      secant x' z i = a * secant x y i + 0 * secant x y i := by
    rw [h i hi, zero_mul, add_zero]
  have hpadded (j : Nat) : paddedSecant n x' z j = a * paddedSecant n x y j := by
    rw [paddedSecant_of_secants hlinear hn, zero_mul, add_zero]
  have hchange (u v : K) : Scalar.magnitude (a * u - a * v) = |a| * Scalar.magnitude (u - v) := by
    rw [← mul_sub]
    exact abs_mul a (u - v)
  simp only [akimaSlope, hpadded, hchange]
  exact weightedSlope_scale a _ _ _ _

theorem akimaSlope_scale [IsStrictOrderedRing K] (h : Combined n a 0 c y w z) (hn : 3 ≤ n)
    (i : Nat) : akimaSlope n x z i = a * akimaSlope n x y i :=
  akimaSlope_of_secants (fun i hi => by rw [secant_combine h hi, zero_mul, add_zero]) hn i

/-! ### Blends -/

theorem mean_combine {u : Weights K} (hu : u.total ≠ 0)
    (p0 p1 p2 p3 q0 q1 q2 q3 : K) :
    u.mean (a * p0 + b * q0 + c) (a * p1 + b * q1 + c) (a * p2 + b * q2 + c)
        (a * p3 + b * q3 + c) =
      a * u.mean p0 p1 p2 p3 + b * u.mean q0 q1 q2 q3 + c := by
  have hc : c = c * u.total / u.total := (mul_div_cancel_right₀ c hu).symm
  conv_rhs => rw [hc]
  simp only [Weights.mean, Weights.total]
  ring

theorem blendPiece_combine {f : Family} {shape : Nat → K} {t : K} (h : Combined n a b c y w z)
    (hi : i + 1 < n) (ht : (blendWeights f n x shape i t).total ≠ 0) :
    blendPiece f n x z shape i t =
      a * blendPiece f n x y shape i t + b * blendPiece f n x w shape i t + c := by
  simp only [blendPiece]
  rw [h (i - 1) (by omega), h i (by omega), h (i + 1) hi, h (min (i + 2) (n - 1)) (by omega),
    mean_combine ht]

end Scheme

/-! ## The rules of the schemes -/

namespace Rule

variable [IsStrictOrderedRing K] {kind : Kind} {bend : Nat → Bend K} {shape : K} {p q r : Rule K}
  {t : K}

/-- The formulas of combined values are combined in the same way. An Akima spline takes multiples
only, and a blend needs weights whose sum is not zero. -/
theorem piece_combine (hp : prepare kind n x y bend shape = .ok p)
    (hq : prepare kind n x w bend shape = .ok q) (hr : prepare kind n x z bend shape = .ok r)
    (h : Combined n a b c y w z) (hx : Ascending n x) (hn : kind.minPoints ≤ n)
    (hakima : kind = .akima → b = 0)
    (hblend : ∀ f shapes, p = .blends f shapes →
      (Scheme.blendWeights f n x (nth shapes) i t).total ≠ 0) (hi : i + 1 < n) :
    r.piece n x z i t = a * p.piece n x y i t + b * q.piece n x w i t + c := by
  have hlt : i < n - 1 := by omega
  cases kind with
  | linear =>
    cases hp
    cases hq
    cases hr
    exact Scheme.linePiece_combine h hi t
  | quadratic =>
    cases hp
    cases hq
    cases hr
    have hthree : 3 ≤ n := hn
    exact Scheme.parabolaPiece_combine h hx (by omega) t
  | natural =>
    obtain ⟨mp, hmp, rfl⟩ := map_eq_ok.1 hp
    obtain ⟨mq, hmq, rfl⟩ := map_eq_ok.1 hq
    obtain ⟨mr, hmr, rfl⟩ := map_eq_ok.1 hr
    have hcombined := Scheme.moments_combine (Scheme.nth_of_moments hx hmp).1
      (Scheme.nth_of_moments hx hmq).1 h
    rw [piece, (Scheme.nth_of_moments hx hmr).2 _ hcombined]
    exact Scheme.naturalPiece_combine h (hx i (i + 1) (by omega) hi) hi t
  | catmullRom =>
    cases hp
    cases hq
    cases hr
    exact Scheme.catmullRomPiece_combine h hi t
  | sor =>
    cases hp
    cases hq
    cases hr
    apply Scheme.cubicPiece_combine h (nthCubic_tabulate _ hlt) (nthCubic_tabulate _ hlt)
      (nthCubic_tabulate _ hlt) hi
    · exact Scheme.chordSlope_combine h (by omega) (by omega)
    · exact Scheme.chordSlope_combine h (by omega) hi
  | akima =>
    cases hp
    cases hq
    cases hr
    obtain rfl := hakima rfl
    have hthree : 3 ≤ n := le_trans (by decide) hn
    apply Scheme.cubicPiece_combine h (nthCubic_tabulate _ hlt) (nthCubic_tabulate _ hlt)
      (nthCubic_tabulate _ hlt) hi
    · rw [Scheme.akimaSlope_scale h hthree, zero_mul, add_zero]
    · rw [Scheme.akimaSlope_scale h hthree, zero_mul, add_zero]
  | tcb =>
    cases hp
    cases hq
    cases hr
    have hi' : i < n := by omega
    apply Scheme.tangentPiece_combine h hi
    · simp only [nth_tabulate _ hi]
      exact Scheme.incomingTangent_combine h _ hi
    · simp only [nth_tabulate _ hi']
      exact Scheme.outgoingTangent_combine h _ hi'
  | basicX | extendedX | generalX =>
    cases hp
    cases hq
    cases hr
    exact Scheme.blendPiece_combine h hi (hblend _ _ rfl)

omit [IsStrictOrderedRing K] in
theorem family_of_prepare {f : Scheme.Family} {shapes : Array K}
    (h : prepare kind n x y bend shape = .ok (.blends f shapes)) : kind.family? = some f := by
  cases kind with
  | natural =>
    obtain ⟨m, -, hm⟩ := map_eq_ok.1 h
    cases hm
  | _ => cases h <;> rfl

/-- A component combines at every parameter, as its ends are values themselves. -/
theorem eval_combine (hp : prepare kind n x y bend shape = .ok p)
    (hq : prepare kind n x w bend shape = .ok q) (hr : prepare kind n x z bend shape = .ok r)
    (h : Combined n a b c y w z) (hx : Ascending n x) (hn : kind.minPoints ≤ n)
    (hakima : kind = .akima → b = 0)
    (hblend : ∀ f shapes, p = .blends f shapes → x 0 < t → t < x (n - 1) →
      (Scheme.blendWeights f n x (nth shapes) (segment n x t) t).total ≠ 0) (extrapolate : Bool) :
    r.eval extrapolate n x z t =
      a * p.eval extrapolate n x y t + b * q.eval extrapolate n x w t + c := by
  have hguides := kind.guides_le
  have hsegment := segment_le n x t
  have hpiece (hin : ∀ f, kind.family? = some f → x 0 < t ∧ t < x (n - 1)) := by
    refine piece_combine (t := t) hp hq hr h hx hn hakima (fun f shapes hf => ?_)
      (show segment n x t + 1 < n by omega)
    obtain ⟨hfirst, hlast⟩ := hin f (family_of_prepare (hf ▸ hp))
    exact hblend f shapes hf hfirst hlast
  simp only [eval_eq, continues_of_prepare hp, continues_of_prepare hq, continues_of_prepare hr,
    guides_of_prepare hp, guides_of_prepare hq, guides_of_prepare hr]
  split
  · rename_i hcontinues
    apply hpiece
    intro f hf
    rw [Kind.continues_of_family hf] at hcontinues
    cases hcontinues
  · split
    · exact h _ (by omega)
    · split
      · exact h _ (by omega)
      · rename_i hfirst hlast
        apply hpiece
        intro f hf
        rw [(Kind.points_of_family hf).2] at hfirst hlast
        exact ⟨not_le.1 hfirst, not_le.1 hlast⟩

end Rule

/-! ## Splines -/

namespace Spline

variable {s w u : Spline K} {cs cw cu : Curve K} {k : Nat}

theorem combined_of_map (hs : s.Coherent)
    (h : u.values = s.values.map (List.map fun r => a * r + c)) (hk : k < s.terms) :
    Combined s.store.size a 0 c (s.valueAt k) (s.valueAt k) (u.valueAt k) := by
  intro i hi
  rw [← length_values] at hi
  have hlen := hs.length_of_mem_values (List.getElem_mem hi)
  rw [valueAt_eq, valueAt_eq, h]
  simp [hi, hlen, hk]

theorem combined_of_zipWith (hs : s.Coherent) (hw : w.Coherent)
    (hsize : w.store.size = s.store.size) (hterms : w.terms = s.terms)
    (h : u.values = List.zipWith (List.zipWith (· + ·)) s.values w.values) (hk : k < s.terms) :
    Combined s.store.size 1 1 0 (s.valueAt k) (w.valueAt k) (u.valueAt k) := by
  intro i hi
  have his : i < s.values.length := by rwa [length_values]
  have hiw : i < w.values.length := by rwa [length_values, hsize]
  have hls := hs.length_of_mem_values (List.getElem_mem his)
  have hlw := hw.length_of_mem_values (List.getElem_mem hiw)
  rw [valueAt_eq, valueAt_eq, valueAt_eq, h]
  simp [his, hiw, hls, hlw, hterms, hk]

omit [Field K] [LinearOrder K] in
theorem terms_of_map {f : K → K} (h : u.values = s.values.map (List.map f)) :
    u.terms = s.terms := by
  rw [terms_eq_values, h, terms_eq_values]
  cases s.values <;> simp

omit [LinearOrder K] in
theorem terms_of_zipWith (hsize : w.store.size = s.store.size) (hterms : w.terms = s.terms)
    (h : u.values = List.zipWith (List.zipWith (· + ·)) s.values w.values) :
    u.terms = s.terms := by
  rw [← length_values, ← length_values] at hsize
  rw [terms_eq_values, terms_eq_values] at hterms
  rw [terms_eq_values, terms_eq_values, h]
  cases hs : s.values with
  | nil => simp
  | cons v l =>
    cases hw : w.values with
    | nil => simp [hs, hw] at hsize
    | cons v' l' =>
      have hlen : v'.length = v.length := by simpa [hs, hw] using hterms
      simp [hlen]

variable [IsStrictOrderedRing K]

section Blends

variable {f : Scheme.Family} {shapes : Array K}

theorem Grown.admits_of_blends (hs : s.Grown) (hb : s.build = .ok cs) (hk : k < s.terms)
    (hf : cs.ruleAt k = .blends f shapes) :
    s.kind.family? = some f ∧ ∀ j, f.Admits (nth shapes j) := by
  have hprepare := prepare_of_build hb hk
  rw [hf] at hprepare
  have hfamily := Rule.family_of_prepare hprepare
  obtain ⟨shapes', hrule, hacts⟩ := ruleOf_family hfamily (ruleAt_of_build hb hk)
  rw [hf] at hrule
  cases hrule
  exact ⟨hfamily, fun j => hs.admits_of_actsWith hfamily (hacts j)⟩

/-- The blends of a finalized X-spline divide by sums that are not zero. -/
theorem Grown.total_ne_zero (hs : s.Grown) (hb : s.build = .ok cs) (hk : k < s.terms)
    (hf : cs.ruleAt k = .blends f shapes) {t : K} (hl : s.parameterAt 0 < t)
    (hr : t < s.parameterAt (s.store.size - 1)) :
    (Scheme.blendWeights f s.store.size s.parameterAt (nth shapes)
      (segment s.store.size s.parameterAt t) t).total ≠ 0 := by
  obtain ⟨hx, hn⟩ := points_of_build hb
  obtain ⟨hfamily, hadmits⟩ := hs.admits_of_blends hb hk hf
  rw [(Kind.points_of_family hfamily).1] at hn
  obtain ⟨hleft, hright, -⟩ := segment_spec hx hl.le hr hn
  exact (Scheme.blendWeights_total_pos hadmits hleft hright).ne'

end Blends

/-- A live spline in the frame of two finalized ones whose values are combined of theirs. -/
theorem Grown.exists_combined {g : Nat → K} (hs : s.Grown) (hcs : s.build = .ok cs)
    (hcw : w.build = .ok cw) (hw : s.SameFrame w) (hu : s.SameFrame u)
    (alive : u.destroyed = false) (hws : w.terms = s.terms) (hus : u.terms = s.terms)
    (hakima : s.kind = .akima → b = 0)
    (h : ∀ k < s.terms, Combined s.store.size a b (g k) (s.valueAt k) (w.valueAt k)
      (u.valueAt k)) :
    ∃ cu, u.build = .ok cu ∧ ∀ extrapolate t, cu.eval extrapolate t =
      (List.range s.terms).map fun k =>
        a * (cs.ruleAt k).eval extrapolate s.store.size s.parameterAt (s.valueAt k) t +
          b * (cw.ruleAt k).eval extrapolate s.store.size s.parameterAt (w.valueAt k) t + g k := by
  obtain ⟨hx, hn⟩ := points_of_build hcs
  obtain ⟨cu, hcu⟩ : ∃ cu, u.build = .ok cu := by
    apply exists_curve alive
    · rwa [hu.kind, hu.size]
    · rwa [hu.size, hu.parameterAt]
  refine ⟨cu, hcu, fun extrapolate t => ?_⟩
  rw [eval_of_build hcu, hus, hu.size, hu.parameterAt]
  refine List.map_congr_left fun k hk => ?_
  have hk := List.mem_range.1 hk
  exact Rule.eval_combine (prepare_of_build hcs hk) (hw.prepare hcw (hws ▸ hk))
    (hu.prepare hcu (hus ▸ hk)) (h k hk) hx hn hakima
    (fun f shapes hf => hs.total_ne_zero hcs hk hf) extrapolate

/-- **Affine dependence on the values.** Take a finalized spline of any kind. A live spline in the
same frame whose values have `r` replaced by `a * r + b` in every component can be finalized, and so
is every component of what it answers, at every parameter. A spline whose values are all equal
answers nothing else. And a live spline in the frame of two finalized splines, whose values are the
sums of theirs, answers the sums of what they answer, unless it is an Akima spline. -/
theorem affine_in_values (hs : s.Grown) (hc : s.curve = some cs) (config : Config) :
    (∀ a b u, u.Grown → u.destroyed = false → s.SameFrame u →
      u.values = s.values.map (List.map fun r => a * r + b) →
      ∃ cu, u.build = .ok cu ∧ ∀ t, ∃ v, s.get config (.ok t) = .ok v ∧
        get config { u with curve := some cu } (.ok t) = .ok (v.map fun r => a * r + b)) ∧
    (∀ v, (∀ v' ∈ s.values, v' = v) → ∀ t, s.get config (.ok t) = .ok v) ∧
    (s.kind ≠ .akima → ∀ w cw u, w.Grown → w.curve = some cw → s.SameFrame w →
      w.terms = s.terms → u.Grown → u.destroyed = false → s.SameFrame u →
      u.values = List.zipWith (List.zipWith (· + ·)) s.values w.values →
      ∃ cu, u.build = .ok cu ∧ ∀ t, ∃ v v', s.get config (.ok t) = .ok v ∧
        w.get config (.ok t) = .ok v' ∧
        get config { u with curve := some cu } (.ok t) = .ok (List.zipWith (· + ·) v v')) := by
  have hcs := hs.coherent.curve cs hc
  refine ⟨fun a b u hu alive hframe hvalues => ?_, fun v hv t => ?_,
    fun hakima w cw u hw hcw hframe hterms hu alive hframe' hvalues => ?_⟩
  · have hus : u.terms = s.terms := terms_of_map hvalues
    obtain ⟨cu, hcu, heval⟩ := hs.exists_combined hcs hcs (.refl s) hframe alive rfl hus
      (fun _ => rfl) fun k hk => combined_of_map hs.coherent hvalues hk
    refine ⟨cu, hcu, fun t => ⟨_, hs.get_eq hc config t, ?_⟩⟩
    rw [(hu.rebuilt hcu).get_eq rfl, heval, eval_of_build hcs, List.map_map]
    refine congrArg _ (List.map_congr_left fun k _ => ?_)
    simp
  · have hvalue (k i : Nat) (hi : i < s.store.size) : s.valueAt k i = v.getD k 0 := by
      rw [← length_values] at hi
      have hvi := hv _ (List.getElem_mem hi)
      rw [valueAt_eq, List.getD_eq_getElem?_getD (l := s.values), List.getElem?_eq_getElem hi,
        Option.getD_some, hvi, Scalar.zero_eq]
    obtain ⟨cu, hcu, heval⟩ := hs.exists_combined (a := 0) (b := 0) (g := fun k => v.getD k 0) hcs
      hcs (.refl s) (.refl s) (build_eq_ok.1 hcs).1 rfl rfl (fun _ => rfl) fun k _ i hi => by
        rw [hvalue k i hi]
        ring
    obtain rfl : cs = cu := Except.ok.inj (hcs.symm.trans hcu)
    have hpos : 0 < s.values.length := by
      rw [length_values]
      have hguides := s.kind.guides_le
      have hn := (points_of_build hcs).2
      omega
    have hlen : v.length = s.terms := by
      rw [← hv _ (List.getElem_mem hpos)]
      exact hs.coherent.length_of_mem_values (List.getElem_mem hpos)
    rw [hs.get_eq hc, heval, ← hlen]
    simp only [zero_mul, zero_add]
    exact congrArg _ (Curve.map_getD_range v 0)
  · have hus : u.terms = s.terms := terms_of_zipWith hframe.size hterms hvalues
    have hcw := hw.coherent.curve cw hcw
    obtain ⟨cu, hcu, heval⟩ := hs.exists_combined hcs hcw hframe hframe' alive hterms hus
      (fun h => absurd h hakima) fun k hk =>
        combined_of_zipWith hs.coherent hw.coherent hframe.size hterms hvalues hk
    refine ⟨cu, hcu, fun t => ⟨_, _, hs.get_eq hc config t,
      hw.get_eq ‹_› config t, ?_⟩⟩
    rw [(hu.rebuilt hcu).get_eq rfl, heval, eval_of_build hcs, eval_of_build hcw, hterms,
      hframe.size, hframe.parameterAt]
    apply congrArg
    apply List.ext_getElem
    · simp
    · intro k h1 h2
      simp

/-- Extended X-splines on three rational points: two of them with different values, one with those
of the first multiplied by -2 and moved by 3, and one with the sums. -/
theorem affine_in_values_extended :
    let s : Spline ℚ := (((empty .extendedX 0).place 3 [1, 0] (.shape (1 / 2))).place 0 [4, 1]
      (.shape 1)).place 7 [5, 2] (.shape (-1))
    let w : Spline ℚ := (((empty .extendedX 0).place 0 [6, 0] (.shape 1)).place 3 [2, 9]
      (.shape (1 / 2))).place 7 [0, 1] (.shape (-1))
    let u : Spline ℚ := (((empty .extendedX 0).place 3 [1, 3] (.shape (1 / 2))).place 0 [-5, 1]
      (.shape 1)).place 7 [-7, -1] (.shape (-1))
    let p : Spline ℚ := (((empty .extendedX 0).place 7 [5, 3] (.shape (-1))).place 0 [10, 1]
      (.shape 1)).place 3 [3, 9] (.shape (1 / 2))
    ∃ cs cw cu cp, s.build = .ok cs ∧ w.build = .ok cw ∧ u.build = .ok cu ∧ p.build = .ok cp ∧
      ∀ t, ∃ v v', get .builtin { s with curve := some cs } (.ok t) = .ok v ∧
        get .builtin { w with curve := some cw } (.ok t) = .ok v' ∧
        get .builtin { u with curve := some cu } (.ok t) = .ok (v.map fun r => -2 * r + 3) ∧
        get .builtin { p with curve := some cp } (.ok t) = .ok (List.zipWith (· + ·) v v') := by
  intro s w u p
  obtain ⟨hs, hw, hu, hp⟩ : s.Grown ∧ w.Grown ∧ u.Grown ∧ p.Grown := by
    refine ⟨?_, ?_, ?_, ?_⟩
    all_goals
      refine .place_shape (.place_shape (.place_shape (.empty .extendedX 0) rfl rfl (by decide) ?_
        ?_ ?_) rfl rfl (by decide) ?_ ?_ ?_) rfl rfl (by decide) ?_ ?_ ?_
      all_goals decide +kernel
  obtain ⟨cs, hcs⟩ : ∃ c, s.build = .ok c := exists_ok_of_isOk (by decide +kernel)
  obtain ⟨cw, hcw⟩ : ∃ c, w.build = .ok c := exists_ok_of_isOk (by decide +kernel)
  have hsw : s.SameFrame w :=
    ⟨rfl, by decide +kernel, by decide +kernel, by decide +kernel⟩
  have hsu : s.SameFrame u :=
    ⟨rfl, by decide +kernel, by decide +kernel, by decide +kernel⟩
  have hsp : s.SameFrame p :=
    ⟨rfl, by decide +kernel, by decide +kernel, by decide +kernel⟩
  have hmapped : u.values = s.values.map (List.map fun r => -2 * r + 3) := by decide +kernel
  have hadded : p.values = List.zipWith (List.zipWith (· + ·)) s.values w.values := by
    decide +kernel
  have hterms : w.terms = s.terms := by decide +kernel
  have hakima : s.kind ≠ .akima := by decide
  obtain ⟨haffine, -, hsum⟩ := affine_in_values (hs.rebuilt hcs) rfl .builtin
  obtain ⟨cu, hcu, hgetu⟩ := haffine (-2) 3 u hu rfl ⟨hsu.1, hsu.2, hsu.3, hsu.4⟩ hmapped
  obtain ⟨cp, hcp, hgetp⟩ := hsum hakima { w with curve := some cw } cw p (hw.rebuilt hcw) rfl
    ⟨hsw.1, hsw.2, hsw.3, hsw.4⟩ hterms hp rfl ⟨hsp.1, hsp.2, hsp.3, hsp.4⟩ hadded
  refine ⟨cs, cw, cu, cp, hcs, hcw, hcu, hcp, fun t => ?_⟩
  obtain ⟨v, hv, hvu⟩ := hgetu t
  obtain ⟨v₀, v', hv₀, hv', hvp⟩ := hgetp t
  obtain rfl : v = v₀ := Except.ok.inj (hv.symm.trans hv₀)
  exact ⟨v, v', hv, hv', hvu, hvp⟩

end Spline

end CurveKit
