import CurveKit.Proofs.Exact.Chord
import CurveKit.Proofs.Exact.Join

/-!
# Slopes of cubic curves at their control points

Two cubics meet at a control point between the ends. A Hermite piece is written in its
position in the segment, so its slope in the parameter is its tangent divided by the length
of the segment, and a tangent has to be scaled to that length on either side for the slopes
to agree. Cubics that are made from slopes carry them as they are. In exact arithmetic the
Catmull-Rom, the guided and the Akima curves pass a control point with one slope for all
spacings. A Kochanek-Bartels curve has two, which its two triples mix from the same
differences.

Results:
* `Scheme.hasDerivAt_hermite`, `Scheme.hasDerivAt_cubicPiece`: the slopes of a piece at its ends.
* `Scheme.chordTangent_div`, `Scheme.incomingTangent_div`, `Scheme.outgoingTangent_div`: tangents
  in terms of the parameter.
* `Rule.passes_of_catmullRom`, `Rule.passes_of_sor`, `Rule.passes_of_akima`, `Rule.passes_of_tcb`:
  the slopes on both sides of a control point.
* `Rule.Joined.hasDerivWithinAt`: the slopes of the curve are those of its formulas.
* `Spline.passes_with_slopes`: the same for every finalized spline.
-/
namespace CurveKit

open Filter Topology
open scoped Exact

/-! ## The formulas -/

namespace Scheme

section Values

variable {K : Type} [Field K] [LinearOrder K] {n i : Nat} {x y : Nat → K} {p : Tcb K}

def incomingSlope (x y : Nat → K) (p : Tcb K) (i : Nat) : K :=
  (1 - p.tension) * ((1 - p.continuity) * (1 + p.bias) * (y i - y (i - 1)) +
    (1 + p.continuity) * (1 - p.bias) * (y (i + 1) - y i)) / (x (i + 1) - x (i - 1))

def outgoingSlope (x y : Nat → K) (p : Tcb K) (i : Nat) : K :=
  (1 - p.tension) * ((1 + p.continuity) * (1 + p.bias) * (y i - y (i - 1)) +
    (1 - p.continuity) * (1 - p.bias) * (y (i + 1) - y i)) / (x (i + 1) - x (i - 1))

omit [LinearOrder K] in
theorem incomingSlope_of_tension (h : p.tension = 1) : incomingSlope x y p i = 0 := by
  rw [incomingSlope, h, sub_self, zero_mul, zero_div]

omit [LinearOrder K] in
theorem outgoingSlope_of_tension (h : p.tension = 1) : outgoingSlope x y p i = 0 := by
  rw [outgoingSlope, h, sub_self, zero_mul, zero_div]

omit [LinearOrder K] in
/-- Without continuity a triple mixes the differences in one way on both sides. -/
theorem incomingSlope_eq_outgoingSlope (h : p.continuity = 0) :
    incomingSlope x y p i = outgoingSlope x y p i := by
  rw [incomingSlope, outgoingSlope, h, sub_zero, add_zero]

/-- The chord between the neighbours of an inner point, per unit of the parameter. -/
theorem chordTangent_div (hi : i + 2 < n) {length : K} (hl : length ≠ 0) :
    chordTangent n x y (i + 1) length / length = (y (i + 2) - y i) / (x (i + 2) - x i) := by
  have hnext : min (i + 1 + 1) (n - 1) = i + 2 := by omega
  simp only [chordTangent, hnext, Nat.add_sub_cancel]
  rw [mul_div_assoc, div_div_cancel_left' hl, div_eq_mul_inv]

variable [IsStrictOrderedRing K]

section Tangents

variable (hx : Ascending n x) (hi : i + 2 < n)

include hx hi

/-- The segments on both sides of an inner point, which reach from neighbour to neighbour. -/
theorem lengths_pos : 0 < x (i + 1) - x i ∧ 0 < x (i + 2) - x (i + 1) ∧ 0 < x (i + 2) - x i :=
  ⟨sub_pos.2 (hx i (i + 1) (by omega) (by omega)),
    sub_pos.2 (hx (i + 1) (i + 2) (by omega) hi), sub_pos.2 (hx i (i + 2) (by omega) hi)⟩

theorem incomingTangent_div : incomingTangent n x y p (i + 1) / (x (i + 1) - x i) =
    incomingSlope x y p (i + 1) := by
  obtain ⟨hbefore, -, hspan⟩ := lengths_pos hx hi
  have hsum : x (i + 1) - x i + (x (i + 2) - x (i + 1)) = x (i + 2) - x i := by ring
  simp only [incomingTangent, incomingScale, incomingMix, incomingSlope, backward_succ,
    forward_of_lt _ hi, hsum, Nat.add_sub_cancel, Scalar.ofNat_eq, Scalar.one_eq]
  field_simp

theorem outgoingTangent_div : outgoingTangent n x y p (i + 1) / (x (i + 2) - x (i + 1)) =
    outgoingSlope x y p (i + 1) := by
  obtain ⟨-, hbehind, hspan⟩ := lengths_pos hx hi
  have hsum : x (i + 1) - x i + (x (i + 2) - x (i + 1)) = x (i + 2) - x i := by ring
  simp only [outgoingTangent, outgoingScale, outgoingMix, outgoingSlope, backward_succ,
    forward_of_lt _ hi, hsum, Nat.add_sub_cancel, Scalar.ofNat_eq, Scalar.one_eq]
  field_simp

end Tangents

end Values

section Derivatives

variable {K : Type} [NontriviallyNormedField K] [LinearOrder K] {i : Nat} {x y : Nat → K}

omit [LinearOrder K] in
/-- A cubic in powers of the distance from a point has its linear coefficient for a slope there. -/
theorem hasDerivAt_of_powers {f : K → K} {a v m p q : K}
    (h : ∀ t, f t = v + m * (t - a) + (t - a) ^ 2 * (p + q * (t - a))) : HasDerivAt f m a := by
  have hdistance : HasDerivAt (fun t => t - a) 1 a := (hasDerivAt_id a).sub_const a
  have hcubic := ((hdistance.const_mul m).const_add v).add
    ((hdistance.pow 2).mul ((hdistance.const_mul q).const_add p))
  rw [funext h]
  refine hcubic.congr_deriv ?_
  simp

/-- The slopes of a Hermite piece at its ends are its tangents, per unit of the parameter. -/
theorem hasDerivAt_hermite (h : x i < x (i + 1)) (v0 v1 m0 m1 : K) :
    HasDerivAt (fun t => hermite ((t - x i) / (x (i + 1) - x i)) v0 v1 m0 m1)
      (m0 / (x (i + 1) - x i)) (x i) ∧
    HasDerivAt (fun t => hermite ((t - x i) / (x (i + 1) - x i)) v0 v1 m0 m1)
      (m1 / (x (i + 1) - x i)) (x (i + 1)) := by
  have hne : x (i + 1) - x i ≠ 0 := sub_ne_zero.2 h.ne'
  constructor
  · refine hasDerivAt_of_powers (v := v0)
      (p := (3 * (v1 - v0) - 2 * m0 - m1) / (x (i + 1) - x i) ^ 2)
      (q := (2 * (v0 - v1) + m0 + m1) / (x (i + 1) - x i) ^ 3) fun t => ?_
    simp only [hermite, Scalar.ofNat_eq, Scalar.one_eq]
    field_simp
    ring
  · refine hasDerivAt_of_powers (v := v1)
      (p := (3 * (v0 - v1) + m0 + 2 * m1) / (x (i + 1) - x i) ^ 2)
      (q := (2 * (v0 - v1) + m0 + m1) / (x (i + 1) - x i) ^ 3) fun t => ?_
    simp only [hermite, Scalar.ofNat_eq, Scalar.one_eq]
    field_simp
    ring

/-- A cubic that is made from slopes has them at its ends. -/
theorem hasDerivAt_cubicPiece {p : Nat → Cubic K} {m : Nat → K} (hp : p i = slopeCubic x y m i)
    (h : x i < x (i + 1)) :
    HasDerivAt (cubicPiece x p i) (m i) (x i) ∧
      HasDerivAt (cubicPiece x p i) (m (i + 1)) (x (i + 1)) := by
  have hne : x (i + 1) - x i ≠ 0 := sub_ne_zero.2 h.ne'
  constructor
  · refine hasDerivAt_of_powers (v := y i)
      (p := (3 * secant x y i - 2 * m i - m (i + 1)) / (x (i + 1) - x i))
      (q := (m i + m (i + 1) - 2 * secant x y i) / (x (i + 1) - x i) ^ 2) fun t => ?_
    rw [cubicPiece, hp]
    simp only [Cubic.eval, slopeCubic, Scalar.ofNat_eq]
    field_simp
    ring
  · refine hasDerivAt_of_powers (v := y (i + 1))
      (p := (m i + 2 * m (i + 1) - 3 * secant x y i) / (x (i + 1) - x i))
      (q := (m i + m (i + 1) - 2 * secant x y i) / (x (i + 1) - x i) ^ 2) fun t => ?_
    rw [cubicPiece, hp]
    simp only [Cubic.eval, slopeCubic, secant, Scalar.ofNat_eq]
    field_simp
    ring

end Derivatives

end Scheme

/-! ## The rules of the schemes -/

namespace Rule

variable {K : Type} [NontriviallyNormedField K] [LinearOrder K] {n i : Nat} {x y : Nat → K}
  {r : Rule K} {a b : K}

/-- The formula before control point `i` reaches it with the slope `a`, and the one behind leaves
it with the slope `b`. -/
structure Passes (r : Rule K) (n : Nat) (x y : Nat → K) (i : Nat) (a b : K) : Prop where
  arrives : HasDerivAt (r.piece n x y (i - 1)) a (x i)
  leaves : HasDerivAt (r.piece n x y i) b (x i)

section Prepared

variable [IsStrictOrderedRing K] {bend : Nat → Bend K} {shape : K} (hx : Ascending n x)
  (hi : i + 2 < n)

include hx hi

theorem passes_of_catmullRom (h : prepare .catmullRom n x y bend shape = .ok r) :
    r.Passes n x y (i + 1) ((y (i + 2) - y i) / (x (i + 2) - x i))
      ((y (i + 2) - y i) / (x (i + 2) - x i)) := by
  obtain ⟨hbefore, hbehind, -⟩ := Scheme.lengths_pos hx hi
  cases h
  constructor
  · rw [← Scheme.chordTangent_div hi hbefore.ne']
    exact (Scheme.hasDerivAt_hermite (sub_pos.1 hbefore) _ _ _ _).2
  · rw [← Scheme.chordTangent_div hi hbehind.ne']
    exact (Scheme.hasDerivAt_hermite (sub_pos.1 hbehind) _ _ _ _).1

theorem hasDerivAt_of_slopes {p : Nat → Scheme.Cubic K} {m : Nat → K}
    (hp : ∀ j, j + 1 < n → p j = Scheme.slopeCubic x y m j) :
    HasDerivAt (Scheme.cubicPiece x p i) (m (i + 1)) (x (i + 1)) ∧
      HasDerivAt (Scheme.cubicPiece x p (i + 1)) (m (i + 1)) (x (i + 1)) := by
  obtain ⟨hbefore, hbehind, -⟩ := Scheme.lengths_pos hx hi
  exact ⟨(Scheme.hasDerivAt_cubicPiece (hp i (by omega)) (sub_pos.1 hbefore)).2,
    (Scheme.hasDerivAt_cubicPiece (hp (i + 1) hi) (sub_pos.1 hbehind)).1⟩

theorem passes_of_sor (h : prepare .sor n x y bend shape = .ok r) :
    r.Passes n x y (i + 1) ((y (i + 2) - y i) / (x (i + 2) - x i))
      ((y (i + 2) - y i) / (x (i + 2) - x i)) := by
  have hslope : Scheme.chordSlope n x y (i + 1) = (y (i + 2) - y i) / (x (i + 2) - x i) := by
    simp [Scheme.chordSlope, hi.ne]
  cases h
  rw [← hslope]
  obtain ⟨harrives, hleaves⟩ := hasDerivAt_of_slopes hx hi (m := Scheme.chordSlope n x y)
    fun j hj => nthCubic_tabulate _ (show j < n - 1 by omega)
  exact ⟨harrives, hleaves⟩

theorem passes_of_akima (h : prepare .akima n x y bend shape = .ok r) :
    r.Passes n x y (i + 1) (Scheme.akimaSlope n x y (i + 1)) (Scheme.akimaSlope n x y (i + 1)) := by
  cases h
  obtain ⟨harrives, hleaves⟩ := hasDerivAt_of_slopes hx hi (m := Scheme.akimaSlope n x y)
    fun j hj => nthCubic_tabulate _ (show j < n - 1 by omega)
  exact ⟨harrives, hleaves⟩

theorem passes_of_tcb (h : prepare .tcb n x y bend shape = .ok r) :
    r.Passes n x y (i + 1) (Scheme.incomingSlope x y ((bend (i + 1)).triple .incoming) (i + 1))
      (Scheme.outgoingSlope x y ((bend (i + 1)).triple .outgoing) (i + 1)) := by
  obtain ⟨hbefore, hbehind, -⟩ := Scheme.lengths_pos hx hi
  cases h
  constructor
  · rw [← Scheme.incomingTangent_div hx hi, ← nth_tabulate (fun j => Scheme.incomingTangent n x y
      ((bend j).triple .incoming) j) (show i + 1 < n by omega)]
    exact (Scheme.hasDerivAt_hermite (sub_pos.1 hbefore) _ _ _ _).2
  · rw [← Scheme.outgoingTangent_div hx hi, ← nth_tabulate (fun j => Scheme.outgoingTangent n x y
      ((bend j).triple .outgoing) j) (show i + 1 < n by omega)]
    exact (Scheme.hasDerivAt_hermite (sub_pos.1 hbehind) _ _ _ _).1

end Prepared

variable [OrderTopology K]

/-- From each side a component has the slope of the formula there. -/
theorem Joined.hasDerivWithinAt (h : r.Joined n x y) (hx : Ascending n x)
    (hp : r.Passes n x y (i + 1) a b) (hi : r.guides ≤ i) (hin : i + 2 + r.guides < n)
    (extrapolate : Bool) :
    HasDerivWithinAt (r.eval extrapolate n x y) a (Set.Iic (x (i + 1))) (x (i + 1)) ∧
      HasDerivWithinAt (r.eval extrapolate n x y) b (Set.Ici (x (i + 1))) (x (i + 1)) := by
  have hn : 2 * r.guides + 2 ≤ n := by omega
  have hbefore : x i < x (i + 1) := hx i (i + 1) (by omega) (by omega)
  have hbehind : x (i + 1) < x (i + 2) := hx (i + 1) (i + 2) (by omega) (by omega)
  constructor
  · refine hp.arrives.hasDerivWithinAt.congr_of_eventuallyEq ?_ ?_
    · filter_upwards [Icc_mem_nhdsLE hbefore] with t ht
      exact h.eval_segment hx hn hi (by omega) ht.1 ht.2
    · exact h.eval_segment hx hn hi (by omega) hbefore.le (le_refl _)
  · refine hp.leaves.hasDerivWithinAt.congr_of_eventuallyEq ?_ ?_
    · filter_upwards [Icc_mem_nhdsGE hbehind] with t ht
      exact h.eval_segment hx hn (by omega) (by omega) ht.1 ht.2
    · exact h.eval_segment hx hn (by omega) (by omega) (le_refl _) hbehind.le

end Rule

/-! ## Splines -/

section Curves

variable {K : Type} [NontriviallyNormedField K] [LinearOrder K] {c : Curve K} {extrapolate : Bool}
  {k i : Nat} {t a b : K}

/-- Component `k` of a curve reaches the parameter `t`, at which segment `i` starts, with the slope
`a` and leaves it with the slope `b`: these are the slopes of the two formulas that meet there, and
those of the curve from both sides. -/
structure Curve.SlopesAt (c : Curve K) (extrapolate : Bool) (k i : Nat) (t a b : K) : Prop where
  arrives : HasDerivAt (fun u => (c.piece (i - 1) u).getD k 0) a t
  leaves : HasDerivAt (fun u => (c.piece i u).getD k 0) b t
  before : HasDerivWithinAt (fun u => (c.eval extrapolate u).getD k 0) a (Set.Iic t) t
  behind : HasDerivWithinAt (fun u => (c.eval extrapolate u).getD k 0) b (Set.Ici t) t

theorem Curve.SlopesAt.hasDerivAt (h : c.SlopesAt extrapolate k i t a b) (hab : a = b) :
    HasDerivAt (fun u => (c.eval extrapolate u).getD k 0) a t := by
  have hunion := h.before.union (hab ▸ h.behind)
  rwa [Set.Iic_union_Ici, hasDerivWithinAt_univ] at hunion

end Curves

namespace Spline

variable {K : Type} [NontriviallyNormedField K] [LinearOrder K] [OrderTopology K] {s : Spline K}
  {c : Curve K} {k i : Nat}

theorem slopesAt_of_passes {a b : K} (hb : s.build = .ok c) (hf : s.kind.family? = none)
    (hk : k < s.terms) (hi : s.kind.guides ≤ i) (hin : i + 2 + s.kind.guides < s.store.size)
    (hp : (c.ruleAt k).Passes s.store.size s.parameterAt (s.valueAt k) (i + 1) a b)
    (extrapolate : Bool) : c.SlopesAt extrapolate k (i + 1) (s.parameterAt (i + 1)) a b := by
  obtain ⟨hx, hn⟩ := points_of_build hb
  have hprepare := prepare_of_build hb hk
  rw [← Rule.guides_of_prepare hprepare] at hi hin
  have hjoined := Rule.joined_of_links
    (fun i hi => Rule.links_of_prepare hprepare hf hx hn hi) (by omega)
  obtain ⟨hbefore, hbehind⟩ := hjoined.hasDerivWithinAt hx hp hi hin extrapolate
  have hpiece (j : Nat) : (fun u => (c.piece j u).getD k 0) =
      (c.ruleAt k).piece s.store.size s.parameterAt (s.valueAt k) j := by
    funext u
    simp [piece_of_build hb, hk]
  have heval : (fun u => (c.eval extrapolate u).getD k 0) =
      (c.ruleAt k).eval extrapolate s.store.size s.parameterAt (s.valueAt k) := by
    funext u
    simp [eval_of_build hb, hk]
  constructor
  · rw [hpiece]
    exact hp.arrives
  · rw [hpiece]
    exact hp.leaves
  · rw [heval]
    exact hbefore
  · rw [heval]
    exact hbehind

/-- **Slopes at the control points.** Take a control point strictly between the ends of a finalized
spline, for any spacing. A Catmull-Rom and a guided spline pass it with the slope of the chord
between its neighbours, and an Akima spline with Akima's slope; both formulas that meet there have
it, and so the curve has a derivative. A Kochanek-Bartels spline reaches it with the slope that its
incoming triple mixes, and leaves it with the one that its outgoing triple mixes. They agree if the
triples are one with continuity 0, and each of them is 0 for the tension 1. -/
theorem passes_with_slopes [IsStrictOrderedRing K] (hg : s.Grown) (hc : s.curve = some c)
    (config : Config) (hk : k < s.terms) (hi : s.kind.guides < i)
    (hin : i + 1 + s.kind.guides < s.store.size) :
    let x := s.parameterAt
    let y := s.valueAt k
    let e := config.isOn .extrapolate
    let f := fun t => (c.eval e t).getD k 0
    (∀ t, s.get config (.ok t) = .ok (c.eval e t)) ∧
    (s.kind = .catmullRom ∨ s.kind = .sor →
      let m := (y (i + 1) - y (i - 1)) / (x (i + 1) - x (i - 1))
      c.SlopesAt e k i (x i) m m ∧ HasDerivAt f m (x i)) ∧
    (s.kind = .akima →
      let m := Scheme.akimaSlope s.store.size x y i
      c.SlopesAt e k i (x i) m m ∧ HasDerivAt f m (x i)) ∧
    (s.kind = .tcb →
      let p := (s.bendAt i).triple .incoming
      let q := (s.bendAt i).triple .outgoing
      let l := Scheme.incomingSlope x y p i
      let r := Scheme.outgoingSlope x y q i
      c.SlopesAt e k i (x i) l r ∧ (p = q → p.continuity = 0 → l = r ∧ HasDerivAt f l (x i)) ∧
        (p.tension = 1 → l = 0) ∧ (q.tension = 1 → r = 0)) := by
  intro x y e f
  have hb := hg.coherent.curve c hc
  obtain ⟨hx, -⟩ := points_of_build hb
  have hprepare := prepare_of_build hb hk
  obtain ⟨j, rfl⟩ : ∃ j, i = j + 1 := ⟨i - 1, by omega⟩
  have hj : s.kind.guides ≤ j := by omega
  have hjn : j + 2 + s.kind.guides < s.store.size := by omega
  have hinner : j + 2 < s.store.size := by omega
  refine ⟨hg.get_eq hc config, ?_, ?_, ?_⟩
  · intro hkind m
    have hpasses : (c.ruleAt k).Passes s.store.size x y (j + 1) m m := by
      rcases hkind with hkind | hkind
      · exact Rule.passes_of_catmullRom hx hinner (hkind ▸ hprepare)
      · exact Rule.passes_of_sor hx hinner (hkind ▸ hprepare)
    have hf : s.kind.family? = none := by rcases hkind with hkind | hkind <;> rw [hkind] <;> rfl
    have hslopes := slopesAt_of_passes hb hf hk hj hjn hpasses e
    exact ⟨hslopes, hslopes.hasDerivAt rfl⟩
  · intro hkind m
    have hpasses := Rule.passes_of_akima hx hinner (hkind ▸ hprepare)
    have hslopes := slopesAt_of_passes hb (hkind ▸ rfl) hk hj hjn hpasses e
    exact ⟨hslopes, hslopes.hasDerivAt rfl⟩
  · intro hkind p q l r
    have hpasses := Rule.passes_of_tcb hx hinner (hkind ▸ hprepare)
    have hslopes := slopesAt_of_passes hb (hkind ▸ rfl) hk hj hjn hpasses e
    refine ⟨hslopes, fun hpq hcontinuity => ?_, Scheme.incomingSlope_of_tension,
      Scheme.outgoingSlope_of_tension⟩
    have hlr : l = r := by
      rw [show r = Scheme.outgoingSlope x y p (j + 1) by rw [hpq]]
      exact Scheme.incomingSlope_eq_outgoingSlope hcontinuity
    exact ⟨hlr, hslopes.hasDerivAt hlr⟩

/-- Rational points with uneven spacing: a Kochanek-Bartels curve with a corner, and a guided one,
which has none. -/
theorem passes_with_slopes_uneven :
    let s : Spline ℚ := (((empty .tcb 0).place 3 [2] (.tcb ⟨0, 0, 0⟩ ⟨0, 0, 0⟩)).place 0 [1]
      (.tcb ⟨0, 0, 0⟩ ⟨0, 0, 0⟩)).place 1 [4] (.tcb ⟨0, 0, 1⟩ ⟨1 / 2, 1, 0⟩)
    let u : Spline ℚ := (((((empty .sor 0).place 4 [5] .none).place 0 [4] .none).place 8 [0]
      .none).place 1 [2] .none).place 3 [1] .none
    (∃ c, s.build = .ok c ∧ c.SlopesAt true 0 1 1 (-4 / 3) 1) ∧
      ∃ d, u.build = .ok d ∧ HasDerivAt (fun t => (d.eval true t).getD 0 0) 1 3 := by
  intro s u
  constructor
  · have hs : s.Grown := by
      refine .place_pair (.place_pair (.place_pair (.empty .tcb 0) rfl rfl (by decide) ?_ _ _) rfl
        rfl (by decide) ?_ _ _) rfl rfl (by decide) ?_ _ _
      all_goals decide +kernel
    obtain ⟨c, hc⟩ : ∃ c, s.build = .ok c := exists_ok_of_isOk (by decide +kernel)
    have hterms : 0 < s.terms := by decide +kernel
    have hinner : 1 + 1 + s.kind.guides < s.store.size := by decide +kernel
    let l := Scheme.incomingSlope s.parameterAt (s.valueAt 0) ((s.bendAt 1).triple .incoming) 1
    let r := Scheme.outgoingSlope s.parameterAt (s.valueAt 0) ((s.bendAt 1).triple .outgoing) 1
    have hpoint : s.parameterAt 1 = 1 := by decide +kernel
    have hleft : l = -4 / 3 := by decide +kernel
    have hright : r = 1 := by decide +kernel
    obtain ⟨-, -, -, htcb⟩ := passes_with_slopes (hs.rebuilt hc) rfl .builtin hterms
      (show s.kind.guides < 1 by decide) hinner
    have hslopes : c.SlopesAt true 0 1 (s.parameterAt 1) l r := (htcb rfl).1
    rw [hpoint, hleft, hright] at hslopes
    exact ⟨c, hc, hslopes⟩
  · have hu : u.Grown := by
      refine .place_plain (.place_plain (.place_plain (.place_plain (.place_plain (.empty .sor 0)
        rfl rfl (by decide) ?_) rfl rfl (by decide) ?_) rfl rfl (by decide) ?_) rfl rfl
        (by decide) ?_) rfl rfl (by decide) ?_
      all_goals decide +kernel
    obtain ⟨d, hd⟩ : ∃ d, u.build = .ok d := exists_ok_of_isOk (by decide +kernel)
    have hterms : 0 < u.terms := by decide +kernel
    have hinner : 2 + 1 + u.kind.guides < u.store.size := by decide +kernel
    let m := (u.valueAt 0 3 - u.valueAt 0 1) / (u.parameterAt 3 - u.parameterAt 1)
    have hpoint : u.parameterAt 2 = 3 := by decide +kernel
    have hslope : m = 1 := by decide +kernel
    obtain ⟨-, hguided, -⟩ := passes_with_slopes (hu.rebuilt hd) rfl .builtin hterms
      (show u.kind.guides < 2 by decide) hinner
    have hderiv : HasDerivAt (fun t => (d.eval true t).getD 0 0) m (u.parameterAt 2) :=
      (hguided (.inr rfl)).2
    rw [hpoint, hslope] at hderiv
    exact ⟨d, hd, hderiv⟩

end Spline

end CurveKit
