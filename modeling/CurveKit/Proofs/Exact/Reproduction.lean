import CurveKit.Proofs.Exact.Chord

/-!
# Curves through points on a polynomial

In exact arithmetic a scheme returns a polynomial whose values it is given, if the degree is
small enough. A parabola through three points is the only one. A cubic from slopes or
tangents is the polynomial if these are its derivative: a chord between the neighbours of a
point has the slope of a parabola there if the point is in the middle, and of a straight line
always. On evenly spaced parameters the secants of a parabola grow evenly, so those that
Akima extrapolates beyond the ends do, and all his weights are the same or all are zero. Values
on a straight line have no second derivatives.

Results:
* `Scheme.linePiece_trinomial`, `Scheme.parabolaPiece_trinomial`, `Scheme.naturalPiece_trinomial`,
  `Scheme.catmullRomPiece_trinomial`, `Scheme.cubicPiece_trinomial`: the formulas of the schemes.
* `Scheme.chordSlope_trinomial`, `Scheme.akimaSlope_trinomial`: the slopes that make them so.
* `Returns`: which degrees a kind returns, and at which parameters.
* `Rule.eval_of_returns`: a component of values on a polynomial.
* `Spline.returns_polynomials`: the same for every spline on such values.
-/
namespace CurveKit

open scoped Exact

open scoped Polynomial

variable {K : Type} [Field K] [LinearOrder K] {n i : Nat} {x y : Nat → K} {a b c t : K}

/-! ## Polynomials of degree two -/

def trinomial (a b c t : K) : K := a + b * t + c * t ^ 2

def trinomialSlope (b c t : K) : K := b + c * (t + t)

omit [LinearOrder K] in
theorem eval_eq_trinomial {P : K[X]} (h : P.natDegree ≤ 2) (t : K) :
    P.eval t = trinomial (P.coeff 0) (P.coeff 1) (P.coeff 2) t := by
  rw [Polynomial.eval_eq_sum_range' (show P.natDegree < 3 by omega)]
  simp [Finset.sum_range_succ, trinomial]

omit [LinearOrder K] in
theorem chord_trinomial {u v : K} (h : u ≠ v) :
    (trinomial a b c v - trinomial a b c u) / (v - u) = b + c * (u + v) := by
  rw [div_eq_iff (sub_ne_zero.2 h.symm)]
  unfold trinomial
  ring

def Sampled (n : Nat) (a b c : K) (x y : Nat → K) : Prop :=
  ∀ i < n, y i = trinomial a b c (x i)

/-- The derivative of a polynomial grows evenly from each of `n` parameters to the next one: the
parameters are evenly spaced, or the polynomial has degree 1. -/
def Growing (n : Nat) (c : K) (x : Nat → K) : Prop :=
  ∀ i, i + 2 < n → c * (x (i + 2) - x (i + 1)) = c * (x (i + 1) - x i)

omit [LinearOrder K] in
theorem growing_of_even (h : ∀ i, i + 2 < n → x (i + 2) - x (i + 1) = x (i + 1) - x i) (c : K) :
    Growing n c x := by
  intro i hi
  rw [h i hi]

omit [LinearOrder K] in
theorem growing_zero (n : Nat) (x : Nat → K) : Growing n 0 x := by
  intro i _
  rw [zero_mul, zero_mul]

omit [LinearOrder K] in
/-- All parameters in terms of the first two. -/
theorem Growing.mul_eq (h : Growing n c x) (hi : i < n) :
    c * x i = c * x 0 + i * (c * (x 1 - x 0)) := by
  have hstep (j : Nat) : j + 1 < n → c * (x (j + 1) - x j) = c * (x 1 - x 0) := by
    induction j with
    | zero => intro _; rfl
    | succ j ih =>
      intro hj
      rw [h j hj, ih (by omega)]
  induction i with
  | zero => rw [Nat.cast_zero, zero_mul, add_zero]
  | succ i ih =>
    have hi' := ih (by omega)
    have hnext := hstep i hi
    push_cast
    linear_combination hi' + hnext

/-! ## The formulas -/

namespace Scheme

section Formulas

variable (h : Sampled n a b c x y) (hx : Ascending n x)

include h hx

theorem linePiece_trinomial (hc : c = 0) (hi : i + 1 < n) (t : K) :
    linePiece x y i t = trinomial a b c t := by
  have hne : x (i + 1) - x i ≠ 0 := sub_ne_zero.2 (hx i (i + 1) (by omega) hi).ne'
  rw [linePiece, h i (by omega), h (i + 1) hi, hc]
  simp only [trinomial]
  field_simp
  ring

/-- There is one polynomial of degree 2 through three points. -/
theorem parabolaPiece_trinomial (hi : i + 2 < n) (t : K) :
    parabolaPiece x y i t = trinomial a b c t := by
  have h01 : x i - x (i + 1) ≠ 0 := sub_ne_zero.2 (hx i (i + 1) (by omega) (by omega)).ne
  have h02 : x i - x (i + 2) ≠ 0 := sub_ne_zero.2 (hx i (i + 2) (by omega) hi).ne
  have h12 : x (i + 1) - x (i + 2) ≠ 0 := sub_ne_zero.2 (hx (i + 1) (i + 2) (by omega) hi).ne
  rw [parabolaPiece, h i (by omega), h (i + 1) (by omega), h (i + 2) hi,
    ← neg_sub (x i) (x (i + 1)), ← neg_sub (x i) (x (i + 2)), ← neg_sub (x (i + 1)) (x (i + 2))]
  simp only [trinomial]
  field_simp
  ring

/-- Without second derivatives a natural piece is a straight line. -/
theorem naturalPiece_trinomial (hc : c = 0) (hi : i + 1 < n) (t : K) :
    naturalPiece x y (fun _ => 0) i t = trinomial a b c t := by
  have hne : x (i + 1) - x i ≠ 0 := sub_ne_zero.2 (hx i (i + 1) (by omega) hi).ne'
  rw [naturalPiece, h i (by omega), h (i + 1) hi, hc]
  simp only [trinomial, mul_zero, add_zero, zero_mul, zero_div]
  field_simp
  ring

theorem secant_trinomial (hi : i + 1 < n) : secant x y i = b + c * (x i + x (i + 1)) := by
  rw [secant, h i (by omega), h (i + 1) hi]
  exact chord_trinomial (hx i (i + 1) (by omega) hi).ne

/-- The cubic with the slopes of the polynomial is the polynomial. -/
theorem cubicPiece_trinomial {p : Nat → Cubic K} {m : Nat → K} (hp : p i = slopeCubic x y m i)
    (hi : i + 1 < n) (h0 : m i = trinomialSlope b c (x i))
    (h1 : m (i + 1) = trinomialSlope b c (x (i + 1))) (t : K) :
    cubicPiece x p i t = trinomial a b c t := by
  have hne : x (i + 1) - x i ≠ 0 := sub_ne_zero.2 (hx i (i + 1) (by omega) hi).ne'
  have hsecant := secant_trinomial h hx hi
  have hquadratic : (3 * secant x y i - 2 * m i - m (i + 1)) / (x (i + 1) - x i) = c := by
    rw [div_eq_iff hne, hsecant, h0, h1]
    simp only [trinomialSlope]
    ring
  have hcubic : m i + m (i + 1) - 2 * secant x y i = 0 := by
    rw [hsecant, h0, h1]
    simp only [trinomialSlope]
    ring
  rw [cubicPiece, hp]
  simp only [Cubic.eval, slopeCubic, Scalar.ofNat_eq, hquadratic, hcubic]
  rw [h0, h i (by omega), zero_div]
  simp only [trinomial, trinomialSlope]
  ring

/-- A chord has the slope of the polynomial at a point that is in the middle of its neighbours. -/
theorem chordTangent_trinomial (hn : 2 ≤ n) (hi : i < n)
    (hmiddle : c * (x (i - 1) + x (min (i + 1) (n - 1))) = c * (x i + x i)) (length : K) :
    chordTangent n x y i length = length * trinomialSlope b c (x i) := by
  have hne : x (i - 1) ≠ x (min (i + 1) (n - 1)) := (hx _ _ (by omega) (by omega)).ne
  have hchord := chord_trinomial (a := a) (b := b) (c := c) hne
  rw [chordTangent, h _ (by omega), h _ (by omega), ← mul_div_assoc, mul_comm, mul_div_assoc,
    hchord, hmiddle]
  rfl

end Formulas

omit [LinearOrder K] in
theorem middle_of_growing (hc : Growing n c x) (h0 : 0 < i) (hi : i + 1 < n) :
    c * (x (i - 1) + x (i + 1)) = c * (x i + x i) := by
  obtain ⟨j, rfl⟩ : ∃ j, i = j + 1 := ⟨i - 1, by omega⟩
  have hstep := hc j hi
  rw [Nat.add_sub_cancel]
  linear_combination hstep

theorem hermite_trinomial {u v : K} (h : u ≠ v) (t : K) :
    hermite ((t - u) / (v - u)) (trinomial a b c u) (trinomial a b c v)
        ((v - u) * trinomialSlope b c u) ((v - u) * trinomialSlope b c v) =
      trinomial a b c t := by
  have hne : v - u ≠ 0 := sub_ne_zero.2 h.symm
  have ht : t = u + (t - u) / (v - u) * (v - u) := by
    rw [div_mul_cancel₀ _ hne, add_sub_cancel]
  conv_rhs => rw [ht]
  simp only [hermite, trinomial, trinomialSlope, Scalar.ofNat_eq, Scalar.one_eq]
  ring

theorem catmullRomPiece_trinomial (h : Sampled n a b c x y) (hx : Ascending n x) (hi : i + 1 < n)
    (hmiddle : ∀ j, j = i ∨ j = i + 1 →
      c * (x (j - 1) + x (min (j + 1) (n - 1))) = c * (x j + x j)) (t : K) :
    catmullRomPiece n x y i t = trinomial a b c t := by
  simp only [catmullRomPiece]
  rw [chordTangent_trinomial h hx (by omega) (by omega) (hmiddle i (.inl rfl)),
    chordTangent_trinomial h hx (by omega) hi (hmiddle (i + 1) (.inr rfl)), h i (by omega),
    h (i + 1) hi]
  exact hermite_trinomial (hx i (i + 1) (by omega) hi).ne t

/-! ### Slopes -/

theorem weightedSlope_self [IsStrictOrderedRing K] (before behind p : K) :
    weightedSlope before behind p p = (before + behind) / 2 := by
  rcases eq_or_ne p 0 with rfl | hp
  · simp [weightedSlope]
  · have htotal : p + p ≠ 0 := by
      rw [← two_mul]
      exact mul_ne_zero two_ne_zero hp
    simp only [weightedSlope, Scalar.zero_eq, beq_iff_eq, htotal, if_false]
    rw [← mul_add, ← two_mul, mul_comm 2 p, mul_div_mul_left _ _ hp]

section Slopes

variable (h : Sampled n a b c x y) (hx : Ascending n x) (hc : Growing n c x)

include h hx hc

theorem chordSlope_trinomial (h0 : 0 < i) (hi : i + 1 < n) :
    chordSlope n x y i = trinomialSlope b c (x i) := by
  have hfirst : (i == 0) = false := by simpa using h0.ne'
  have hlast : (i + 1 == n) = false := by simpa using hi.ne
  have hne : x (i - 1) ≠ x (i + 1) := (hx _ _ (by omega) hi).ne
  rw [chordSlope, hfirst, hlast, h _ hi, h (i - 1) (by omega)]
  simp only [Bool.false_eq_true, if_false]
  rw [chord_trinomial hne, middle_of_growing hc h0 hi]
  rfl

/-- The secants grow evenly, and those beyond the ends go on in the same way. -/
theorem paddedSecant_trinomial (hn : 3 ≤ n) (hi : i ≤ n + 2) :
    paddedSecant n x y i = b + 2 * (c * x 0) + (2 * i - 3) * (c * (x 1 - x 0)) := by
  have hsecant (j : Nat) (hj : j + 1 < n) :
      secant x y j = b + 2 * (c * x 0) + (2 * j + 1) * (c * (x 1 - x 0)) := by
    have hstart := hc.mul_eq (show j < n by omega)
    have hstop := hc.mul_eq hj
    rw [secant_trinomial h hx hj]
    push_cast at hstop
    linear_combination hstart + hstop
  obtain ⟨m, rfl⟩ : ∃ m, n = m + 3 := ⟨n - 3, by omega⟩
  have h0 := hsecant 0 (by omega)
  have h1 := hsecant 1 (by omega)
  have h2 := hsecant (m + 1) (by omega)
  have h3 := hsecant m (by omega)
  simp only [paddedSecant, beq_iff_eq, Scalar.ofNat_eq, Nat.add_sub_cancel,
    show m + 3 - 2 = m + 1 by omega, h0, h1, h2, h3]
  push_cast
  split
  · rename_i hi
    subst hi
    push_cast
    ring
  · split
    · rename_i hi
      subst hi
      push_cast
      ring
    · split
      · obtain ⟨j, rfl⟩ : ∃ j, i = j + 2 := ⟨i - 2, by omega⟩
        rw [Nat.add_sub_cancel, hsecant j (by omega)]
        push_cast
        ring
      · split
        · rename_i hi
          subst hi
          push_cast
          ring
        · obtain rfl : i = m + 3 + 2 := by omega
          push_cast
          ring

/-- All changes of secants are the same, so the slope is the mean of the secants on both sides. -/
theorem akimaSlope_trinomial [IsStrictOrderedRing K] (hn : 3 ≤ n) (hi : i < n) :
    akimaSlope n x y i = trinomialSlope b c (x i) := by
  have hpadded (j : Nat) (hj : j ≤ 3) := paddedSecant_trinomial h hx hc hn (i := i + j) (by omega)
  have h0 := hpadded 0 (by omega)
  have h1 := hpadded 1 (by omega)
  have h2 := hpadded 2 (by omega)
  have h3 := hpadded 3 (by omega)
  push_cast at h0 h1 h2 h3
  have hbehind : paddedSecant n x y (i + 3) - paddedSecant n x y (i + 2) =
      paddedSecant n x y (i + 1) - paddedSecant n x y i := by
    rw [h3, h2, h1, ← Nat.add_zero i, h0]
    push_cast
    ring
  simp only [akimaSlope]
  rw [hbehind, weightedSlope_self, h1, h2]
  have hxi := hc.mul_eq hi
  unfold trinomialSlope
  linear_combination -2 * hxi

end Slopes

end Scheme

/-! ## The rules of the schemes -/

def Within (n : Nat) (x : Nat → K) (guides : Nat) (t : K) : Prop :=
  x guides ≤ t ∧ t ≤ x (n - 1 - guides)

/-- The neighbouring ones of `n` parameters have the same distance everywhere. -/
def EvenlySpaced (n : Nat) (x : Nat → K) : Prop :=
  ∀ i, i + 2 < n → x (i + 2) - x (i + 1) = x (i + 1) - x i

/-- A kind returns polynomials up to a degree at a parameter. Lines and parabolas do so on their
whole curve, the other kinds between the ends; one degree more on evenly spaced parameters, where
chords need a neighbour on each side. -/
inductive Returns (n : Nat) (x : Nat → K) (bend : Nat → Bend K) (extrapolate : Bool) (t : K) :
    Kind → Nat → Prop
  | linear (h : extrapolate = true ∨ Within n x 0 t) : Returns n x bend extrapolate t .linear 1
  | quadratic (h : extrapolate = true ∨ Within n x 0 t) :
    Returns n x bend extrapolate t .quadratic 2
  | natural (h : Within n x 0 t) : Returns n x bend extrapolate t .natural 1
  | catmullRom (h : Within n x 0 t) : Returns n x bend extrapolate t .catmullRom 1
  | akima (h : Within n x 0 t) : Returns n x bend extrapolate t .akima 1
  | tcb (plain : ∀ i < n, ∀ side, (bend i).triple side = ⟨0, 0, 0⟩) (h : Within n x 0 t) :
    Returns n x bend extrapolate t .tcb 1
  | sor (h : Within n x 1 t) : Returns n x bend extrapolate t .sor 1
  | evenAkima (even : EvenlySpaced n x) (h : Within n x 0 t) :
    Returns n x bend extrapolate t .akima 2
  | evenSor (even : EvenlySpaced n x) (h : Within n x 1 t) : Returns n x bend extrapolate t .sor 2
  | evenCatmullRom (even : EvenlySpaced n x) (h : Within n x 1 t) :
    Returns n x bend extrapolate t .catmullRom 2

theorem Returns.le_two {bend : Nat → Bend K} {extrapolate : Bool} {kind : Kind} {d : Nat}
    (h : Returns n x bend extrapolate t kind d) : d ≤ 2 := by
  cases h <;> decide

namespace Rule

variable {kind : Kind} {bend : Nat → Bend K} {shape : K} {r : Rule K} {f : K → K}

/-- A component whose formulas agree with a function in some segments agrees with it from the start
of the first one to the end of the last one, if the values do. -/
theorem eval_of_piece (hr : prepare kind n x y bend shape = .ok r) (hf : kind.family? = none)
    (hx : Ascending n x) (hn : kind.minPoints ≤ n) (hy : ∀ i < n, y i = f (x i)) {g : Nat}
    (hg : kind.guides ≤ g) (ht : Within n x g t) (hgn : 2 * g + 2 ≤ n)
    (hpiece : ∀ i, g ≤ i → i + 1 + g < n → r.piece n x y i t = f t) (extrapolate : Bool) :
    r.eval extrapolate n x y t = f t := by
  have hguides := guides_of_prepare hr
  obtain ⟨hl, hlast⟩ := ht
  rcases hlast.eq_or_lt with rfl | hlt
  · have hlinks (i : Nat) (hi : i + 1 < n) := links_of_prepare hr hf hx hn hi
    rw [eval_of_links hlinks hx (by rw [hguides]; omega) extrapolate (by rw [hguides]; omega)
      (by rw [hguides]; omega), hy _ (by omega)]
  · have h0 : x 0 ≤ t := (hx.le (Nat.zero_le g) (by omega)).trans hl
    have h1 : t < x (n - 1) := hlt.trans_le (hx.le (by omega) (by omega))
    obtain ⟨hsl, hsr, hsn⟩ := segment_spec hx h0 h1 (by omega)
    have hfrom : g < segment n x t + 1 := (hx.lt_iff (by omega) hsn).1 (lt_of_le_of_lt hl hsr)
    have hto : segment n x t < n - 1 - g :=
      (hx.lt_iff (by omega) (by omega)).1 (lt_of_le_of_lt hsl hlt)
    have hinside := hpiece (segment n x t) (by omega) (by omega)
    rw [eval_eq, hguides]
    split
    · exact hinside
    · split
      · rename_i hfirst
        -- The parameter is that of the first point on the curve.
        have heq : t = x kind.guides :=
          le_antisymm hfirst ((hx.le hg (by omega)).trans hl)
        rw [hy _ (by omega), ← heq]
      · split
        · rename_i hstop
          exact absurd (lt_of_lt_of_le hlt (hx.le (by omega) (by omega))) (not_lt.2 hstop)
        · exact hinside

theorem eval_of_continues {extrapolate : Bool} (hc : r.continues extrapolate = true) (hn : 2 ≤ n)
    (hpiece : ∀ i, i + 1 < n → r.piece n x y i t = f t) : r.eval extrapolate n x y t = f t := by
  have hsegment := segment_le n x t
  rw [eval_eq, if_pos hc]
  exact hpiece _ (by omega)

theorem eval_of_pieces (hr : prepare kind n x y bend shape = .ok r) (hf : kind.family? = none)
    (hx : Ascending n x) (hn : kind.minPoints ≤ n) (hy : ∀ i < n, y i = f (x i))
    (hguides : kind.guides = 0) {extrapolate : Bool}
    (ht : r.continues extrapolate = true ∨ Within n x 0 t)
    (hpiece : ∀ i, i + 1 < n → r.piece n x y i t = f t) : r.eval extrapolate n x y t = f t := by
  have hmin := kind.guides_le
  rcases ht with hc | ht
  · exact eval_of_continues hc (by omega) hpiece
  · exact eval_of_piece hr hf hx hn hy hguides.le ht (by omega)
      (fun i _ hi => hpiece i (by omega)) extrapolate

theorem eval_sor (hr : prepare .sor n x y bend shape = .ok r) (hx : Ascending n x)
    (hn : 4 ≤ n) (hy : Sampled n a b c x y) (hc : Growing n c x) (ht : Within n x 1 t)
    (extrapolate : Bool) : r.eval extrapolate n x y t = trinomial a b c t := by
  refine eval_of_piece hr rfl hx hn hy (le_refl 1) ht hn (fun i h0 hi => ?_) extrapolate
  cases hr
  apply Scheme.cubicPiece_trinomial hy hx (nthCubic_tabulate _ (by omega)) (by omega)
  · exact Scheme.chordSlope_trinomial hy hx hc h0 (by omega)
  · exact Scheme.chordSlope_trinomial hy hx hc (by omega) hi

variable [IsStrictOrderedRing K]

theorem eval_akima (hr : prepare .akima n x y bend shape = .ok r) (hx : Ascending n x)
    (hn : 4 ≤ n) (hy : Sampled n a b c x y) (hc : Growing n c x) (ht : Within n x 0 t)
    (extrapolate : Bool) : r.eval extrapolate n x y t = trinomial a b c t := by
  refine eval_of_pieces hr rfl hx hn hy rfl (.inr ht) fun i hi => ?_
  cases hr
  apply Scheme.cubicPiece_trinomial hy hx (nthCubic_tabulate _ (by omega)) hi
  · exact Scheme.akimaSlope_trinomial hy hx hc (by omega) (by omega)
  · exact Scheme.akimaSlope_trinomial hy hx hc (by omega) hi

/-- A component of values on a polynomial is the polynomial, where its kind returns the degree. -/
theorem eval_of_returns (hr : prepare kind n x y bend shape = .ok r) (hx : Ascending n x)
    (hn : kind.minPoints ≤ n) (hy : Sampled n a b c x y) {extrapolate : Bool} {d : Nat}
    (hd : Returns n x bend extrapolate t kind d) (hc : d ≤ 1 → c = 0) :
    r.eval extrapolate n x y t = trinomial a b c t := by
  cases hd with
  | linear ht =>
    refine eval_of_pieces hr rfl hx hn hy rfl ?_ fun i hi => ?_
    · cases hr
      exact ht
    · cases hr
      exact Scheme.linePiece_trinomial hy hx (hc le_rfl) hi t
  | quadratic ht =>
    refine eval_of_pieces hr rfl hx hn hy rfl ?_ fun i hi => ?_
    · cases hr
      exact ht
    · cases hr
      have hthree : 3 ≤ n := hn
      exact Scheme.parabolaPiece_trinomial hy hx (by omega) t
  | natural ht =>
    refine eval_of_pieces hr rfl hx hn hy rfl (.inr ht) fun i hi => ?_
    obtain ⟨m, hm, rfl⟩ := map_eq_ok.1 hr
    have hline : ∀ i < n, y i = a + b * x i := by
      intro i hi
      rw [hy i hi, hc le_rfl, trinomial, zero_mul, add_zero]
    rw [piece, (Scheme.nth_of_moments hx hm).2 _ (Scheme.moments_line hx hline)]
    exact Scheme.naturalPiece_trinomial hy hx (hc le_rfl) hi t
  | catmullRom ht =>
    refine eval_of_pieces hr rfl hx hn hy rfl (.inr ht) fun i hi => ?_
    cases hr
    refine Scheme.catmullRomPiece_trinomial hy hx hi (fun j _ => ?_) t
    rw [hc le_rfl, zero_mul, zero_mul]
  | tcb plain ht =>
    refine eval_of_pieces hr rfl hx hn hy rfl (.inr ht) fun i hi => ?_
    rw [piece_of_plain hr plain hi]
    refine Scheme.catmullRomPiece_trinomial hy hx hi (fun j _ => ?_) t
    rw [hc le_rfl, zero_mul, zero_mul]
  | akima ht =>
    refine eval_akima hr hx hn hy ?_ ht extrapolate
    rw [hc le_rfl]
    exact growing_zero n x
  | sor ht =>
    refine eval_sor hr hx hn hy ?_ ht extrapolate
    rw [hc le_rfl]
    exact growing_zero n x
  | evenAkima even ht => exact eval_akima hr hx hn hy (growing_of_even even c) ht extrapolate
  | evenSor even ht => exact eval_sor hr hx hn hy (growing_of_even even c) ht extrapolate
  | evenCatmullRom even ht =>
    refine eval_of_piece hr rfl hx hn hy (Nat.zero_le 1) ht hn (fun i h0 hi => ?_) extrapolate
    cases hr
    refine Scheme.catmullRomPiece_trinomial hy hx (by omega) (fun j hj => ?_) t
    rw [min_eq_left (by omega)]
    exact Scheme.middle_of_growing (growing_of_even even c) (by omega) (by omega)

end Rule

/-! ## Splines -/

namespace Spline

variable {s : Spline K}

theorem sampled_of_values {P : Nat → K[X]} (h : ∀ a ∈ s.store.entries,
      a.content.value = (List.range s.terms).map fun k => (P k).eval a.parameter) {k : Nat}
    (hk : k < s.terms) (hP : (P k).natDegree ≤ 2) :
    Sampled s.store.size ((P k).coeff 0) ((P k).coeff 1) ((P k).coeff 2) s.parameterAt
      (s.valueAt k) := by
  intro i hi
  have ha : s.store.entries[i]? = some s.store.entries[i] := List.getElem?_eq_getElem hi
  have hvalue := h _ (List.getElem_mem hi)
  rw [← eval_eq_trinomial hP, parameterAt_eq ha, valueAt_eq]
  simp [values, Store.contents, ha, hvalue, hk]

variable [IsStrictOrderedRing K]

/-- **Polynomials.** Take a live spline with enough points at ascending parameters whose values are
taken from a polynomial in every component. It can be finalized, and where its kind returns the
degrees of the polynomials, it answers their values. -/
theorem returns_polynomials (hg : s.Grown) (alive : s.destroyed = false)
    (hn : s.kind.minPoints ≤ s.store.size) (hx : Ascending s.store.size s.parameterAt)
    {P : Nat → K[X]} (hP : ∀ a ∈ s.store.entries,
      a.content.value = (List.range s.terms).map fun k => (P k).eval a.parameter) :
    ∃ c, s.build = .ok c ∧ ∀ config t d,
      Returns s.store.size s.parameterAt s.bendAt (config.isOn .extrapolate) t s.kind d →
      (∀ k < s.terms, (P k).natDegree ≤ d) →
      get config { s with curve := some c } (.ok t) =
        .ok ((List.range s.terms).map fun k => (P k).eval t) := by
  obtain ⟨c, hc⟩ := exists_curve alive hn hx
  refine ⟨c, hc, fun config t d hd hdegree => ?_⟩
  have hle := hd.le_two
  rw [(hg.rebuilt hc).get_eq rfl, eval_of_build hc]
  refine congrArg _ (List.map_congr_left fun k hk => ?_)
  have hk := List.mem_range.1 hk
  have hdegree := hdegree k hk
  rw [eval_eq_trinomial (hdegree.trans hle)]
  refine Rule.eval_of_returns (prepare_of_build hc hk) hx hn
    (sampled_of_values hP hk (hdegree.trans hle)) hd fun h1 => ?_
  exact Polynomial.coeff_eq_zero_of_natDegree_lt (by omega)

/-- An Akima spline on four evenly spaced rational parameters, which came out of order, with the
values of `1 - t` and of `t ^ 2`. -/
theorem returns_polynomials_akima :
    let s : Spline ℚ := ((((empty .akima 0).place 2 [-1, 4] .none).place 0 [1, 0] .none).place 3
      [-2, 9] .none).place 1 [0, 1] .none
    ∃ c, s.build = .ok c ∧
      get .builtin { s with curve := some c } (.ok (1 / 2)) = .ok [1 / 2, 1 / 4] ∧
      get .builtin { s with curve := some c } (.ok (5 / 2)) = .ok [-3 / 2, 25 / 4] := by
  intro s
  have hg : s.Grown := by
    refine .place_plain (.place_plain (.place_plain (.place_plain (.empty .akima 0) rfl rfl
      (by decide) ?_) rfl rfl (by decide) ?_) rfl rfl (by decide) ?_) rfl rfl (by decide) ?_
    all_goals decide +kernel
  have hsize : s.store.size = 4 := by decide +kernel
  have hterms : s.terms = 2 := by decide +kernel
  have hascending : ∀ j < 4, ∀ i < j, s.parameterAt i < s.parameterAt j := by decide +kernel
  have heven : ∀ i < 2, s.parameterAt (i + 2) - s.parameterAt (i + 1) =
      s.parameterAt (i + 1) - s.parameterAt i := by decide +kernel
  have hwithin : Within 4 s.parameterAt 0 (1 / 2) ∧ Within 4 s.parameterAt 0 (5 / 2) := by
    unfold Within
    decide +kernel
  have hentries : ∀ a ∈ s.store.entries, a.content.value = [1 - a.parameter, a.parameter ^ 2] := by
    decide +kernel
  let P : Nat → ℚ[X] := fun k => if k = 0 then 1 - Polynomial.X else Polynomial.X ^ 2
  obtain ⟨c, hb, hget⟩ := returns_polynomials hg rfl (by rw [hsize]; decide)
    (fun i j hij hj => hascending j (hsize ▸ hj) i hij) (P := P) fun a ha => by
      rw [hterms, hentries a ha]
      simp [P, List.range_succ]
  rw [hsize, hterms] at hget
  have hdegree : ∀ k < 2, (P k).natDegree ≤ 2 := by
    intro k _
    simp only [P]
    split
    · compute_degree!
    · compute_degree!
  have heven' : EvenlySpaced 4 s.parameterAt := fun i hi => heven i (by omega)
  have hleft := hget .builtin (1 / 2) 2 (.evenAkima heven' hwithin.1) hdegree
  have hright := hget .builtin (5 / 2) 2 (.evenAkima heven' hwithin.2) hdegree
  refine ⟨c, hb, hleft.trans ?_, hright.trans ?_⟩
  · norm_num [P, List.range_succ]
  · norm_num [P, List.range_succ]

end Spline

end CurveKit
