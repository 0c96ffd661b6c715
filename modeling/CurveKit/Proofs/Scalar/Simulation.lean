import CurveKit.Curve
import Mathlib.Data.List.Forall2

/-!
# The formulas over other scalars

All formulas are written over a class of scalars. So they do the same over two kinds of scalars
that correspond to each other, as long as the operations do. Division may be left out: then
the formulas correspond wherever they divide by scalars for which it does not matter. They
look at the entries of the points and at nothing beyond, so only those have to correspond.

Results:
* `Simulation`: what the operations have to do.
* `upperBound_eq`, `segment_eq`: the same segment is found.
* `linePiece_related`, `parabolaPiece_related`, `naturalPiece_related`, `catmullRomPiece_related`,
  `tangentPiece_related`, `cubicPiece_related`, `blendPiece_related`: the formulas of the schemes.
* `incomingTangent_related`, `outgoingTangent_related`, `slopeCubic_related`: what they compute in
  advance.
-/
namespace CurveKit

variable {K' K : Type} [Scalar K'] [Scalar K]

/-- The operations on scalars `K'` do what those on scalars `K` do, as far as they divide by
scalars in `D`. -/
structure Simulation (R : K' → K → Prop) (D : K → Prop) : Prop where
  literal : ∀ n, R (@OfNat.ofNat K' n (Scalar.literal n)) (@OfNat.ofNat K n (Scalar.literal n))
  add : ∀ {a' a b' b}, R a' a → R b' b → R (a' + b') (a + b)
  sub : ∀ {a' a b' b}, R a' a → R b' b → R (a' - b') (a - b)
  mul : ∀ {a' a b' b}, R a' a → R b' b → R (a' * b') (a * b)
  div : ∀ {a' a b' b}, R a' a → R b' b → D b → R (a' / b') (a / b)
  neg : ∀ {a' a}, R a' a → R (-a') (-a)
  magnitude : ∀ {a' a}, R a' a → R (Scalar.magnitude a') (Scalar.magnitude a)
  cube : ∀ {a' a}, R a' a → R (Scalar.cube a') (Scalar.cube a)
  isFinite : ∀ {a' a}, R a' a → Scalar.isFinite a' = Scalar.isFinite a
  lt : ∀ {a' a b' b}, R a' a → R b' b → (a' < b' ↔ a < b)
  le : ∀ {a' a b' b}, R a' a → R b' b → (a' ≤ b' ↔ a ≤ b)
  beq : ∀ {a' a b' b}, R a' a → R b' b → (a' == b') = (a == b)
  /-- Numerals may be divided by. -/
  numeral : ∀ n, n ≠ 0 → D (@OfNat.ofNat K n (Scalar.literal n))
  product : ∀ {a b}, D a → D b → D (a * b)
  /-- What is compared with zero before may be divided by. -/
  tested : ∀ {a}, (a == 0) = false → D a
  /-- So may what has the larger magnitude. -/
  larger : ∀ {a b}, ¬ Scalar.magnitude a ≤ Scalar.magnitude b → D a

def Entries (R : K' → K → Prop) (n : Nat) (x' : Nat → K') (x : Nat → K) : Prop :=
  ∀ i < n, R (x' i) (x i)

structure Spaced (D : K → Prop) (n : Nat) (x : Nat → K) : Prop where
  distance : ∀ i j, i < n → j < n → i ≠ j → D (x i - x j)
  span : ∀ i < n, D (Scheme.backward x i + Scheme.forward n x i)

variable {R : K' → K → Prop} {D : K → Prop} {n i : Nat} {x' y' : Nat → K'} {x y : Nat → K}
  {t' : K'} {t : K}

/-! ## Segments -/

section Segments

variable (h : Simulation R D) (hx : Entries R n x' x) (ht : R t' t)

include h hx ht

theorem upperBound_eq {lo hi : Nat} (hn : hi ≤ n) :
    upperBound x' t' lo hi = upperBound x t lo hi := by
  fun_induction upperBound x t lo hi with
  | case1 lo hi hlt mid hmid ih =>
    have hmid' : t' < x' mid := (h.lt ht (hx mid (by omega))).2 hmid
    rw [upperBound, if_pos hlt, ← ih (by omega)]
    exact if_pos hmid'
  | case2 lo hi hlt mid hmid ih =>
    have hmid' : ¬ t' < x' mid := fun hm => hmid ((h.lt ht (hx mid (by omega))).1 hm)
    rw [upperBound, if_pos hlt, ← ih hn]
    exact if_neg hmid'
  | case3 lo hi hlt => rw [upperBound, if_neg hlt]

theorem segment_eq : segment n x' t' = segment n x t := by
  rw [segment, segment, upperBound_eq h hx ht (Nat.le_refl n)]

end Segments

/-! ## The formulas -/

namespace Scheme

section Choice

omit [Scalar K'] [Scalar K]

theorem ite_related {p' p : Prop} [Decidable p'] [Decidable p] {a' b' : K'} {a b : K}
    (hp : p' ↔ p) (ha : p → R a' a) (hb : ¬ p → R b' b) :
    R (if p' then a' else b') (if p then a else b) := by
  by_cases hc : p
  · rw [if_pos hc, if_pos (hp.2 hc)]
    exact ha hc
  · rw [if_neg hc, if_neg fun hp' => hc (hp.1 hp')]
    exact hb hc

end Choice

/-! ### Lines, parabolas and cubics -/

section Pieces

variable (h : Simulation R D)

include h

theorem lagrange_related {a' b' c' : K'} {a b c : K} (ht : R t' t) (ha : R a' a) (hb : R b' b)
    (hc : R c' c) (hab : D (a - b)) (hac : D (a - c)) :
    R ((t' - b') * (t' - c') / ((a' - b') * (a' - c')))
      ((t - b) * (t - c) / ((a - b) * (a - c))) :=
  h.div (h.mul (h.sub ht hb) (h.sub ht hc)) (h.mul (h.sub ha hb) (h.sub ha hc))
    (h.product hab hac)

theorem hermite_related {v0' v1' m0' m1' : K'} {v0 v1 m0 m1 : K} (ht : R t' t) (hv0 : R v0' v0)
    (hv1 : R v1' v1) (hm0 : R m0' m0) (hm1 : R m1' m1) :
    R (hermite t' v0' v1' m0' m1') (hermite t v0 v1 m0 m1) := by
  have ht2 := h.mul ht ht
  have ht3 := h.mul ht2 ht
  have htwo := h.literal 2
  have hthree := h.literal 3
  have hstart := h.add (h.sub (h.mul htwo ht3) (h.mul hthree ht2)) (h.literal 1)
  have hleave := h.add (h.sub ht3 (h.mul htwo ht2)) ht
  have hstop := h.add (h.mul (h.neg htwo) ht3) (h.mul hthree ht2)
  have hreach := h.sub ht3 ht2
  exact h.add (h.add (h.add (h.mul hstart hv0) (h.mul hleave hm0)) (h.mul hstop hv1))
    (h.mul hreach hm1)

variable (hx : Entries R n x' x) (hd : Spaced D n x)

include hx hd

theorem position_related (ht : R t' t) (hi : i + 1 < n) :
    R ((t' - x' i) / (x' (i + 1) - x' i)) ((t - x i) / (x (i + 1) - x i)) := by
  have hx0 := hx i (by omega)
  have hx1 := hx (i + 1) hi
  exact h.div (h.sub ht hx0) (h.sub hx1 hx0) (hd.distance (i + 1) i hi (by omega) (by omega))

variable (hy : Entries R n y' y)

include hy

theorem linePiece_related (ht : R t' t) (hi : i + 1 < n) :
    R (linePiece x' y' i t') (linePiece x y i t) := by
  have hy0 := hy i (by omega)
  have hy1 := hy (i + 1) hi
  have hu := position_related h hx hd ht hi
  exact h.add hy0 (h.mul hu (h.sub hy1 hy0))

theorem parabolaPiece_related (ht : R t' t) (hi : i + 2 < n) :
    R (parabolaPiece x' y' i t') (parabolaPiece x y i t) := by
  have hx0 := hx i (by omega)
  have hx1 := hx (i + 1) (by omega)
  have hx2 := hx (i + 2) hi
  have hdist (j k : Nat) (hj : j ≤ 2) (hk : k ≤ 2) (hne : j ≠ k) : D (x (i + j) - x (i + k)) :=
    hd.distance (i + j) (i + k) (by omega) (by omega) (by omega)
  refine h.add (h.add (h.mul ?_ (hy i (by omega))) (h.mul ?_ (hy (i + 1) (by omega))))
    (h.mul ?_ (hy (i + 2) hi))
  · apply lagrange_related h ht hx0 hx1 hx2
    · exact hdist 0 1 (by decide) (by decide) (by decide)
    · exact hdist 0 2 (by decide) (by decide) (by decide)
  · apply lagrange_related h ht hx1 hx0 hx2
    · exact hdist 1 0 (by decide) (by decide) (by decide)
    · exact hdist 1 2 (by decide) (by decide) (by decide)
  · apply lagrange_related h ht hx2 hx0 hx1
    · exact hdist 2 0 (by decide) (by decide) (by decide)
    · exact hdist 2 1 (by decide) (by decide) (by decide)

theorem naturalPiece_related {m' : Nat → K'} {m : Nat → K} (hm : Entries R n m' m) (ht : R t' t)
    (hi : i + 1 < n) : R (naturalPiece x' y' m' i t') (naturalPiece x y m i t) := by
  have hx0 := hx i (by omega)
  have hx1 := hx (i + 1) hi
  have hy0 := hy i (by omega)
  have hy1 := hy (i + 1) hi
  have hm0 := hm i (by omega)
  have hm1 := hm (i + 1) hi
  have hlength := h.sub hx1 hx0
  have ha := h.div (h.sub hx1 ht) hlength (hd.distance (i + 1) i hi (by omega) (by omega))
  have hb := position_related h hx hd ht hi
  have hsix := h.numeral 6 (by decide)
  have hbend := h.mul (h.add (h.mul (h.sub (h.cube ha) ha) hm0) (h.mul (h.sub (h.cube hb) hb) hm1))
    (h.mul hlength hlength)
  exact h.add (h.add (h.mul ha hy0) (h.mul hb hy1)) (h.div hbend (h.literal 6) hsix)

theorem chordTangent_related {length' : K'} {length : K} (hl : R length' length) (hn : 2 ≤ n)
    (hi : i < n) : R (chordTangent n x' y' i length') (chordTangent n x y i length) := by
  have hbehind : min (i + 1) (n - 1) < n := by omega
  have hbefore : i - 1 < n := by omega
  have hdist := hd.distance _ _ hbehind hbefore (by omega)
  exact h.mul (h.sub (hy _ hbehind) (hy _ hbefore))
    (h.div hl (h.sub (hx _ hbehind) (hx _ hbefore)) hdist)

theorem catmullRomPiece_related (ht : R t' t) (hi : i + 1 < n) :
    R (catmullRomPiece n x' y' i t') (catmullRomPiece n x y i t) := by
  have hlength := h.sub (hx (i + 1) hi) (hx i (by omega))
  apply hermite_related h (position_related h hx hd ht hi) (hy i (by omega)) (hy (i + 1) hi)
  · exact chordTangent_related h hx hd hy hlength (by omega) (by omega)
  · exact chordTangent_related h hx hd hy hlength (by omega) hi

theorem tangentPiece_related {p' q' : Nat → K'} {p q : Nat → K} (hp : Entries R n p' p)
    (hq : Entries R n q' q) (ht : R t' t) (hi : i + 1 < n) :
    R (tangentPiece x' y' p' q' i t') (tangentPiece x y p q i t) :=
  hermite_related h (position_related h hx hd ht hi) (hy i (by omega)) (hy (i + 1) hi)
    (hq i (by omega)) (hp (i + 1) hi)

theorem secant_related (hi : i + 1 < n) : R (secant x' y' i) (secant x y i) := by
  have hdist := hd.distance (i + 1) i hi (by omega) (by omega)
  exact h.div (h.sub (hy (i + 1) hi) (hy i (by omega))) (h.sub (hx (i + 1) hi) (hx i (by omega)))
    hdist

end Pieces

/-! ### Tangents -/

structure TripleRelated (R : K' → K → Prop) (p' : Tcb K') (p : Tcb K) : Prop where
  tension : R p'.tension p.tension
  bias : R p'.bias p.bias
  continuity : R p'.continuity p.continuity

section Tangents

variable (h : Simulation R D)

include h

theorem backward_related (hy : Entries R n y' y) (hi : i < n) :
    R (backward y' i) (backward y i) := by
  apply ite_related Iff.rfl
  · intro _
    exact h.literal 0
  · intro _
    exact h.sub (hy i hi) (hy (i - 1) (by omega))

theorem forward_related (hy : Entries R n y' y) (hi : i < n) :
    R (forward n y' i) (forward n y i) := by
  apply ite_related Iff.rfl
  · intro _
    exact h.literal 0
  · intro hlast
    have hlast : i + 1 ≠ n := by simpa using hlast
    exact h.sub (hy (i + 1) (by omega)) (hy i hi)

variable {p' : Tcb K'} {p : Tcb K} (hp : TripleRelated R p' p)

include hp

theorem incomingMix_related {a' b' : K'} {a b : K} (ha : R a' a) (hb : R b' b) :
    R (incomingMix p' a' b') (incomingMix p a b) := by
  have htwo := h.numeral 2 (by decide)
  obtain ⟨htension, hbias, hcontinuity⟩ := hp
  unfold incomingMix
  apply_rules [h.add, h.sub, h.mul, h.div, h.literal]

theorem outgoingMix_related {a' b' : K'} {a b : K} (ha : R a' a) (hb : R b' b) :
    R (outgoingMix p' a' b') (outgoingMix p a b) := by
  have htwo := h.numeral 2 (by decide)
  obtain ⟨htension, hbias, hcontinuity⟩ := hp
  unfold outgoingMix
  apply_rules [h.add, h.sub, h.mul, h.div, h.literal]

variable (hx : Entries R n x' x) (hd : Spaced D n x) (hy : Entries R n y' y)

include hx hd hy

theorem incomingTangent_related (hi : i < n) :
    R (incomingTangent n x' y' p' i) (incomingTangent n x y p i) := by
  have hbefore := backward_related h hx hi
  have hbehind := forward_related h hx hi
  have hmix := incomingMix_related h hp (backward_related h hy hi) (forward_related h hy hi)
  exact h.mul hmix (h.div (h.mul (h.literal 2) hbefore) (h.add hbefore hbehind) (hd.span i hi))

theorem outgoingTangent_related (hi : i < n) :
    R (outgoingTangent n x' y' p' i) (outgoingTangent n x y p i) := by
  have hbefore := backward_related h hx hi
  have hbehind := forward_related h hx hi
  have hmix := outgoingMix_related h hp (backward_related h hy hi) (forward_related h hy hi)
  exact h.mul hmix (h.div (h.mul (h.literal 2) hbehind) (h.add hbefore hbehind) (hd.span i hi))

end Tangents

/-! ### Slopes -/

structure CubicRelated (R : K' → K → Prop) (p' : Cubic K') (p : Cubic K) : Prop where
  a : R p'.a p.a
  b : R p'.b p.b
  c : R p'.c p.c
  d : R p'.d p.d

section Slopes

variable (h : Simulation R D)

include h

theorem cubicPiece_related {p' : Nat → Cubic K'} {p : Nat → Cubic K}
    (hp : CubicRelated R (p' i) (p i)) (hx : R (x' i) (x i)) (ht : R t' t) :
    R (cubicPiece x' p' i t') (cubicPiece x p i t) := by
  have hu := h.sub ht hx
  exact h.add hp.a (h.mul hu (h.add hp.b (h.mul hu (h.add hp.c (h.mul hu hp.d)))))

/-- A mean is divided by the sum of its weights only if that is not zero. -/
theorem weightedSlope_related {a' b' p' q' : K'} {a b p q : K} (ha : R a' a) (hb : R b' b)
    (hp : R p' p) (hq : R q' q) :
    R (weightedSlope a' b' p' q') (weightedSlope a b p q) := by
  have htotal := h.add hp hq
  have htest := h.beq htotal (h.literal 0)
  unfold weightedSlope
  dsimp only
  apply ite_related (by rw [htest])
  · intro _
    exact h.div (h.add ha hb) (h.literal 2) (h.numeral 2 (by decide))
  · intro hne
    exact h.div (h.add (h.mul hp ha) (h.mul hq hb)) htotal (h.tested (by simpa using hne))

variable (hx : Entries R n x' x) (hd : Spaced D n x) (hy : Entries R n y' y)

include hx hd hy

theorem slopeCubic_related {m' : Nat → K'} {m : Nat → K} (hi : i + 1 < n)
    (hm0 : R (m' i) (m i)) (hm1 : R (m' (i + 1)) (m (i + 1))) :
    CubicRelated R (slopeCubic x' y' m' i) (slopeCubic x y m i) := by
  have hdist := hd.distance (i + 1) i hi (by omega) (by omega)
  have hlength := h.sub (hx (i + 1) hi) (hx i (by omega))
  have hs := secant_related h hx hd hy hi
  refine ⟨hy i (by omega), hm0, ?_, ?_⟩
  · exact h.div (h.sub (h.sub (h.mul (h.literal 3) hs) (h.mul (h.literal 2) hm0)) hm1) hlength hdist
  · exact h.div (h.sub (h.add hm0 hm1) (h.mul (h.literal 2) hs)) (h.mul hlength hlength)
      (h.product hdist hdist)

theorem chordSlope_related (hn : 2 ≤ n) (hi : i < n) :
    R (chordSlope n x' y' i) (chordSlope n x y i) := by
  apply ite_related Iff.rfl
  · intro _
    exact secant_related h hx hd hy hn
  · intro hfirst
    have hfirst : i ≠ 0 := by simpa using hfirst
    apply ite_related Iff.rfl
    · intro _
      exact secant_related h hx hd hy (by omega)
    · intro hlast
      have hlast : i + 1 ≠ n := by simpa using hlast
      have hbehind : i + 1 < n := by omega
      have hbefore : i - 1 < n := by omega
      exact h.div (h.sub (hy _ hbehind) (hy _ hbefore)) (h.sub (hx _ hbehind) (hx _ hbefore))
        (hd.distance _ _ hbehind hbefore (by omega))

theorem paddedSecant_related (hn : 3 ≤ n) (i : Nat) :
    R (paddedSecant n x' y' i) (paddedSecant n x y i) := by
  have hs (j : Nat) (hj : j + 1 < n) := secant_related h hx hd hy hj
  have htwo := h.literal 2
  have hfirst := h.sub (h.mul htwo (hs 0 (by omega))) (hs 1 (by omega))
  have hlast := h.sub (h.mul htwo (hs (n - 2) (by omega))) (hs (n - 3) (by omega))
  apply ite_related Iff.rfl
  · intro _
    exact h.sub (h.mul htwo hfirst) (hs 0 (by omega))
  · intro hne
    have hne : i ≠ 0 := by simpa using hne
    apply ite_related Iff.rfl
    · intro _
      exact hfirst
    · intro hone
      have hone : i ≠ 1 := by simpa using hone
      apply ite_related Iff.rfl
      · intro hle
        exact hs (i - 2) (by omega)
      · intro _
        apply ite_related Iff.rfl
        · intro _
          exact hlast
        · intro _
          exact h.sub (h.mul htwo hlast) (hs (n - 2) (by omega))

theorem akimaSlope_related (hn : 3 ≤ n) (i : Nat) :
    R (akimaSlope n x' y' i) (akimaSlope n x y i) := by
  have hs := paddedSecant_related h hx hd hy hn
  exact weightedSlope_related h (hs (i + 1)) (hs (i + 2))
    (h.magnitude (h.sub (hs (i + 3)) (hs (i + 2)))) (h.magnitude (h.sub (hs (i + 1)) (hs i)))

end Slopes

/-! ### Blends -/

/-- What the weights around an end with a shape divide by, if the shape is not negative. -/
def Blunt (D : K → Prop) (f : Family) (s : K) : Prop :=
  f.isSharp s = false → D (1 + s) ∧ D (-1 - s)

def startWeights (f : Family) (t s : K) : K × K :=
  if f.isSharp s then (hBlend (-t) (-s / 2), gBlend t (-s / 2)) else leftWeights f t s

def stopWeights (f : Family) (t s : K) : K × K :=
  if f.isSharp s then (gBlend (1 - t) (-s / 2), hBlend (t - 1) (-s / 2)) else rightWeights f t s

structure WeightsRelated (R : K' → K → Prop) (w' : Weights K') (w : Weights K) : Prop where
  w0 : R w'.w0 w.w0
  w1 : R w'.w1 w.w1
  w2 : R w'.w2 w.w2
  w3 : R w'.w3 w.w3

section Blends

variable (h : Simulation R D) {u' q' : K'} {u q : K} (hu : R u' u) (hq : R q' q)

include h

theorem fBlend_related {d' : K'} {d : K} (hu : R u' u) (hd : R d' d) (hq : R q' q) (hD : D d) :
    R (fBlend u' d' q') (fBlend u d q) := by
  have hv := h.div hu hd hD
  have hv2 := h.mul hv hv
  have hlinear := h.mul (h.sub (h.mul (h.literal 2) hq) (h.literal 15)) hv
  have hsquare := h.mul (h.sub (h.literal 6) hq) hv2
  exact h.mul (h.mul hv hv2) (h.add (h.add (h.sub (h.literal 10) hq) hlinear) hsquare)

include hu hq

theorem gBlend_related : R (gBlend u' q') (gBlend u q) := by
  have hlast := h.sub (h.literal 4) (h.mul (h.literal 5) hq)
  have hthird := h.add (h.sub (h.mul (h.literal 14) hq) (h.literal 11)) (h.mul hu hlast)
  have hsecond := h.add (h.sub (h.literal 8) (h.mul (h.literal 12) hq)) (h.mul hu hthird)
  exact h.mul hu (h.add hq (h.mul hu (h.add (h.mul (h.literal 2) hq) (h.mul hu hsecond))))

theorem hBlend_related : R (hBlend u' q') (hBlend u q) := by
  have hlast := h.sub (h.mul (h.neg (h.literal 2)) hq) (h.mul hu hq)
  exact h.mul hu (h.add hq (h.mul hu (h.add (h.mul (h.literal 2) hq) (h.mul (h.mul hu hu) hlast))))

omit hu hq

variable {s' : K'} {s : K} (f : Family) (ht : R t' t) (hs : R s' s)

include hs

theorem exponent_related : R (f.exponent s') (f.exponent s) := by
  have hone := h.add (h.literal 1) hs
  cases f with
  | basic => exact h.literal 2
  | extended => exact h.mul (h.mul (h.literal 2) hone) hone
  | general => exact h.mul (h.mul (h.literal 2) hone) hone

theorem isSharp_eq : f.isSharp s' = f.isSharp s := by
  cases f with
  | extended => exact decide_eq_decide.2 (h.lt hs (h.literal 0))
  | basic => rfl
  | general => rfl

include ht

theorem leftWeights_related (hD : D (1 + s) ∧ D (-1 - s)) :
    R (leftWeights f t' s').1 (leftWeights f t s).1 ∧
      R (leftWeights f t' s').2 (leftWeights f t s).2 := by
  have hp := exponent_related h f hs
  have hminus := h.sub (h.neg (h.literal 1)) hs
  constructor
  · apply ite_related (h.lt ht hs)
    · intro _
      exact fBlend_related h (h.sub ht hs) hminus hp hD.2
    · intro _
      exact h.literal 0
  · exact fBlend_related h (h.add ht hs) (h.add (h.literal 1) hs) hp hD.1

theorem rightWeights_related (hD : D (1 + s) ∧ D (-1 - s)) :
    R (rightWeights f t' s').1 (rightWeights f t s).1 ∧
      R (rightWeights f t' s').2 (rightWeights f t s).2 := by
  have hp := exponent_related h f hs
  have hone := h.literal 1
  have hminus := h.sub (h.neg hone) hs
  constructor
  · exact fBlend_related h (h.sub (h.sub ht hone) hs) hminus hp hD.2
  · apply ite_related (h.lt (h.sub hone hs) ht)
    · intro _
      exact fBlend_related h (h.add (h.sub ht hone) hs) (h.add hone hs) hp hD.1
    · intro _
      exact h.literal 0

theorem startWeights_related (hb : Blunt D f s) :
    R (startWeights f t' s').1 (startWeights f t s).1 ∧
      R (startWeights f t' s').2 (startWeights f t s).2 := by
  have hhalf := h.div (h.neg hs) (h.literal 2) (h.numeral 2 (by decide))
  unfold startWeights
  rw [isSharp_eq h f hs]
  cases hsharp : f.isSharp s with
  | true => exact ⟨hBlend_related h (h.neg ht) hhalf, gBlend_related h ht hhalf⟩
  | false => exact leftWeights_related h f ht hs (hb hsharp)

theorem stopWeights_related (hb : Blunt D f s) :
    R (stopWeights f t' s').1 (stopWeights f t s).1 ∧
      R (stopWeights f t' s').2 (stopWeights f t s).2 := by
  have hhalf := h.div (h.neg hs) (h.literal 2) (h.numeral 2 (by decide))
  have hone := h.literal 1
  unfold stopWeights
  rw [isSharp_eq h f hs]
  cases hsharp : f.isSharp s with
  | true => exact ⟨gBlend_related h (h.sub hone ht) hhalf, hBlend_related h (h.sub ht hone) hhalf⟩
  | false => exact rightWeights_related h f ht hs (hb hsharp)

omit hs

theorem weights_related {s1' s2' : K'} {s1 s2 : K} (hs1 : R s1' s1) (hs2 : R s2' s2)
    (hb1 : Blunt D f s1) (hb2 : Blunt D f s2) :
    WeightsRelated R (weights f t' s1' s2') (weights f t s1 s2) := by
  obtain ⟨hbefore, hbehind⟩ := startWeights_related h f ht hs1 hb1
  obtain ⟨hbefore', hbehind'⟩ := stopWeights_related h f ht hs2 hb2
  exact ⟨hbefore, hbefore', hbehind, hbehind'⟩

omit ht

theorem mean_related {w' : Weights K'} {w : Weights K} (hw : WeightsRelated R w' w)
    {p0' p1' p2' p3' : K'} {p0 p1 p2 p3 : K} (h0 : R p0' p0) (h1 : R p1' p1) (h2 : R p2' p2)
    (h3 : R p3' p3) (hD : D w.total) :
    R (w'.mean p0' p1' p2' p3') (w.mean p0 p1 p2 p3) := by
  obtain ⟨hw0, hw1, hw2, hw3⟩ := hw
  have htotal := h.add (h.add (h.add hw0 hw1) hw2) hw3
  have hsum := h.add (h.add (h.add (h.mul hw0 h0) (h.mul hw1 h1)) (h.mul hw2 h2)) (h.mul hw3 h3)
  exact h.div hsum htotal hD

/-- The shapes of the ends of segment `i` and the sum of the weights there may be divided by. -/
structure Blendable (D : K → Prop) (f : Family) (n : Nat) (x shape : Nat → K) (i : Nat) (t : K) :
    Prop where
  zero : Blunt D f 0
  start : Blunt D f (shape i)
  stop : Blunt D f (shape (i + 1))
  total : D (blendWeights f n x shape i t).total

theorem blendPiece_related {s' : Nat → K'} {s : Nat → K} (hx : Entries R n x' x)
    (hd : Spaced D n x) (hy : Entries R n y' y) (hs : Entries R n s' s) (ht : R t' t)
    (hi : i + 1 < n) (hb : Blendable D f n x s i t) :
    R (blendPiece f n x' y' s' i t') (blendPiece f n x y s i t) := by
  have hzero := h.literal 0
  have hchoose (c : Bool) (j : Nat) (hj : j < n) :
      R (if c then 0 else s' j) (if c then 0 else s j) :=
    ite_related Iff.rfl (fun _ => hzero) fun _ => hs j hj
  have hblunt (c : Bool) (j : Nat) (hj : Blunt D f (s j)) : Blunt D f (if c then 0 else s j) := by
    cases c with
    | true => exact hb.zero
    | false => exact hj
  have hu := position_related h hx hd ht hi
  have hs1 := hchoose (i == 0) i (by omega)
  have hs2 := hchoose (i + 2 == n) (i + 1) hi
  have hw := weights_related h f hu hs1 hs2 (hblunt _ i hb.start) (hblunt _ (i + 1) hb.stop)
  exact mean_related h hw (hy (i - 1) (by omega)) (hy i (by omega)) (hy (i + 1) hi)
    (hy (min (i + 2) (n - 1)) (by omega)) hb.total

end Blends

end Scheme

end CurveKit
