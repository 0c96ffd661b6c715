import CurveKit.Intake
import CurveKit.Proofs.Exact.Akima

/-!
# Two forms of a cubic

A cubic from slopes is kept as four coefficients in the distance from the start of its segment and
evaluated in nested form. The blend of end values and end tangents has the same cubic on the unit
interval: distances are divided by the length of the segment there, and slopes are multiplied by
it. The two agree at every distance, whatever the slopes are, so that a scheme has no more to
choose than its slopes.

Results:
* `Scheme.hermiteSegment`: the kept cubic of a segment is the blend, with the slopes at its ends.
* `Spline.coefficient_eq`: the cubics of a spline of doubles are read by the same function.
* `Curve.interpolate_position`: what is read of the coefficients for one segment and component.
* `Curve.KeepsCubics.interpolate`: the two agree on a curve that keeps cubics.
* `Spline.coefficients_hermite`: the same for the curve of every spline that keeps cubics.
-/
namespace CurveKit

open Polynomial

section Generic

variable {K : Type} [Scalar K]

/-! ## Reading the coefficients -/

/-- A finalized spline that keeps cubics is asked for them by numbers. -/
theorem Spline.coefficient_eq {s : Spline Float} {c : Curve Float}
    (hkind : s.kind = .sor ∨ s.kind = .akima) (hc : s.curve = some c) {i k : Int}
    (hi : Datum.isIndex i = true) (hk : Datum.isIndex k = true) (u : Float) :
    s.coefficient (.int i) (.int k) (.float u) =
      c.interpolate (.position i) (.position k) u := by
  rcases hkind with h | h <;>
    simp [coefficient, h, hc, Datum.selector, hi, hk, Datum.toFloat] <;> rfl

/-- One segment and one component leave one number: the cubic there, at the distance. -/
theorem Curve.interpolate_position {c : Curve K} {i k : Nat} {p : Component K}
    {pieces : Array (Scheme.Cubic K)} (hi : i + 1 < c.parameters.size)
    (hp : c.components[k]? = some p) (hpieces : p.rule.pieces? = some pieces) (u : K) :
    ∃ t, c.interpolate (.position i) (.position k) u = .ok t ∧ t.shape = [] ∧
      t.entry [] = (nthCubic pieces i).eval u := by
  obtain ⟨hk, hget⟩ := List.getElem?_eq_some_iff.1 hp
  have hshape : c.coefficients.shape = [c.parameters.size - 1, c.components.length, 4] := by
    simp [coefficients]
  have hchosen := Tensor.select?_position_position hshape (by decide) (show i < _ by omega) hk
  refine ⟨_, by rw [interpolate, hchosen]; rfl, rfl, ?_⟩
  simp [coefficients, Scheme.Cubic.coefficient, hk, hget, hpieces]

def Curve.KeepsCubics (c : Curve K) (m : Nat → Nat → K) : Prop :=
  ∀ k p, c.components[k]? = some p → p.rule.pieces? = some (tabulate (c.parameters.size - 1)
    (Scheme.slopeCubic (nth c.parameters) (nth p.values) (m k)))

/-- The slopes that a kind chooses at `n` control points, if it keeps cubics. -/
def Kind.slopes? (kind : Kind) (n : Nat) (x y : Nat → K) : Option (Nat → K) :=
  match kind with
  | sor => some (Scheme.chordSlope n x y)
  | akima => some (Scheme.akimaSlope n x y)
  | _ => none

/-- A rule keeps the cubics with the slopes of its kind. -/
theorem Rule.pieces_of_prepare {kind : Kind} {n : Nat} {x y m : Nat → K} {bend : Nat → Bend K}
    {shape : K} {r : Rule K} (h : prepare kind n x y bend shape = .ok r)
    (hm : kind.slopes? n x y = some m) :
    r.pieces? = some (tabulate (n - 1) (Scheme.slopeCubic x y m)) := by
  cases kind with
  | sor =>
    cases h
    cases hm
    rfl
  | akima =>
    cases h
    cases hm
    rfl
  | _ => cases hm

theorem Rule.piece_of_pieces {r : Rule K} {pieces : Array (Scheme.Cubic K)}
    (h : r.pieces? = some pieces) (n : Nat) (x y : Nat → K) (i : Nat) (t : K) :
    r.piece n x y i t = Scheme.cubicPiece x (nthCubic pieces) i t := by
  cases r with
  | guided p =>
    cases h
    rfl
  | cubics p =>
    cases h
    rfl
  | _ => cases h

end Generic

open scoped Exact

variable {K : Type} [Field K] [LinearOrder K]

/-! ## One segment -/

namespace Scheme

variable {x y m : Nat → K} {i : Nat}

/-- Segment `i` as a polynomial in the distance from its start: the blend of its ends, with the
slopes `m` there. -/
structure HermiteSegment (x y m : Nat → K) (i : Nat) (P : K[X]) : Prop where
  degree : P.natDegree ≤ 3
  blend : ∀ u, P.eval u = hermite (u / (x (i + 1) - x i)) (y i) (y (i + 1))
    ((x (i + 1) - x i) * m i) ((x (i + 1) - x i) * m (i + 1))
  start : P.eval 0 = y i
  stop : P.eval (x (i + 1) - x i) = y (i + 1)
  slopeStart : (derivative P).eval 0 = m i
  slopeStop : (derivative P).eval (x (i + 1) - x i) = m (i + 1)

/-- The nested form in the distance is the blend at the quotient of distance and length. -/
theorem slopeCubic_eq_hermite (h : x i < x (i + 1)) (u : K) :
    (slopeCubic x y m i).eval u = hermite (u / (x (i + 1) - x i)) (y i) (y (i + 1))
      ((x (i + 1) - x i) * m i) ((x (i + 1) - x i) * m (i + 1)) := by
  have hne : x (i + 1) - x i ≠ 0 := sub_ne_zero.2 h.ne'
  simp only [Cubic.eval, slopeCubic, hermite, secant, Scalar.ofNat_eq, Scalar.one_eq]
  generalize x (i + 1) - x i = length at hne
  field_simp
  ring

/-- The kept cubic of a segment is the blend, with the slopes at its ends. -/
theorem hermiteSegment (h : x i < x (i + 1)) (y m : Nat → K) :
    HermiteSegment x y m i ((slopeCubic x y m i).polynomial 0) := by
  have hlinks : Links x y i (cubicPiece x (slopeCubic x y m) i) := links_slopeCubic rfl h
  have heval (u : K) : ((slopeCubic x y m i).polynomial 0).eval u =
      (slopeCubic x y m i).eval u := by
    rw [eval_polynomial, sub_zero]
  constructor
  · exact natDegree_polynomial _ _
  · intro u
    rw [heval, slopeCubic_eq_hermite h]
  · rw [heval, ← sub_self (x i)]
    exact hlinks.start
  · rw [heval]
    exact hlinks.stop
  · rw [slope_polynomial, sub_self]
    simp [slopeCubic]
  · rw [slope_polynomial, sub_zero]
    exact slope_slopeCubic_stop h y m

end Scheme

/-! ## Curves -/

/-- Segment `i` of component `k` of a curve is the polynomial `P` in the distance from its start,
where its coefficients are read and where it is evaluated. -/
structure Curve.HasCubic (c : Curve K) (i k : Nat) (P : K[X]) : Prop where
  interpolate : ∀ u, ∃ t, c.interpolate (.position i) (.position k) u = .ok t ∧ t.shape = [] ∧
    t.entry [] = P.eval u
  piece : ∀ u, (c.piece i (nth c.parameters i + u))[k]? = some (P.eval u)

theorem Curve.KeepsCubics.hasCubic {c : Curve K} {m : Nat → Nat → K} (hc : c.KeepsCubics m)
    (hx : Ascending c.parameters.size (nth c.parameters)) {i k : Nat} {p : Component K}
    (hi : i + 1 < c.parameters.size) (hp : c.components[k]? = some p) :
    ∃ P : K[X], Scheme.HermiteSegment (nth c.parameters) (nth p.values) (m k) i P ∧
      c.HasCubic i k P := by
  have hpieces := hc k p hp
  have hcubic := nthCubic_tabulate (Scheme.slopeCubic (nth c.parameters) (nth p.values) (m k))
    (show i < c.parameters.size - 1 by omega)
  refine ⟨_, Scheme.hermiteSegment (hx i (i + 1) (by omega) hi) _ _, fun u => ?_, fun u => ?_⟩
  · obtain ⟨t, ht, hshape, hentry⟩ := interpolate_position hi hp hpieces u
    refine ⟨t, ht, hshape, ?_⟩
    rw [hentry, hcubic, Scheme.eval_polynomial, sub_zero]
  · rw [piece, List.getElem?_map, hp, Option.map_some, Rule.piece_of_pieces hpieces,
      Scheme.cubicPiece, hcubic, Scheme.eval_polynomial, sub_zero, add_sub_cancel_left]

namespace Spline

variable {s : Spline K} {c : Curve K}

/-- The curve of a spline whose kind chooses slopes keeps the cubics with these slopes. -/
theorem keepsCubics_of_build (hb : s.build = .ok c) {m : Nat → Nat → K}
    (hm : ∀ k, s.kind.slopes? s.store.size s.parameterAt (s.valueAt k) = some (m k)) :
    c.KeepsCubics m := by
  obtain ⟨hpar, -, hall⟩ := Curve.prepare_eq_ok (build_eq_ok.1 hb).2.2.2
  have hsize : c.parameters.size = s.store.size := by simp [hpar]
  intro k p hp
  obtain ⟨hval, hrule⟩ := hall k p hp
  rw [hsize, hpar]
  rw [hval] at hrule ⊢
  exact Rule.pieces_of_prepare hrule (hm k)

/-- **Two forms.** What is kept of a segment as coefficients and the blend of its ends are the same
cubic at every distance, inside the segment or not, for any slopes; the cubic has the values and
the slopes that it is made from. This holds of all curves that keep cubics, and so of every spline
whose kind chooses slopes. -/
theorem coefficients_hermite :
    (∀ (c : Curve K) (m : Nat → Nat → K), c.KeepsCubics m →
      Ascending c.parameters.size (nth c.parameters) →
      ∀ i k p, i + 1 < c.parameters.size → c.components[k]? = some p →
      ∃ P : K[X], Scheme.HermiteSegment (nth c.parameters) (nth p.values) (m k) i P ∧
        c.HasCubic i k P) ∧
    ∀ (s : Spline K) (c : Curve K), s.Grown → s.curve = some c →
      s.kind = .sor ∨ s.kind = .akima →
      ∀ k < s.terms, ∃ m, s.kind.slopes? s.store.size s.parameterAt (s.valueAt k) = some m ∧
      ∀ i, i + 1 < s.store.size →
      ∃ P : K[X], Scheme.HermiteSegment s.parameterAt (s.valueAt k) m i P ∧
        c.HasCubic i k P := by
  refine ⟨fun c m hc hx i k p hi hp => hc.hasCubic hx hi hp, ?_⟩
  intro s c hs hc hkind k hk
  have hb := hs.coherent.curve c hc
  obtain ⟨hpar, hlen, hall⟩ := Curve.prepare_eq_ok (build_eq_ok.1 hb).2.2.2
  have hsize : c.parameters.size = s.store.size := by simp [hpar]
  have hnth : nth c.parameters = s.parameterAt := by rw [hpar, parameterAt]
  obtain ⟨p, hp⟩ : ∃ p, c.components[k]? = some p := ⟨_, List.getElem?_eq_getElem (hlen ▸ hk)⟩
  have hvalues : nth p.values = s.valueAt k := by rw [(hall k p hp).1, valueAt]
  obtain ⟨m, hm⟩ : ∃ m : Nat → Nat → K, ∀ k,
      s.kind.slopes? s.store.size s.parameterAt (s.valueAt k) = some (m k) := by
    rcases hkind with h | h <;> rw [h] <;> exact ⟨_, fun _ => rfl⟩
  refine ⟨m k, hm k, fun i hi => ?_⟩
  rw [← hnth, ← hvalues]
  have hx : Ascending c.parameters.size (nth c.parameters) := by
    rw [hsize, hnth]
    exact (points_of_build hb).1
  exact (keepsCubics_of_build hb hm).hasCubic hx (hsize ▸ hi) hp

/-- Cubics with slopes that no kind chooses, read before the start of the first segment, and the
second segment of a SOR spline, which is twice as long as the others, read behind its end. -/
theorem coefficients_hermite_outside :
    let x : Array ℚ := #[0, 2, 3]
    let y : Array ℚ := #[1, 5, 2]
    let c : Curve ℚ :=
      ⟨x, [⟨y, .cubics (tabulate 2 (Scheme.slopeCubic (nth x) (nth y) fun i => i))⟩]⟩
    let s : Spline ℚ := ((((empty .sor 0).place 4 [0, 5] .none).place 0 [0, 0] .none).place 3 [5, 2]
      .none).place 1 [5, 2] .none
    (∃ t, c.interpolate (.position 0) (.position 0) (-1) = .ok t ∧ t.entry [] = 17 / 4) ∧
      ∃ d, s.build = .ok d ∧
        ∃ t, d.interpolate (.position 1) (.position 1) 4 = .ok t ∧ t.entry [] = 38 / 3 := by
  intro x y c s
  constructor
  · have hc : c.KeepsCubics fun _ i => i := by
      rintro (_ | k) p hp
      · cases hp
        rfl
      · cases hp
    have hx : ∀ j < 3, ∀ i < j, nth x i < nth x j := by decide +kernel
    obtain ⟨P, hP, hread⟩ := coefficients_hermite.1 c _ hc
      (fun i j hij hj => hx j hj i hij) 0 0 _ (by decide) rfl
    obtain ⟨t, ht, -, hentry⟩ := hread.interpolate (-1)
    refine ⟨t, ht, ?_⟩
    rw [hentry, hP.blend]
    decide +kernel
  · have hs : s.Grown := by
      refine .place_plain (.place_plain (.place_plain (.place_plain (.empty .sor 0)
        rfl rfl (by decide) ?_) rfl rfl (by decide) ?_) rfl rfl (by decide) ?_) rfl rfl
        (by decide) ?_
      all_goals decide +kernel
    obtain ⟨d, hd⟩ : ∃ d, s.build = .ok d := exists_ok_of_isOk (by decide +kernel)
    have hterms : 1 < s.terms := by decide +kernel
    have hsize : 1 + 1 < s.store.size := by decide +kernel
    obtain ⟨m, hm, hall⟩ :=
      coefficients_hermite.2 { s with curve := some d } d (hs.rebuilt hd) rfl (.inl rfl) 1 hterms
    obtain ⟨P, hP, hread⟩ := hall 1 hsize
    obtain ⟨t, ht, -, hentry⟩ := hread.interpolate 4
    have hlength : s.parameterAt 2 - s.parameterAt 1 = 2 := by decide +kernel
    have hvalues : s.valueAt 1 1 = 2 ∧ s.valueAt 1 2 = 2 := by decide +kernel
    have hslopes : Scheme.chordSlope s.store.size s.parameterAt (s.valueAt 1) 1 = 2 / 3 ∧
        Scheme.chordSlope s.store.size s.parameterAt (s.valueAt 1) 2 = 1 := by decide +kernel
    cases hm
    have hblend : P.eval 4 = Scheme.hermite (4 / (s.parameterAt 2 - s.parameterAt 1))
      (s.valueAt 1 1) (s.valueAt 1 2) ((s.parameterAt 2 - s.parameterAt 1) *
        Scheme.chordSlope s.store.size s.parameterAt (s.valueAt 1) 1)
      ((s.parameterAt 2 - s.parameterAt 1) *
        Scheme.chordSlope s.store.size s.parameterAt (s.valueAt 1) 2) := hP.blend 4
    rw [hlength, hvalues.1, hvalues.2, hslopes.1, hslopes.2] at hblend
    exact ⟨d, hd, t, ht, hentry.trans (hblend.trans (by decide +kernel))⟩

end Spline

end CurveKit
