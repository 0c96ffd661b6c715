import CurveKit.Proofs.Exact.Continuous
import Mathlib.Analysis.Normed.Field.Lemmas
import Mathlib.Tactic.FieldSimp
import Mathlib.Tactic.Ring

/-!
# Curves through their control points

In exact arithmetic the formula of a segment runs from the control point before it to the
one behind it, for every scheme but those of the X-splines. So the curve takes the value of
a control point there, whichever of the two formulas is used, and it has no jump. A guided
curve does so between its second and its second-to-last point.

Results:
* `Scheme.links_line`, `Scheme.links_parabola`, `Scheme.links_natural`, `Scheme.links_catmullRom`,
  `Scheme.links_tangent`, `Scheme.links_slopeCubic`: the formulas of the schemes, one by one.
* `Rule.links_of_prepare`: all of them together.
* `Spline.interpolates`: the same for every finalized spline.
-/
namespace CurveKit

open scoped Exact

variable {K : Type} [Field K] [LinearOrder K] {n i : Nat} {x y : Nat → K}

/-! ## The formulas -/

namespace Scheme

/-- A function runs from control point `i` to the next one. -/
structure Links (x y : Nat → K) (i : Nat) (f : K → K) : Prop where
  start : f (x i) = y i
  stop : f (x (i + 1)) = y (i + 1)

omit [LinearOrder K] in
theorem position_start (i : Nat) : (x i - x i) / (x (i + 1) - x i) = 0 := by
  rw [sub_self, zero_div]

theorem position_stop (h : x i < x (i + 1)) : (x (i + 1) - x i) / (x (i + 1) - x i) = 1 :=
  div_self (sub_ne_zero.2 h.ne')

theorem links_line (h : x i < x (i + 1)) : Links x y i (linePiece x y i) where
  start := by
    rw [linePiece, position_start, zero_mul, add_zero]
  stop := by
    rw [linePiece, position_stop h, one_mul, add_sub_cancel]

theorem parabolaPiece_eq {j : Nat} (h : x j < x (j + 1)) (h' : x (j + 1) < x (j + 2)) :
    Links x y j (parabolaPiece x y j) ∧ Links x y (j + 1) (parabolaPiece x y j) := by
  have h01 : x j - x (j + 1) ≠ 0 := sub_ne_zero.2 h.ne
  have h02 : x j - x (j + 2) ≠ 0 := sub_ne_zero.2 (h.trans h').ne
  have h12 : x (j + 1) - x (j + 2) ≠ 0 := sub_ne_zero.2 h'.ne
  have h10 : x (j + 1) - x j ≠ 0 := sub_ne_zero.2 h.ne'
  have h20 : x (j + 2) - x j ≠ 0 := sub_ne_zero.2 (h.trans h').ne'
  have h21 : x (j + 2) - x (j + 1) ≠ 0 := sub_ne_zero.2 h'.ne'
  have first : parabolaPiece x y j (x j) = y j := by
    simp only [parabolaPiece, sub_self, zero_mul, zero_div, add_zero]
    rw [div_self (mul_ne_zero h01 h02), one_mul]
  have second : parabolaPiece x y j (x (j + 1)) = y (j + 1) := by
    simp only [parabolaPiece, sub_self, zero_mul, mul_zero, zero_div, add_zero, zero_add]
    rw [div_self (mul_ne_zero h10 h12), one_mul]
  have third : parabolaPiece x y j (x (j + 2)) = y (j + 2) := by
    simp only [parabolaPiece, sub_self, mul_zero, zero_div, zero_mul, zero_add]
    rw [div_self (mul_ne_zero h20 h21), one_mul]
  exact ⟨⟨first, second⟩, ⟨second, third⟩⟩

theorem links_parabola (hx : Ascending n x) (hn : 3 ≤ n) (hi : i + 1 < n) :
    Links x y i (parabolaPiece x y (i - 1)) := by
  cases i with
  | zero => exact (parabolaPiece_eq (hx 0 1 (by omega) (by omega)) (hx 1 2 (by omega) hn)).1
  | succ j =>
    exact (parabolaPiece_eq (hx j (j + 1) (by omega) (by omega))
      (hx (j + 1) (j + 2) (by omega) hi)).2

theorem links_natural (m : Nat → K) (h : x i < x (i + 1)) :
    Links x y i (naturalPiece x y m i) where
  start := by
    simp [naturalPiece, position_stop h, Scalar.cube]
  stop := by
    simp [naturalPiece, position_stop h, Scalar.cube]

theorem hermite_zero (v0 v1 m0 m1 : K) : hermite 0 v0 v1 m0 m1 = v0 := by
  simp [hermite]

theorem hermite_one (v0 v1 m0 m1 : K) : hermite 1 v0 v1 m0 m1 = v1 := by
  simp only [hermite, Scalar.ofNat_eq, Scalar.one_eq]
  ring

theorem links_catmullRom (n : Nat) (h : x i < x (i + 1)) :
    Links x y i (catmullRomPiece n x y i) where
  start := by
    rw [catmullRomPiece, position_start, hermite_zero]
  stop := by
    rw [catmullRomPiece, position_stop h, hermite_one]

theorem links_tangent (incoming outgoing : Nat → K) (h : x i < x (i + 1)) :
    Links x y i (tangentPiece x y incoming outgoing i) where
  start := by
    rw [tangentPiece, position_start, hermite_zero]
  stop := by
    rw [tangentPiece, position_stop h, hermite_one]

theorem links_slopeCubic {p : Nat → Cubic K} {m : Nat → K} (hp : p i = slopeCubic x y m i)
    (h : x i < x (i + 1)) : Links x y i (cubicPiece x p i) where
  start := by
    rw [cubicPiece, hp, sub_self, Cubic.eval, zero_mul, add_zero]
    rfl
  stop := by
    have hne : x (i + 1) - x i ≠ 0 := sub_ne_zero.2 h.ne'
    rw [cubicPiece, hp]
    simp only [Cubic.eval, slopeCubic, secant, Scalar.ofNat_eq]
    field_simp
    ring

end Scheme

/-! ## The rules of the schemes -/

namespace Rule

variable {kind : Kind} {bend : Nat → Bend K} {shape : K} {r : Rule K}

/-- The formulas of all schemes but those of the X-splines run from one control point to the
next. -/
theorem links_of_prepare (h : prepare kind n x y bend shape = .ok r) (hf : kind.family? = none)
    (hx : Ascending n x) (hn : kind.minPoints ≤ n) (hi : i + 1 < n) :
    Scheme.Links x y i (r.piece n x y i) := by
  have hlt : x i < x (i + 1) := hx i (i + 1) (by omega) hi
  cases kind with
  | linear =>
    cases h
    exact Scheme.links_line hlt
  | quadratic =>
    cases h
    exact Scheme.links_parabola hx hn hi
  | natural =>
    obtain ⟨m, -, rfl⟩ := map_eq_ok.1 h
    exact Scheme.links_natural _ hlt
  | catmullRom =>
    cases h
    exact Scheme.links_catmullRom n hlt
  | sor =>
    cases h
    exact Scheme.links_slopeCubic (nthCubic_tabulate _ (by omega)) hlt
  | akima =>
    cases h
    exact Scheme.links_slopeCubic (nthCubic_tabulate _ (by omega)) hlt
  | tcb =>
    cases h
    exact Scheme.links_tangent _ _ hlt
  | basicX => cases hf
  | extendedX => cases hf
  | generalX => cases hf

theorem joined_of_links (h : ∀ i, i + 1 < n → Scheme.Links x y i (r.piece n x y i))
    (hn : 2 * r.guides + 2 ≤ n) : r.Joined n x y where
  inner i hi := (h i (by omega)).stop.trans (h (i + 1) hi).start.symm
  start := (h _ (by omega)).start
  stop := by
    have hstop := (h (n - 2 - r.guides) (by omega)).stop
    rwa [show n - 2 - r.guides + 1 = n - 1 - r.guides by omega] at hstop

/-- A component whose formulas run from one control point to the next goes through all points that
do not only steer it. -/
theorem eval_of_links (h : ∀ i, i + 1 < n → Scheme.Links x y i (r.piece n x y i))
    (hx : Ascending n x) (hn : 2 * r.guides + 2 ≤ n) (extrapolate : Bool) (hi : r.guides ≤ i)
    (hin : i + r.guides < n) : r.eval extrapolate n x y (x i) = y i := by
  have hj := joined_of_links h hn
  by_cases hlast : i + 1 + r.guides < n
  · rw [hj.eval_point hx hn hi hlast, (h i (by omega)).start]
  · obtain rfl : i = n - 1 - r.guides := by omega
    exact hj.eval_stop hx hn

theorem eval_of_guides (hr : r.guides = 1) (extrapolate : Bool) (n : Nat) (x y : Nat → K) (t : K) :
    (t ≤ x 1 → r.eval extrapolate n x y t = y 1) ∧
      (x 1 < x (n - 2) → x (n - 2) ≤ t → r.eval extrapolate n x y t = y (n - 2)) := by
  have hc : r.continues extrapolate = false := by
    cases r with
    | guided p => rfl
    | _ => cases hr
  rw [eval_eq, hc, hr, if_neg Bool.false_ne_true, Nat.sub_sub]
  refine ⟨fun ht => if_pos ht, fun hlt ht => ?_⟩
  rw [if_neg (not_le.2 (lt_of_lt_of_le hlt ht)), if_pos ht]

/-- The formulas of all schemes but those of the X-splines are polynomials. -/
theorem continuous_piece_of_prepare [IsStrictOrderedRing K] [TopologicalSpace K] [OrderTopology K]
    (h : prepare kind n x y bend shape = .ok r) (hf : kind.family? = none) (i : Nat) :
    Continuous (r.piece n x y i) := by
  cases kind with
  | natural =>
    obtain ⟨m, -, rfl⟩ := map_eq_ok.1 h
    unfold piece Scheme.naturalPiece
    simp only [Scalar.cube]
    fun_prop
  | linear =>
    cases h
    unfold piece Scheme.linePiece
    fun_prop
  | quadratic =>
    cases h
    unfold piece Scheme.parabolaPiece
    fun_prop
  | catmullRom =>
    cases h
    unfold piece Scheme.catmullRomPiece Scheme.hermite
    fun_prop
  | sor =>
    cases h
    unfold piece Scheme.cubicPiece Scheme.Cubic.eval
    fun_prop
  | akima =>
    cases h
    unfold piece Scheme.cubicPiece Scheme.Cubic.eval
    fun_prop
  | tcb =>
    cases h
    unfold piece Scheme.tangentPiece Scheme.hermite
    fun_prop
  | basicX => cases hf
  | extendedX => cases hf
  | generalX => cases hf

end Rule

/-! ## Splines -/

namespace Spline

variable [IsStrictOrderedRing K] [TopologicalSpace K] [OrderTopology K] {s : Spline K} {c : Curve K}

/-- **Interpolation.** A finalized spline of any kind but the X-splines goes through its control
points, whether it extrapolates or not: at the parameter of a control point both formulas that meet
there give its value, and so does the spline itself. Only the first and the last point of a guided
spline are left out; it has the value of their neighbours there. So no component has a jump, as the
spline is what the formula of the segment gives between its ends. -/
theorem interpolates (hg : s.Grown) (hf : s.kind.family? = none) (hc : s.curve = some c)
    (config : Config) :
    let n := s.store.size
    (∀ i a, s.store.entries[i]? = some a →
      (i + 1 < n → c.piece i a.parameter = a.content.value) ∧
      (0 < i → c.piece (i - 1) a.parameter = a.content.value) ∧
      ((s.kind = .sor → 0 < i ∧ i + 1 < n) →
        s.get config (.ok a.parameter) = .ok a.content.value)) ∧
    (s.kind = .sor → ∀ a b,
      (s.store.entries[0]? = some a → s.store.entries[1]? = some b →
        s.get config (.ok a.parameter) = .ok b.content.value) ∧
      (s.store.entries[n - 1]? = some a → s.store.entries[n - 2]? = some b →
        s.get config (.ok a.parameter) = .ok b.content.value)) ∧
    (∀ t, s.parameterAt s.kind.guides < t → t < s.parameterAt (n - 1 - s.kind.guides) →
      s.get config (.ok t) = .ok (c.piece (segment n s.parameterAt t) t)) ∧
    (∀ t, s.get config (.ok t) = .ok (c.eval (config.isOn .extrapolate) t)) ∧
      ∀ k, Continuous fun t => (c.eval (config.isOn .extrapolate) t).getD k 0 := by
  intro n
  have hb := hg.coherent.curve c hc
  obtain ⟨hx, hn⟩ := points_of_build hb
  have hprepare (k : Nat) (hk : k < s.terms) := ruleAt_of_build hb hk
  have hlinks (k : Nat) (hk : k < s.terms) (i : Nat) (hi : i + 1 < n) :=
    Rule.links_of_prepare (hprepare k hk) hf hx hn hi
  have hguides (k : Nat) (hk : k < s.terms) := Rule.guides_of_prepare (hprepare k hk)
  have hmin : 2 * s.kind.guides + 2 ≤ n := s.kind.guides_le.trans hn
  have hsize (k : Nat) (hk : k < s.terms) : 2 * (c.ruleAt k).guides + 2 ≤ n := by
    rw [hguides k hk]
    exact hmin
  have hjoined (k : Nat) (hk : k < s.terms) := Rule.joined_of_links (hlinks k hk) (hsize k hk)
  refine ⟨fun i a ha => ⟨fun hi => ?_, fun hi => ?_, fun hi => ?_⟩, fun hk a b => ⟨?_, ?_⟩,
    fun t hl hr => hg.get_between hc config hl hr, hg.get_eq hc config,
    continuous_component hb fun k hk => ?_⟩
  · refine hg.coherent.piece_point hb ha fun k hk => ?_
    rw [← parameterAt_eq ha]
    exact (hlinks k hk i hi).start
  · refine hg.coherent.piece_point hb ha fun k hk => ?_
    obtain ⟨j, rfl⟩ : ∃ j, i = j + 1 := ⟨i - 1, by omega⟩
    rw [← parameterAt_eq ha]
    exact (hlinks k hk j (List.getElem?_eq_some_iff.1 ha).1).stop
  · refine hg.get_point hc config ha fun k hk => ?_
    have hin : s.kind.guides ≤ i ∧ i + s.kind.guides < n := by
      have hlt := (List.getElem?_eq_some_iff.1 ha).1
      by_cases hk : s.kind = .sor
      · rw [hk]
        exact hi hk
      · rw [Kind.guides_of_ne hk]
        exact ⟨Nat.zero_le i, hlt⟩
    rw [← parameterAt_eq ha]
    rw [← hguides k hk] at hin
    exact Rule.eval_of_links (hlinks k hk) hx (hsize k hk) _ hin.1 hin.2
  · intro ha hb'
    refine hg.get_point hc config hb' fun k hk' => ?_
    have hr : (c.ruleAt k).guides = 1 := by rw [hguides k hk', hk]; rfl
    rw [← parameterAt_eq ha]
    exact (Rule.eval_of_guides hr _ n _ _ _).1 (hx.le (Nat.zero_le 1) (by omega))
  · intro ha hb'
    refine hg.get_point hc config hb' fun k hk' => ?_
    have hr : (c.ruleAt k).guides = 1 := by rw [hguides k hk', hk]; rfl
    rw [hk] at hn
    have hn : 4 ≤ n := hn
    rw [← parameterAt_eq ha]
    exact (Rule.eval_of_guides hr _ n _ _ _).2 (hx 1 (n - 2) (by omega) (by omega))
      (hx.le (by omega) (by omega))
  · exact (hjoined k hk).continuous_eval hx (hsize k hk)
      (fun i _ => (Rule.continuous_piece_of_prepare (hprepare k hk) hf i).continuousOn)
      fun _ i _ => Rule.continuous_piece_of_prepare (hprepare k hk) hf i

/-- A guided spline of four rational points that came out of order. -/
theorem interpolates_guided :
    let s : Spline ℚ := ((((empty .sor 0).place 3 [1] .none).place 0 [4] .none).place 6 [5]
      .none).place 1 [2] .none
    ∃ c, s.build = .ok c ∧
      let t : Spline ℚ := { s with curve := some c }
      t.get .builtin (.ok 3) = .ok [1] ∧ c.piece 1 3 = [1] ∧ c.piece 2 3 = [1] ∧
        t.get .builtin (.ok 0) = .ok [2] ∧ Continuous fun u => (c.eval true u).getD 0 0 := by
  intro s
  have hg : s.Grown := by
    refine .place_plain (.place_plain (.place_plain (.place_plain (.empty .sor 0) rfl rfl
      (by decide) ?_) rfl rfl (by decide) ?_) rfl rfl (by decide) ?_) rfl rfl (by decide) ?_
    all_goals decide +kernel
  obtain ⟨c, hb⟩ : ∃ c, s.build = .ok c := exists_ok_of_isOk (by decide +kernel)
  obtain ⟨hpoint, hends, -, -, hcontinuous⟩ := interpolates (hg.rebuilt hb) rfl rfl .builtin
  have hfirst : s.store.entries[0]? = some ⟨0, ⟨[4], .none⟩⟩ :=
    entry_eq (by decide +kernel) (by decide +kernel)
  have hsecond : s.store.entries[1]? = some ⟨1, ⟨[2], .none⟩⟩ :=
    entry_eq (by decide +kernel) (by decide +kernel)
  have hthird : s.store.entries[2]? = some ⟨3, ⟨[1], .none⟩⟩ :=
    entry_eq (by decide +kernel) (by decide +kernel)
  have hinner : 2 + 1 < s.store.size := by decide +kernel
  obtain ⟨hbehind, hbefore, hvalue⟩ := hpoint 2 _ hthird
  have hpassed := hvalue fun _ => ⟨by decide, hinner⟩
  have hstart := (hends rfl _ _).1 hfirst hsecond
  exact ⟨c, hb, hpassed, hbefore (by decide), hbehind hinner, hstart, hcontinuous 0⟩

end Spline

end CurveKit
