import CurveKit.Proofs.Exact.Piece
import Mathlib.Topology.Algebra.Order.Field
import Mathlib.Topology.Order.OrderClosed

/-!
# Curves without jumps

A curve has no jump if the formulas of neighbouring segments give the same at the control
point between them, and if the formulas of the outer segments start and stop at the values
that the ends are held at. `Rule.Joined` says so of one component.

Results:
* `Rule.eval_before`, `Rule.eval_behind`, `Rule.eval_between`: a component beyond its ends and
  between them.
* `Rule.Joined.eval_start`, `Rule.Joined.eval_stop`, `Rule.Joined.eval_point`: what a component is
  at its ends and at the control points between them.
* `Rule.Joined.eval_segment`: what it is in a segment, the control points included.
* `Spline.Grown.first_of_joined`, `Spline.Coherent.last_of_joined`: the ends of a curve.
* `Rule.Joined.continuous_eval`: such a component is continuous at every parameter.
* `Spline.continuous_component`: the same for a component of a curve.
-/
namespace CurveKit

open scoped Exact

variable {K : Type} [Field K] [LinearOrder K] {n i : Nat} {x y : Nat → K} {t : K}

namespace Rule

variable {r : Rule K} {extrapolate : Bool}

/-! ## Beyond and between the ends -/

omit [Field K] [LinearOrder K] in
/-- A curve that continues past its ends has no points that only steer it. -/
theorem guides_of_continues [Scalar K] {r : Rule K} (h : r.continues extrapolate = true) :
    r.guides = 0 := by
  cases r with
  | guided p => cases h
  | _ => rfl

/-- Before its first end a component continues, or is held. -/
theorem eval_before (hx : Ascending n x) (hn : 2 ≤ n) (ht : t ≤ x r.guides) :
    r.eval extrapolate n x y t =
      if r.continues extrapolate then r.piece n x y 0 t else y r.guides := by
  rw [eval_eq, if_pos ht]
  split
  · rename_i hc
    rw [guides_of_continues hc] at ht
    rw [segment_of_le hx ht hn]
  · rfl

/-- Behind its last end as well. -/
theorem eval_behind (hx : Ascending n x) (hn : 2 * r.guides + 2 ≤ n)
    (ht : x (n - 1 - r.guides) ≤ t) : r.eval extrapolate n x y t =
      if r.continues extrapolate then r.piece n x y (n - 2) t else y (n - 1 - r.guides) := by
  have hfirst : ¬ t ≤ x r.guides :=
    not_le.2 (lt_of_lt_of_le (hx _ _ (by omega) (by omega)) ht)
  rw [eval_eq, if_neg hfirst, if_pos ht]
  split
  · rename_i hc
    rw [guides_of_continues hc] at ht
    rw [segment_of_ge hx ht (by omega)]
  · rfl

/-- Between its ends a component is what the formula of the segment gives. -/
theorem eval_between (hx : Ascending n x) (hn : 2 * r.guides + 2 ≤ n) (hl : x r.guides < t)
    (hr : t < x (n - 1 - r.guides)) : ∃ i, r.guides ≤ i ∧ i + 1 + r.guides < n ∧ x i ≤ t ∧
      t < x (i + 1) ∧ r.eval extrapolate n x y t = r.piece n x y i t := by
  obtain ⟨hi, hin, hstart, hstop⟩ := segment_between hx hn hl hr
  refine ⟨segment n x t, hi, hin, hstart, hstop, ?_⟩
  rw [eval_eq, if_neg (not_le.2 hl), if_neg (not_le.2 hr), ite_self]

/-! ## Joined formulas -/

/-- The formulas of neighbouring segments agree at the control point between them, and the outer
ones of the segments that are not held agree with the values of the ends there. -/
structure Joined (r : Rule K) (n : Nat) (x y : Nat → K) : Prop where
  inner : ∀ i, i + 2 < n → r.piece n x y i (x (i + 1)) = r.piece n x y (i + 1) (x (i + 1))
  start : r.piece n x y r.guides (x r.guides) = y r.guides
  stop : r.piece n x y (n - 2 - r.guides) (x (n - 1 - r.guides)) = y (n - 1 - r.guides)

section Values

variable (h : r.Joined n x y) (hx : Ascending n x) (hn : 2 * r.guides + 2 ≤ n)

include h hx hn

theorem Joined.pieced_start :
    r.piece n x y (segment n x (x r.guides)) (x r.guides) = y r.guides := by
  rw [segment_point hx (by omega)]
  exact h.start

theorem Joined.pieced_stop :
    r.piece n x y (segment n x (x (n - 1 - r.guides))) (x (n - 1 - r.guides)) =
      y (n - 1 - r.guides) := by
  obtain ⟨m, hm⟩ : ∃ m, n - 1 - r.guides = m + 1 := ⟨n - 2 - r.guides, by omega⟩
  have hstop := h.stop
  rw [show n - 2 - r.guides = m by omega, hm] at hstop
  rw [hm]
  have hlt : x m < x (m + 1) := hx m (m + 1) (by omega) (by omega)
  exact (pieced_eq (f := r.piece n x y) hx h.inner (by omega) hlt.le (le_refl _)).trans hstop

theorem Joined.eval_start : r.eval extrapolate n x y (x r.guides) = y r.guides := by
  rw [eval_eq, if_pos (le_refl _), h.pieced_start hx hn, ite_self]

theorem Joined.eval_stop :
    r.eval extrapolate n x y (x (n - 1 - r.guides)) = y (n - 1 - r.guides) := by
  have hlt : ¬ x (n - 1 - r.guides) ≤ x r.guides := not_le.2 (hx _ _ (by omega) (by omega))
  rw [eval_eq, if_neg hlt, if_pos (le_refl _), h.pieced_stop hx hn, ite_self]

/-- At a control point between the ends a component is what the formula behind it gives. -/
theorem Joined.eval_point (hi : r.guides ≤ i) (hin : i + 1 + r.guides < n) :
    r.eval extrapolate n x y (x i) = r.piece n x y i (x i) := by
  have hp : r.piece n x y (segment n x (x i)) (x i) = r.piece n x y i (x i) := by
    rw [segment_point hx (by omega)]
  rcases hi.eq_or_lt with rfl | hlt
  · rw [h.eval_start hx hn, h.start]
  · have hfirst : ¬ x i ≤ x r.guides := not_le.2 (hx _ _ hlt (by omega))
    have hlast : ¬ x (n - 1 - r.guides) ≤ x i := not_le.2 (hx _ _ (by omega) (by omega))
    rw [eval_eq, if_neg hfirst, if_neg hlast, hp, ite_self]

/-- In a segment with both of its control points a component is what the formula there gives. -/
theorem Joined.eval_segment (hi : r.guides ≤ i) (hin : i + 1 + r.guides < n) (hl : x i ≤ t)
    (hr : t ≤ x (i + 1)) : r.eval extrapolate n x y t = r.piece n x y i t := by
  rcases hl.eq_or_lt with rfl | hl
  · exact h.eval_point hx hn hi hin
  · rcases hr.eq_or_lt with rfl | hr
    · by_cases hlast : i + 2 + r.guides < n
      · rw [h.eval_point hx hn (by omega) (by omega), h.inner i (by omega)]
      · have hstop := h.stop
        rw [show n - 2 - r.guides = i by omega, show n - 1 - r.guides = i + 1 by omega] at hstop
        rw [hstop, ← show n - 1 - r.guides = i + 1 by omega, h.eval_stop hx hn]
    · have hfirst : ¬ t ≤ x r.guides :=
        not_le.2 (lt_of_le_of_lt (hx.le hi (by omega)) hl)
      have hlast : ¬ x (n - 1 - r.guides) ≤ t :=
        not_le.2 (lt_of_lt_of_le hr (hx.le (by omega) (by omega)))
      have hpiece : r.piece n x y (segment n x t) t = r.piece n x y i t :=
        pieced_eq hx h.inner (by omega) hl.le hr.le
      rw [eval_eq, if_neg hfirst, if_neg hlast, hpiece, ite_self]

/-- A component that is held at its ends is the one of the segments at the nearest parameter
between the ends. -/
theorem Joined.eval_eq_clamped (hc : r.continues extrapolate = false) (t : K) :
    let u := max (x r.guides) (min t (x (n - 1 - r.guides)))
    r.eval extrapolate n x y t = r.piece n x y (segment n x u) u := by
  intro u
  have hends : x r.guides ≤ x (n - 1 - r.guides) := hx.le (by omega) (by omega)
  rw [eval_eq, hc, if_neg Bool.false_ne_true]
  by_cases hfirst : t ≤ x r.guides
  · have hu : u = x r.guides := max_eq_left ((min_le_left _ _).trans hfirst)
    rw [if_pos hfirst, hu, h.pieced_start hx hn]
  · rw [if_neg hfirst]
    by_cases hlast : x (n - 1 - r.guides) ≤ t
    · have hu : u = x (n - 1 - r.guides) :=
        (congrArg (max _) (min_eq_right hlast)).trans (max_eq_right hends)
      rw [if_pos hlast, hu, h.pieced_stop hx hn]
    · have hu : u = t :=
        (congrArg (max _) (min_eq_left (not_le.1 hlast).le)).trans
          (max_eq_right (not_le.1 hfirst).le)
      rw [if_neg hlast, hu]

end Values

end Rule

/-! ## The ends of a curve -/

section Ends

variable {s : Spline K} {c : Curve K} {a : Entry K (Knot K)} (hs : s.Grown)
  (hc : s.curve = some c) (hguides : s.kind.guides = 0)
  (h : ∀ k < s.terms, (c.ruleAt k).Joined s.store.size s.parameterAt (s.valueAt k))

include hs hc hguides h

/-- A curve starts at its first point, if all of its components are joined. -/
theorem Spline.Grown.first_of_joined (ha : s.store.entries[0]? = some a) (config : Config) :
    c.piece 0 a.parameter = a.content.value ∧
      s.get config (.ok a.parameter) = .ok a.content.value := by
  have hb := hs.coherent.curve c hc
  obtain ⟨hx, hn⟩ := points_of_build hb
  have hrule (k : Nat) (hk : k < s.terms) : (c.ruleAt k).guides = 0 :=
    (Rule.guides_of_prepare (ruleAt_of_build hb hk)).trans hguides
  rw [← parameterAt_eq ha]
  constructor
  · refine hs.coherent.piece_point hb ha fun k hk => ?_
    have hstart := (h k hk).start
    rwa [hrule k hk] at hstart
  · refine hs.get_point hc config ha fun k hk => ?_
    have hsize : 2 * (c.ruleAt k).guides + 2 ≤ s.store.size := by
      rw [hrule k hk, ← hguides]
      exact s.kind.guides_le.trans hn
    have hstart : (c.ruleAt k).eval (config.isOn .extrapolate) s.store.size s.parameterAt
        (s.valueAt k) _ = _ := (h k hk).eval_start hx hsize
    rwa [hrule k hk] at hstart

/-- A curve stops at its last point, if all of its components are joined. -/
theorem Spline.Grown.last_of_joined (ha : s.store.entries[s.store.size - 1]? = some a)
    (config : Config) : c.piece (s.store.size - 2) a.parameter = a.content.value ∧
      s.get config (.ok a.parameter) = .ok a.content.value := by
  have hb := hs.coherent.curve c hc
  obtain ⟨hx, hn⟩ := points_of_build hb
  have hrule (k : Nat) (hk : k < s.terms) : (c.ruleAt k).guides = 0 :=
    (Rule.guides_of_prepare (ruleAt_of_build hb hk)).trans hguides
  rw [← parameterAt_eq ha]
  constructor
  · refine hs.coherent.piece_point hb ha fun k hk => ?_
    have hstop := (h k hk).stop
    rwa [hrule k hk] at hstop
  · refine hs.get_point hc config ha fun k hk => ?_
    have hsize : 2 * (c.ruleAt k).guides + 2 ≤ s.store.size := by
      rw [hrule k hk, ← hguides]
      exact s.kind.guides_le.trans hn
    have hstop : (c.ruleAt k).eval (config.isOn .extrapolate) s.store.size s.parameterAt
        (s.valueAt k) _ = _ := (h k hk).eval_stop hx hsize
    rwa [hrule k hk] at hstop

end Ends

/-! ## Continuity -/

section Topology

variable [TopologicalSpace K] [OrderTopology K]

/-- Formulas that agree at the control points between them make up a continuous function. -/
theorem continuousOn_pieced {f : Nat → K → K} (h : Ascending n x)
    (hf : ∀ i, i + 2 < n → f i (x (i + 1)) = f (i + 1) (x (i + 1)))
    (hc : ∀ i, i + 1 < n → ContinuousOn (f i) (Set.Icc (x i) (x (i + 1)))) (hn : 0 < n) :
    ContinuousOn (fun t => f (segment n x t) t) (Set.Icc (x 0) (x (n - 1))) := by
  suffices hupTo : ∀ m, m < n →
      ContinuousOn (fun t => f (segment n x t) t) (Set.Icc (x 0) (x m)) from
    hupTo (n - 1) (by omega)
  intro m hm
  induction m with
  | zero =>
    rw [Set.Icc_self]
    exact continuousOn_singleton _ _
  | succ m ih =>
    have hlast : ContinuousOn (fun t => f (segment n x t) t) (Set.Icc (x m) (x (m + 1))) :=
      (hc m hm).congr fun t ht => pieced_eq h hf hm ht.1 ht.2
    rw [← Set.Icc_union_Icc_eq_Icc (h.le (Nat.zero_le m) (by omega)) (h.le (Nat.le_succ m) hm)]
    exact (ih (by omega)).union_of_isClosed hlast isClosed_Icc isClosed_Icc

/-- A component whose formulas are joined and continuous has no jump. -/
theorem Rule.Joined.continuous_eval {r : Rule K} {extrapolate : Bool} (h : r.Joined n x y)
    (hx : Ascending n x) (hn : 2 * r.guides + 2 ≤ n)
    (hc : ∀ i, i + 1 < n → ContinuousOn (r.piece n x y i) (Set.Icc (x i) (x (i + 1))))
    (hcontinued : r.continues extrapolate = true → ∀ i, i + 1 < n → Continuous (r.piece n x y i)) :
    Continuous (r.eval extrapolate n x y) := by
  have hinner := continuousOn_pieced (f := r.piece n x y) hx h.inner hc (by omega)
  cases hr : r.continues extrapolate with
  | false =>
    have hclamp : Continuous fun t => max (x r.guides) (min t (x (n - 1 - r.guides))) :=
      continuous_const.max (continuous_id.min continuous_const)
    rw [funext (h.eval_eq_clamped hx hn hr)]
    refine hinner.comp_continuous hclamp fun t => ⟨?_, ?_⟩
    · exact (hx.le (Nat.zero_le _) (by omega)).trans (le_max_left _ _)
    · refine max_le (hx.le (by omega) (by omega)) ((min_le_right _ _).trans ?_)
      exact hx.le (by omega) (by omega)
  | true =>
    have heval : r.eval extrapolate n x y = fun t => r.piece n x y (segment n x t) t := by
      funext t
      rw [eval_eq, if_pos hr]
    have hbefore : ContinuousOn (fun t => r.piece n x y (segment n x t) t) (Set.Iic (x 0)) :=
      (hcontinued hr 0 (by omega)).continuousOn.congr fun t ht => by
        rw [segment_of_le hx ht (by omega)]
    have hbehind : ContinuousOn (fun t => r.piece n x y (segment n x t) t) (Set.Ici (x (n - 1))) :=
      (hcontinued hr (n - 2) (by omega)).continuousOn.congr fun t ht => by
        rw [segment_of_ge hx ht (by omega)]
    have hends : x 0 ≤ x (n - 1) := hx.le (Nat.zero_le _) (by omega)
    rw [heval, ← continuousOn_univ, ← Set.Iic_union_Ici (a := x (n - 1)),
      ← Set.Iic_union_Icc_eq_Iic hends]
    exact (hbefore.union_of_isClosed hinner isClosed_Iic isClosed_Icc).union_of_isClosed hbehind
      (isClosed_Iic.union isClosed_Icc) isClosed_Ici

omit [OrderTopology K] in
/-- A component of a curve has no jump if the one of its rule has none. -/
theorem Spline.continuous_component {s : Spline K} {c : Curve K} (hb : s.build = .ok c)
    {extrapolate : Bool}
    (h : ∀ k < s.terms,
      Continuous ((c.ruleAt k).eval extrapolate s.store.size s.parameterAt (s.valueAt k)))
    (k : Nat) :
    Continuous fun t => (c.eval extrapolate t).getD k 0 := by
  by_cases hk : k < s.terms
  · refine (h k hk).congr fun t => ?_
    simp [eval_of_build hb, hk]
  · refine continuous_const.congr (f := fun _ => (0 : K)) fun t => ?_
    simp [eval_of_build hb, hk]

end Topology

end CurveKit
