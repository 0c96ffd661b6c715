import CurveKit.Proofs.Exact.Continuous
import CurveKit.Proofs.Exact.Hull
import Mathlib.Analysis.Normed.Field.Lemmas
import Mathlib.Tactic.FieldSimp

/-!
# X-splines at their control points

At a control point the two formulas that meet there give the same, though each of them has
weights of its own: the outer weights of both segments vanish or stand for the same two
neighbours, and the point itself has weight 1 from both sides. A shape up to 0 keeps the
curve on the point; a positive one pulls it towards the mean of the neighbours.

Results:
* `Scheme.endWeights_one`, `Scheme.endWeights_zero`: the weights of an end at both ends of a
  segment.
* `Scheme.blendPiece_stop`, `Scheme.blendPiece_start`: the two formulas at a control point.
* `Scheme.continuousOn_blendPiece`: a formula has no jump in its segment.
* `Spline.knot_values`: all of this for every finalized X-spline.
-/
namespace CurveKit

open scoped Exact

/-! ## Weights at the ends of a segment -/

namespace Scheme

section Values

variable {K : Type} [Field K] [LinearOrder K] {f : Family} {s s1 s2 : K}

/-- The weight that a point of positive shape gives to each of its neighbours. -/
def pull (f : Family) (s : K) : K := fBlend s (1 + s) (f.exponent s)

/-- What an X-spline is at a control point of shape `s`, from the values of the point and of its
neighbours: the point itself, or the mean of the three in which it has weight 1. -/
def knotValue (f : Family) (s before own behind : K) : K :=
  if s ≤ 0 then own else (pull f s * before + own + pull f s * behind) / (pull f s + 1 + pull f s)

theorem fBlend_zero (b p : K) : fBlend 0 b p = 0 := by
  rw [fBlend_eq, zero_div, zero_pow (by decide), zero_mul]

theorem fBlend_self {b : K} (h : b ≠ 0) (p : K) : fBlend b b p = 1 := by
  rw [fBlend_eq, div_self h]
  ring

variable [IsStrictOrderedRing K]

/-- At the other end of the segment the neighbour has all of the weight. -/
theorem endWeights_one (h : f.Admits s) : endWeights f 1 s = (0, 1) := by
  rw [endWeights]
  cases hs : f.isSharp s with
  | true =>
    rw [if_pos rfl]
    simp only [Scalar.ofNat_eq]
    rw [hBlend_neg, gBlend_eq]
    exact Prod.ext (by ring) (by ring)
  | false =>
    have hne : 1 + s ≠ 0 := by linarith [h.nonneg hs]
    have hcut : ¬ 1 < s := not_lt.2 h.high
    rw [if_neg Bool.false_ne_true, leftWeights]
    simp only [Scalar.one_eq, Scalar.zero_eq]
    exact Prod.ext (if_neg hcut) (fBlend_self hne _)

/-- At the point itself both neighbours have the same weight, and none unless the shape is
positive. -/
theorem endWeights_zero (h : f.Admits s) :
    endWeights f 0 s = if s ≤ 0 then (0, 0) else (pull f s, pull f s) := by
  rw [endWeights]
  cases hs : f.isSharp s with
  | true =>
    rw [if_pos rfl, if_pos (neg_of_isSharp hs).le]
    simp only [Scalar.ofNat_eq]
    rw [hBlend_neg, gBlend_eq]
    exact Prod.ext (by ring) (by ring)
  | false =>
    have hneg : fBlend (0 - s) (-1 - s) (f.exponent s) = pull f s := by
      rw [pull, ← fBlend_neg]
      congr 1 <;> ring
    rw [if_neg Bool.false_ne_true, leftWeights]
    simp only [Scalar.one_eq, Scalar.zero_eq, zero_add, hneg]
    rcases (h.nonneg hs).eq_or_lt with rfl | hpos
    · simp only [lt_irrefl, if_false, le_refl, if_true]
      rw [fBlend_zero]
    · rw [if_neg (not_le.2 hpos)]
      exact Prod.ext (if_pos hpos) rfl

variable {p0 p1 p2 p3 : K}

theorem mean_one (h1 : f.Admits s1) (h2 : f.Admits s2) :
    (weights f 1 s1 s2).mean p0 p1 p2 p3 = knotValue f s2 p1 p2 p3 := by
  rw [weights_eq, sub_self, endWeights_one h1, endWeights_zero h2, knotValue]
  split
  · simp [Weights.mean, Weights.total]
  · simp only [Weights.mean, Weights.total]
    congr 1 <;> ring

theorem mean_zero (h1 : f.Admits s1) (h2 : f.Admits s2) :
    (weights f 0 s1 s2).mean p0 p1 p2 p3 = knotValue f s1 p0 p1 p2 := by
  rw [weights_eq, sub_zero, endWeights_one h2, endWeights_zero h1, knotValue]
  split
  · simp [Weights.mean, Weights.total]
  · simp only [Weights.mean, Weights.total]
    congr 1 <;> ring

end Values

/-! ## Formulas at their ends -/

section Pieces

variable {K : Type} [Field K] [LinearOrder K] {f : Family} {n i : Nat} {x y shape : Nat → K} {t : K}

/-- The shape that a control point acts with: the ends of the curve act with 0. -/
def actingShape (n : Nat) (shape : Nat → K) (i : Nat) : K :=
  if i = 0 ∨ i + 1 = n then 0 else shape i

omit [LinearOrder K] in
theorem actingShape_inner (h0 : 0 < i) (hi : i + 1 < n) : actingShape n shape i = shape i :=
  if_neg (by omega)

theorem blendWeights_eq (hi : i + 1 < n) : blendWeights f n x shape i t =
    weights f ((t - x i) / (x (i + 1) - x i)) (actingShape n shape i)
      (actingShape n shape (i + 1)) := by
  have h1 : actingShape n shape i =
      if i == 0 then @OfNat.ofNat K 0 (Scalar.literal 0) else shape i := by
    have hne : i + 1 ≠ n := by omega
    simp [actingShape, hne]
  have h2 : actingShape n shape (i + 1) =
      if i + 2 == n then @OfNat.ofNat K 0 (Scalar.literal 0) else shape (i + 1) := by
    simp [actingShape]
  rw [h1, h2]
  rfl

omit [LinearOrder K] in
theorem actingShape_first : actingShape n shape 0 = 0 := if_pos (.inl rfl)

omit [LinearOrder K] in
theorem actingShape_last (hi : i + 1 = n) : actingShape n shape i = 0 := if_pos (.inr hi)

theorem knotValue_zero (f : Family) (a b c : K) : knotValue f 0 a b c = b := if_pos (le_refl 0)

variable [IsStrictOrderedRing K]

theorem admits_actingShape (h : ∀ j < n, f.Admits (shape j)) (hi : i < n) :
    f.Admits (actingShape n shape i) := by
  unfold actingShape
  split
  · exact f.admits_zero
  · exact h i hi

variable (hs : ∀ j < n, f.Admits (shape j)) (hi : i + 1 < n) (hx : x i < x (i + 1))

include hs hi

/-- The formula of a segment at its start. -/
theorem blendPiece_start : blendPiece f n x y shape i (x i) =
    knotValue f (actingShape n shape i) (y (i - 1)) (y i) (y (i + 1)) := by
  have hzero : (x i - x i) / (x (i + 1) - x i) = 0 := by rw [sub_self, zero_div]
  rw [blendPiece, blendWeights_eq hi, hzero,
    mean_zero (admits_actingShape hs (by omega)) (admits_actingShape hs hi)]

include hx

/-- The formula of a segment at its end. -/
theorem blendPiece_stop : blendPiece f n x y shape i (x (i + 1)) =
    knotValue f (actingShape n shape (i + 1)) (y i) (y (i + 1)) (y (min (i + 2) (n - 1))) := by
  have hone : (x (i + 1) - x i) / (x (i + 1) - x i) = 1 := div_self (sub_ne_zero.2 hx.ne')
  rw [blendPiece, blendWeights_eq hi, hone,
    mean_one (admits_actingShape hs (by omega)) (admits_actingShape hs hi)]

theorem total_pos_of_mem (ht : t ∈ Set.Icc (x i) (x (i + 1))) :
    0 < (blendWeights f n x shape i t).total := by
  have hlength : 0 < x (i + 1) - x i := sub_pos.2 hx
  rw [blendWeights_eq hi]
  refine total_pos (div_nonneg (sub_nonneg.2 ht.1) hlength.le) ?_
    (admits_actingShape hs (by omega)) (admits_actingShape hs hi)
  exact (div_le_one hlength).2 (sub_le_sub_right ht.2 _)

end Pieces

section Joined

variable {K : Type} [Field K] [LinearOrder K] [IsStrictOrderedRing K] {f : Family} {n : Nat}
  {x y : Nat → K}

theorem joined_blends {shapes : Array K} (hs : ∀ j < n, f.Admits (nth shapes j))
    (hx : Ascending n x) (hn : 2 ≤ n) : (Rule.blends f shapes).Joined n x y where
  inner i hi := by
    have hnext : min (i + 2) (n - 1) = i + 2 := by omega
    have hstop := blendPiece_stop (y := y) hs (by omega) (hx i (i + 1) (by omega) (by omega))
    have hstart := blendPiece_start (x := x) (y := y) hs hi
    rw [hnext] at hstop
    exact hstop.trans hstart.symm
  start := by
    have hstart := blendPiece_start (x := x) (y := y) hs (show 0 + 1 < n by omega)
    rw [actingShape_first, knotValue_zero] at hstart
    exact hstart
  stop := by
    obtain ⟨m, rfl⟩ : ∃ m, n = m + 2 := ⟨n - 2, by omega⟩
    have hstop := blendPiece_stop (y := y) hs (show m + 1 < m + 2 by omega)
      (hx m (m + 1) (by omega) (by omega))
    rw [actingShape_last rfl, knotValue_zero] at hstop
    exact hstop

end Joined

/-! ## Continuity -/

section Topology

variable {K : Type} [Field K] [LinearOrder K] [IsStrictOrderedRing K] [TopologicalSpace K]
  [OrderTopology K] {f : Family} {n i : Nat} {x y shape : Nat → K}

theorem continuous_fBlend {g : K → K} (hg : Continuous g) (b p : K) :
    Continuous fun t => fBlend (g t) b p := by
  unfold fBlend
  fun_prop

/-- The weights of an end have no jump, not even where the outer one drops out. -/
theorem continuous_endWeights (f : Family) (s : K) : Continuous fun t => endWeights f t s := by
  unfold endWeights
  cases f.isSharp s with
  | true =>
    simp only [if_true]
    unfold hBlend gBlend
    fun_prop
  | false =>
    simp only [Bool.false_eq_true, if_false]
    unfold leftWeights
    simp only [Scalar.zero_eq, Scalar.one_eq]
    refine .prodMk ?_ (continuous_fBlend (continuous_id.add continuous_const) _ _)
    simp only [← not_le, ite_not]
    refine .if_le continuous_const (continuous_fBlend (continuous_id.sub continuous_const) _ _)
      continuous_const continuous_id fun t ht => ?_
    rw [← ht, sub_self, fBlend_zero]

theorem continuousOn_blendPiece (hs : ∀ j < n, f.Admits (shape j)) (hi : i + 1 < n)
    (hx : x i < x (i + 1)) :
    ContinuousOn (blendPiece f n x y shape i) (Set.Icc (x i) (x (i + 1))) := by
  have hleft : Continuous fun t =>
      endWeights f ((t - x i) / (x (i + 1) - x i)) (actingShape n shape i) :=
    (continuous_endWeights f _).comp (by fun_prop)
  have hright : Continuous fun t =>
      endWeights f (1 - (t - x i) / (x (i + 1) - x i)) (actingShape n shape (i + 1)) :=
    (continuous_endWeights f _).comp (by fun_prop)
  unfold blendPiece Weights.mean
  refine ContinuousOn.div ?_ ?_ fun t ht => (total_pos_of_mem hs hi hx ht).ne'
  all_goals
    simp only [blendWeights_eq hi, weights_eq, Weights.total]
    refine Continuous.continuousOn ?_
    fun_prop

end Topology

end Scheme

/-! ## Splines -/

namespace Spline

open Scheme (Family blendPiece knotValue)

/-- The shape of control point `i` of an X-spline: the one that all points share, or its own. -/
def shapeAt {K : Type} [Scalar K] (s : Spline K) (i : Nat) : K :=
  if s.kind = .basicX then s.globalShape
  else (s.store.contents[i]?).elim 0 fun a => a.bend.freedom

variable {K : Type} [Field K] [LinearOrder K] {s : Spline K} {c : Curve K} {f : Family} {k : Nat}

/-- The components of an X-spline blend with these shapes. -/
theorem ruleAt_family (hb : s.build = .ok c) (hf : s.kind.family? = some f) (hk : k < s.terms) :
    c.ruleAt k = .blends f (tabulate s.store.size s.shapeAt) := by
  have hown (hne : s.kind ≠ .basicX) : s.shapeAt = fun i =>
      ((s.store.contents.map fun a => a.bend).toArray.getD i Bend.none).freedom := by
    funext i
    rw [shapeAt, if_neg hne]
    cases hp : s.store.contents[i]? <;> simp [hp, Bend.freedom]
  have hshared (he : s.kind = .basicX) : s.shapeAt = fun _ => s.globalShape := by
    funext i
    rw [shapeAt, if_pos he]
  have h := ruleAt_of_build hb hk
  unfold Curve.ruleOf Rule.prepare at h
  cases he : s.kind with
  | basicX =>
    rw [he] at h hf
    cases hf
    rw [hshared he]
    exact (Except.ok.inj h).symm
  | extendedX =>
    rw [he] at h hf
    cases hf
    rw [hown (by rw [he]; decide)]
    exact (Except.ok.inj h).symm
  | generalX =>
    rw [he] at h hf
    cases hf
    rw [hown (by rw [he]; decide)]
    exact (Except.ok.inj h).symm
  | _ =>
    rw [he] at hf
    cases hf

theorem piece_family (hb : s.build = .ok c) (hf : s.kind.family? = some f) (hk : k < s.terms)
    {i : Nat} (hi : i + 1 < s.store.size) (y : Nat → K) (t : K) :
    (c.ruleAt k).piece s.store.size s.parameterAt y i t =
      blendPiece f s.store.size s.parameterAt y s.shapeAt i t := by
  rw [ruleAt_family hb hf hk]
  simp only [Rule.piece, blendPiece, Scheme.blendWeights, nth_tabulate s.shapeAt hi,
    nth_tabulate s.shapeAt (show i < s.store.size by omega)]

variable [IsStrictOrderedRing K]

theorem Grown.admits_shapeAt (hg : s.Grown) (hf : s.kind.family? = some f) (i : Nat) :
    f.Admits (s.shapeAt i) := by
  obtain ⟨hpoints, hshared⟩ := hg.admits hf
  unfold shapeAt
  split
  · exact hshared
  · cases hp : s.store.contents[i]? with
    | none =>
      simp only [Option.elim_none, Scalar.zero_eq]
      exact f.admits_zero
    | some a => exact hpoints a (List.mem_of_getElem? hp)

variable [TopologicalSpace K] [OrderTopology K]

/-- **X-splines at their control points.** Both formulas that meet at a control point between the
ends of a finalized X-spline give the same there: the value of the point, if its shape is not
positive, and otherwise a mean of the point and its two neighbours. At the ends the formulas give
the values of the end points, whatever shapes these have. The spline takes all these values, and no
component of it has a jump. -/
theorem knot_values (hg : s.Grown) (hf : s.kind.family? = some f) (hc : s.curve = some c)
    (config : Config) :
    let n := s.store.size
    let x := s.parameterAt
    (∀ i, 0 < i → i + 1 < n →
      let v := (List.range s.terms).map fun k =>
        knotValue f (s.shapeAt i) (s.valueAt k (i - 1)) (s.valueAt k i) (s.valueAt k (i + 1))
      c.piece (i - 1) (x i) = v ∧ c.piece i (x i) = v ∧ s.get config (.ok (x i)) = .ok v) ∧
    (∀ a, s.store.entries[0]? = some a → c.piece 0 a.parameter = a.content.value ∧
      s.get config (.ok a.parameter) = .ok a.content.value) ∧
    (∀ a, s.store.entries[n - 1]? = some a → c.piece (n - 2) a.parameter = a.content.value ∧
      s.get config (.ok a.parameter) = .ok a.content.value) ∧
    (∀ t, x 0 < t → t < x (n - 1) → s.get config (.ok t) = .ok (c.piece (segment n x t) t)) ∧
    (∀ t, s.get config (.ok t) = .ok (c.eval (config.isOn .extrapolate) t)) ∧
      ∀ k, Continuous fun t => (c.eval (config.isOn .extrapolate) t).getD k 0 := by
  intro n x
  have hb := hg.coherent.curve c hc
  obtain ⟨hx, hn⟩ := points_of_build hb
  obtain ⟨hmin, hguides⟩ := Kind.points_of_family hf
  rw [hmin] at hn
  have hadmits (j : Nat) (hj : j < n) : f.Admits (s.shapeAt j) := hg.admits_shapeAt hf j
  have hjoined (k : Nat) (hk : k < s.terms) : (c.ruleAt k).Joined n x (s.valueAt k) := by
    rw [ruleAt_family hb hf hk]
    refine Scheme.joined_blends (fun j hj => ?_) hx hn
    rw [nth_tabulate s.shapeAt hj]
    exact hadmits j hj
  have hrule (k : Nat) (hk : k < s.terms) : (c.ruleAt k).guides = 0 := by
    rw [ruleAt_family hb hf hk]
    rfl
  have hsize (k : Nat) (hk : k < s.terms) : 2 * (c.ruleAt k).guides + 2 ≤ n := by
    rw [hrule k hk]
    exact hn
  have hpoint (i : Nat) (h0 : 0 < i) (hi : i + 1 < n) (k : Nat) (hk : k < s.terms) :
      (c.ruleAt k).piece n x (s.valueAt k) i (x i) =
        knotValue f (s.shapeAt i) (s.valueAt k (i - 1)) (s.valueAt k i) (s.valueAt k (i + 1)) := by
    rw [piece_family hb hf hk hi, Scheme.blendPiece_start hadmits hi,
      Scheme.actingShape_inner h0 hi]
  refine ⟨fun i h0 hi => ⟨?_, ?_, ?_⟩, fun a ha => ?_, fun a ha => ?_, fun t hl hr => ?_,
    hg.get_eq hc config, continuous_component hb fun k hk => ?_⟩
  · obtain ⟨j, rfl⟩ : ∃ j, i = j + 1 := ⟨i - 1, by omega⟩
    rw [piece_of_build hb]
    refine List.map_congr_left fun k hk => ?_
    have hk := List.mem_range.1 hk
    exact ((hjoined k hk).inner j hi).trans (hpoint (j + 1) h0 hi k hk)
  · rw [piece_of_build hb]
    exact List.map_congr_left fun k hk => hpoint i h0 hi k (List.mem_range.1 hk)
  · rw [hg.get_eq hc, eval_of_build hb]
    refine congrArg _ (List.map_congr_left fun k hk => ?_)
    have hk := List.mem_range.1 hk
    rw [(hjoined k hk).eval_point hx (hsize k hk) (by rw [hrule k hk]; exact h0.le)
      (by rw [hrule k hk]; exact hi)]
    exact hpoint i h0 hi k hk
  · exact hg.first_of_joined hc hguides hjoined ha config
  · exact hg.last_of_joined hc hguides hjoined ha config
  · exact hg.get_inside hc config hguides hl hr
  · refine (hjoined k hk).continuous_eval hx (hsize k hk) (fun i hi => ?_) fun h => ?_
    · rw [funext (piece_family hb hf hk hi (s.valueAt k))]
      exact Scheme.continuousOn_blendPiece hadmits hi (hx i (i + 1) (by omega) hi)
    · rw [ruleAt_family hb hf hk] at h
      cases h

/-- An extended X-spline of rational points: the second one has a positive shape, the third one a
negative one, and the shapes of the ends do not matter. -/
theorem knot_values_extended :
    let s : Spline ℚ := ((((empty .extendedX 0).place 3 [1] (.shape (-1))).place 0 [4]
      (.shape (1 / 2))).place 6 [5] (.shape 1)).place 1 [2] (.shape 1)
    ∃ c, s.build = .ok c ∧
      let t : Spline ℚ := { s with curve := some c }
      c.piece 0 1 = [13 / 6] ∧ c.piece 1 1 = [13 / 6] ∧ t.get .builtin (.ok 1) = .ok [13 / 6] ∧
        c.piece 1 3 = [1] ∧ c.piece 2 3 = [1] ∧ c.piece 0 0 = [4] ∧
          Continuous fun u => (c.eval true u).getD 0 0 := by
  intro s
  have hg : s.Grown := by
    refine .place_shape (.place_shape (.place_shape (.place_shape (.empty .extendedX 0)
      rfl rfl (by decide) ?_ ?_ ?_) rfl rfl (by decide) ?_ ?_ ?_) rfl rfl (by decide) ?_ ?_ ?_)
      rfl rfl (by decide) ?_ ?_ ?_
    all_goals decide +kernel
  obtain ⟨c, hb⟩ : ∃ c, s.build = .ok c := exists_ok_of_isOk (by decide +kernel)
  obtain ⟨hinner, hfirst, -, -, -, hcontinuous⟩ :=
    knot_values (hg.rebuilt hb) rfl rfl .builtin
  have hone : s.parameterAt 1 = 1 := by decide +kernel
  have hthree : s.parameterAt 2 = 3 := by decide +kernel
  have hsize : s.store.size = 4 := by decide +kernel
  have hpositive : (List.range s.terms).map (fun k => knotValue .extended (s.shapeAt 1)
      (s.valueAt k 0) (s.valueAt k 1) (s.valueAt k 2)) = [13 / 6] := by decide +kernel
  have hnegative : (List.range s.terms).map (fun k => knotValue .extended (s.shapeAt 2)
      (s.valueAt k 1) (s.valueAt k 2) (s.valueAt k 3)) = [1] := by decide +kernel
  obtain ⟨h10, h11, h1⟩ := hinner 1 (by decide) (hsize ▸ by decide)
  obtain ⟨h21, h22, -⟩ := hinner 2 (by decide) (hsize ▸ by decide)
  have hentry : s.store.entries[0]? = some ⟨0, ⟨[4], .shape (1 / 2)⟩⟩ :=
    entry_eq (by decide +kernel) (by decide +kernel)
  refine ⟨c, hb, ?_, ?_, ?_, ?_, ?_, (hfirst _ hentry).1, hcontinuous 0⟩
  · exact (congrArg (c.piece 0) hone).symm.trans (h10.trans hpositive)
  · exact (congrArg (c.piece 1) hone).symm.trans (h11.trans hpositive)
  · exact (congrArg (fun u => get .builtin { s with curve := some c } (.ok u)) hone).symm.trans
      (h1.trans (congrArg _ hpositive))
  · exact (congrArg (c.piece 1) hthree).symm.trans (h21.trans hnegative)
  · exact (congrArg (c.piece 2) hthree).symm.trans (h22.trans hnegative)

end Spline

end CurveKit
