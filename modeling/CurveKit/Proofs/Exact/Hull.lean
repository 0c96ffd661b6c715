import CurveKit.Proofs.Exact.Blend
import CurveKit.Proofs.Exact.Piece
import Mathlib.Order.Interval.Set.Basic

/-!
# X-splines stay close to their points

In exact arithmetic an X-spline never divides by zero: the weights of a segment have a
positive sum, as the shapes that are kept are those that the kind admits. As long as no
shape is negative, the curve is a weighted mean of the points around a segment, and so it
stays between the smallest and the largest of them, in every component.

Results:
* `Grown.admits`: all shapes that a spline keeps are admitted.
* `blendWeights_total_pos`: the sum of the weights that the curve divides by.
* `blended_mem_hull`: a component stays between the points around its segment.
* `blends_positive`: both for every finalized X-spline.
-/
namespace CurveKit

open scoped Exact

variable {K : Type} [Field K] [LinearOrder K] [IsStrictOrderedRing K]

/-! ## Shapes -/

section Shapes

open Scheme (Family)

variable {kind : Kind} {f : Family} {s : K}

omit [IsStrictOrderedRing K] in
theorem Kind.admits (hf : kind.family? = some f) (hl : kind.shapeLow ≤ s)
    (hh : s ≤ Kind.shapeHigh) : f.Admits s := by
  refine ⟨?_, by simpa [shapeHigh] using hh⟩
  cases kind <;> cases hf <;> simpa [shapeLow] using hl

omit [Field K] [LinearOrder K] [IsStrictOrderedRing K] in
theorem Kind.points_of_family (hf : kind.family? = some f) :
    kind.minPoints = 2 ∧ kind.guides = 0 := by
  cases kind <;> cases hf <;> exact ⟨rfl, rfl⟩

omit [Field K] [LinearOrder K] [IsStrictOrderedRing K] in
/-- An X-spline holds its ends. -/
theorem Kind.continues_of_family (hf : kind.family? = some f) (extrapolate : Bool) :
    kind.continues extrapolate = false := by
  cases kind <;> cases hf <;> rfl

theorem Kind.shapeLow_le_shapeHigh (kind : Kind) : (kind.shapeLow : K) ≤ shapeHigh := by
  have h : (-1 : K) ≤ 1 := neg_le_self zero_le_one
  cases kind <;> simp [shapeLow, shapeHigh, h]

namespace Spline

theorem holds_of_checkShape {clamp : Bool} {b kept : Bend K} {events : List (Event K)}
    (h : checkShape clamp kind b = .ok (kept, events)) : kind.Holds kept.freedom := by
  rcases (checkShape_eq_ok h).2 with ⟨hin, rfl, -⟩ | ⟨-, -, rfl, -⟩
  · exact hin
  · show kind.Holds (kind.boundFor b.freedom)
    unfold Kind.boundFor
    split
    · exact ⟨le_refl _, kind.shapeLow_le_shapeHigh⟩
    · exact ⟨kind.shapeLow_le_shapeHigh, le_refl _⟩

theorem admits_of_checkBend {clamp : Bool} {e : Extension K} {b : Bend K}
    {events : List (Event K)} (hf : kind.family? = some f)
    (h : checkBend clamp kind e = .ok (b, events)) : f.Admits b.freedom := by
  have htag := Kind.tag_of_family hf
  rcases checkBend_eq_ok h with ⟨ht, -⟩ | ⟨ht, -⟩ | ⟨-, c, -, hs⟩
  · exact absurd ht htag.1
  · exact absurd ht htag.2
  · have hin := holds_of_checkShape hs
    exact Kind.admits hf hin.1 hin.2

omit [IsStrictOrderedRing K] in
theorem Grown.place_shape {s : Spline K} (h : s.Grown) {p a : K} {v : List K}
    (hf : s.kind.family? = some f) (alive : s.destroyed = false) (nonempty : v ≠ [])
    (width : s.terms ≠ 0 → v.length = s.terms) (low : s.kind.shapeLow ≤ a)
    (high : a ≤ Kind.shapeHigh) : (s.place p v (.shape a)).Grown := by
  have htag := Kind.tag_of_family hf
  have hcheck : checkBend true s.kind (.shape a) = .ok (.shape a, []) := by
    unfold checkBend
    split
    · exact absurd ‹_› htag.1
    · exact absurd ‹_› htag.2
    · simp [Extension.shape?, checkShape, Bend.freedom, Scalar.isFinite, low, high]
  refine h.place alive nonempty rfl ?_ width hcheck
  simp [checkPresence, htag.1, Extension.isPresent]

/-- All shapes that an X-spline keeps are admitted. -/
structure Admits (f : Family) (s : Spline K) : Prop where
  points : ∀ a ∈ s.store.contents, f.Admits a.bend.freedom
  shared : f.Admits s.globalShape

theorem admits_of_empty (f : Family) {s : Spline K} (hs : s.store = .empty)
    (hg : s.globalShape = 0) : s.Admits f where
  points a ha := by rw [hs] at ha; cases ha
  shared := by rw [hg]; exact f.admits_zero

theorem Grown.admits {s : Spline K} (h : s.Grown) : s.kind.family? = some f → s.Admits f := by
  refine h.induct (P := fun s => s.kind.family? = some f → s.Admits f) ?empty ?place ?rebuilt
    ?invalidate ?owners ?teardown ?duplicate
  case empty => exact fun kind config _ => admits_of_empty f rfl Scalar.zero_eq
  case place =>
    intro s clamp p v e bend events ih _ _ _ _ _ check hf
    have hbend := admits_of_checkBend hf check
    refine ⟨fun a ha => ?_, ?_⟩
    · rcases mem_contents_place.1 ha with rfl | ha
      · exact hbend
      · exact (ih hf).points a ha
    · show f.Admits (if s.kind.tag == .globalShape then bend else s.shared).freedom
      split
      · exact hbend
      · exact (ih hf).shared
  case rebuilt => exact fun ih _ hf => ⟨(ih hf).points, (ih hf).shared⟩
  case invalidate => exact fun ih hf => ⟨(ih hf).points, (ih hf).shared⟩
  case owners => exact fun _ ih hf => ⟨(ih hf).points, (ih hf).shared⟩
  case teardown => exact fun _ _ => admits_of_empty f rfl Scalar.zero_eq
  case duplicate => exact fun _ ih hf => ⟨(ih hf).points, (ih hf).shared⟩

end Spline

end Shapes

/-! ## Segments -/

namespace Scheme

section Hull

omit [Field K] [IsStrictOrderedRing K]

/-- The interval from the smallest to the largest of the values around segment `i`; the ends stand
in for points beyond them. -/
def hull (n : Nat) (y : Nat → K) (i : Nat) : Set K :=
  Set.Icc (min (min (y (i - 1)) (y i)) (min (y (i + 1)) (y (min (i + 2) (n - 1)))))
    (max (max (y (i - 1)) (y i)) (max (y (i + 1)) (y (min (i + 2) (n - 1)))))

theorem mem_hull (n : Nat) (y : Nat → K) (i : Nat) :
    y (i - 1) ∈ hull n y i ∧ y i ∈ hull n y i ∧ y (i + 1) ∈ hull n y i ∧
      y (min (i + 2) (n - 1)) ∈ hull n y i := by
  simp [hull]

end Hull

section Pieces

variable {f : Family} {n i : Nat} {x y shape : Nat → K} {t : K}

theorem position_mem (hl : x i ≤ t) (hr : t < x (i + 1)) :
    0 ≤ (t - x i) / (x (i + 1) - x i) ∧ (t - x i) / (x (i + 1) - x i) ≤ 1 := by
  have hpos : 0 < x (i + 1) - x i := sub_pos.2 (lt_of_le_of_lt hl hr)
  exact ⟨div_nonneg (sub_nonneg.2 hl) hpos.le, (div_le_one hpos).2 (sub_le_sub_right hr.le _)⟩

omit [IsStrictOrderedRing K] in
/-- What holds of 0 and of all shapes holds of the shapes that a segment acts with. -/
theorem shape_or_zero {P : K → Prop} (h0 : P 0) (hs : ∀ j, P (shape j)) (isEnd : Bool) (j : Nat) :
    P (if isEnd then @OfNat.ofNat K 0 (Scalar.literal 0) else shape j) := by
  split
  · rwa [Scalar.zero_eq]
  · exact hs j

/-- The sum of the weights that the curve divides by is positive. -/
theorem blendWeights_total_pos (hs : ∀ j, f.Admits (shape j)) (hl : x i ≤ t)
    (hr : t < x (i + 1)) : 0 < (blendWeights f n x shape i t).total :=
  total_pos (position_mem hl hr).1 (position_mem hl hr).2 (shape_or_zero f.admits_zero hs _ i)
    (shape_or_zero f.admits_zero hs _ (i + 1))

variable (hs : ∀ j, 0 ≤ shape j ∧ shape j ≤ 1)

include hs

theorem blendWeights_nonneg (hl : x i ≤ t) (hr : t < x (i + 1)) :
    (blendWeights f n x shape i t).Nonneg := by
  have h0 : (0 : K) ≤ 0 ∧ (0 : K) ≤ 1 := ⟨le_refl 0, zero_le_one⟩
  obtain ⟨hs1, hs1'⟩ := shape_or_zero (P := fun s => 0 ≤ s ∧ s ≤ 1) h0 hs (i == 0) i
  obtain ⟨hs2, hs2'⟩ := shape_or_zero (P := fun s => 0 ≤ s ∧ s ≤ 1) h0 hs (i + 2 == n) (i + 1)
  exact weights_nonneg (position_mem hl hr).1 (position_mem hl hr).2 hs1 hs1' hs2 hs2'

theorem blendWeights_start : (blendWeights f n x shape i (x i)).w3 = 0 := by
  have h0 : (0 : K) ≤ 0 ∧ (0 : K) ≤ 1 := ⟨le_refl 0, zero_le_one⟩
  obtain ⟨hs2, hs2'⟩ := shape_or_zero (P := fun s => 0 ≤ s ∧ s ≤ 1) h0 hs (i + 2 == n) (i + 1)
  have hu : (x i - x i) / (x (i + 1) - x i) = 0 := by rw [sub_self, zero_div]
  unfold blendWeights
  rw [hu]
  exact weights_zero_w3 hs2 hs2'

/-- A curve without negative shapes stays between the points around a segment. -/
theorem blended_mem_hull (h : Ascending n x) (hn : 2 ≤ n) (hi : InSegment n x t i) :
    blended f n x y shape t ∈ hull n y i := by
  obtain ⟨hbefore, hstart, hstop, hbehind⟩ := mem_hull n y i
  have hadm : ∀ j, f.Admits (shape j) := fun j => .of_nonneg (hs j).1 (hs j).2
  unfold blended held?
  by_cases hfirst : t ≤ x 0
  · rw [if_pos hfirst]
    obtain rfl := hi.eq_first h hfirst hn
    exact hstart
  · rw [if_neg hfirst]
    by_cases hlast : x (n - 1) ≤ t
    · rw [if_pos hlast, Option.getD_some, ← hi.eq_last h hlast hn]
      exact hstop
    · rw [if_neg hlast, Option.getD_none]
      have hfirst := (not_le.1 hfirst).le
      have hlast := not_le.1 hlast
      obtain ⟨hl, hr, hlt⟩ := segment_spec h hfirst hlast hn
      have hnonneg := blendWeights_nonneg (f := f) (n := n) hs hl hr
      have htotal := blendWeights_total_pos (n := n) hadm hl hr
      rcases hi.cases h hfirst hlast hn with hm | ⟨hm, rfl⟩
      · rw [hm] at hnonneg htotal ⊢
        exact mean_mem_Icc hnonneg htotal hbefore hstart hstop (.inr hbehind)
      · -- The parameter is that of a point, where the last point of the next segment drops out.
        rw [hm] at hnonneg htotal hlt ⊢
        have hnext : min (i + 2) (n - 1) = i + 2 := by omega
        rw [hnext] at hbehind
        exact mean_mem_Icc hnonneg htotal hstart hstop hbehind (.inl (blendWeights_start hs))

end Pieces

end Scheme

/-! ## Splines -/

namespace Spline

open Scheme (Family weights weights? blendWeights hull)

variable {kind : Kind} {f : Family} {s : Spline K} {c : Curve K} {a : K}

/-- The shapes that the points of an X-spline act with: 0, the one that all of them share, or their
own. -/
def ActsWith (s : Spline K) (a : K) : Prop :=
  a = 0 ∨ if s.kind = .basicX then a = s.globalShape
    else ∃ p ∈ s.store.contents, a = p.bend.freedom

omit [IsStrictOrderedRing K] in
theorem actsWith_nth {g : Nat → K} (h : ∀ j, s.ActsWith (g j)) (n j : Nat) :
    s.ActsWith (nth (tabulate n g) j) := by
  by_cases hj : j < n
  · simpa [nth, tabulate, hj] using h j
  · exact .inl (by simp [nth, tabulate, hj])

omit [IsStrictOrderedRing K] in
theorem actsWith_own (hk : s.kind ≠ .basicX) (j : Nat) :
    s.ActsWith ((s.store.contents.map fun p => p.bend).toArray.getD j Bend.none).freedom := by
  cases hp : s.store.contents[j]? with
  | none => exact .inl (by simp [hp, Bend.freedom])
  | some p =>
    refine .inr ?_
    rw [if_neg hk]
    exact ⟨p, List.mem_of_getElem? hp, by simp [hp]⟩

omit [IsStrictOrderedRing K] in
/-- The rule of an X-spline blends with these shapes. -/
theorem ruleOf_family {values : Array K} {rule : Rule K} (hf : s.kind.family? = some f)
    (h : Curve.ruleOf s.kind s.store s.globalShape values = .ok rule) :
    ∃ shapes, rule = .blends f shapes ∧ ∀ j, s.ActsWith (nth shapes j) := by
  have hshared (hk : s.kind = .basicX) : ∀ _ : Nat, s.ActsWith s.globalShape :=
    fun _ => .inr (by rw [if_pos hk])
  unfold Curve.ruleOf Rule.prepare at h
  cases hk : s.kind <;> rw [hk] at h hf <;> cases hf <;> cases h
  · exact ⟨_, rfl, actsWith_nth (hshared hk) _⟩
  · exact ⟨_, rfl, actsWith_nth (actsWith_own (by rw [hk]; decide)) _⟩
  · exact ⟨_, rfl, actsWith_nth (actsWith_own (by rw [hk]; decide)) _⟩

theorem Grown.admits_of_actsWith (hg : s.Grown) (hf : s.kind.family? = some f)
    (ha : s.ActsWith a) : f.Admits a := by
  obtain ⟨hpoints, hshared⟩ := hg.admits hf
  rcases ha with rfl | ha
  · exact f.admits_zero
  · split at ha
    · rw [ha]; exact hshared
    · obtain ⟨p, hp, rfl⟩ := ha
      exact hpoints p hp

theorem Grown.nonneg_of_actsWith (hg : s.Grown) (hf : s.kind.family? = some f)
    (hs : s.kind = .extendedX → ∀ p ∈ s.store.contents, 0 ≤ p.bend.freedom)
    (ha : s.ActsWith a) : 0 ≤ a ∧ a ≤ 1 := by
  have hadm := hg.admits_of_actsWith hf ha
  refine ⟨?_, hadm.high⟩
  by_cases hk : s.kind = .extendedX
  · rcases ha with rfl | ha
    · exact le_refl 0
    · rw [if_neg (by rw [hk]; decide)] at ha
      obtain ⟨p, hp, rfl⟩ := ha
      exact hs hk p hp
  · have hlow := hadm.low
    have hne : f ≠ .extended := by
      rintro rfl
      cases h : s.kind <;> rw [h] at hf hk <;> cases hf
      exact hk rfl
    rwa [if_neg hne] at hlow

/-- A component of a finalized X-spline divides by a positive sum of weights, and stays between
the points around a segment, if no shape is negative. -/
theorem Grown.component (hg : s.Grown) (hf : s.kind.family? = some f) (hc : s.curve = some c)
    {k : Nat} {p : Component K} (hk : c.components[k]? = some p) (extrapolate : Bool) (t : K) :
    let n := s.store.size
    let x := nth s.store.parameters.toArray
    ∃ shapes, p.rule = .blends f shapes ∧
      (x 0 < t → t < x (n - 1) → x (segment n x t) < x (segment n x t + 1) ∧
        0 < (blendWeights f n x (nth shapes) (segment n x t) t).total) ∧
      ((s.kind = .extendedX → ∀ a ∈ s.store.contents, 0 ≤ a.bend.freedom) →
        ∀ i, InSegment n x t i →
          p.rule.eval extrapolate c.parameters.size (nth c.parameters) (nth p.values) t ∈
            hull n (nth (Curve.column s.store.contents k)) i) := by
  intro n x
  have hb := hg.coherent.curve c hc
  obtain ⟨hasc, hn⟩ := points_of_build hb
  rw [(Kind.points_of_family hf).1] at hn
  obtain ⟨hpar, -, hall⟩ := Curve.prepare_eq_ok (build_eq_ok.1 hb).2.2.2
  obtain ⟨hval, hrule⟩ := hall k p hk
  obtain ⟨shapes, hr, hacts⟩ := ruleOf_family hf hrule
  refine ⟨shapes, hr, fun h0 h1 => ?_, fun hs i hi => ?_⟩
  · obtain ⟨hl, hr, -⟩ := segment_spec hasc h0.le h1 hn
    exact ⟨lt_of_le_of_lt hl hr,
      Scheme.blendWeights_total_pos (fun j => hg.admits_of_actsWith hf (hacts j)) hl hr⟩
  · have hsize : c.parameters.size = n := by rw [hpar]; simp [n]
    rw [hr, hval, hsize, hpar]
    exact Scheme.blended_mem_hull (fun j => hg.nonneg_of_actsWith hf hs (hacts j)) hasc hn hi

/-- **X-splines.** In exact arithmetic, and for shapes that the kind admits, the weights of an
X-spline divide by no zero, and their sum is positive; if no shape is negative, no weight is. So a
finalized X-spline divides by a positive sum at every parameter between its ends, and has a value
at every parameter. If it keeps no negative shape, every component of the value lies between the
smallest and the largest of that component at the points around the segment. -/
theorem blends_positive {kind : Kind} {f : Family} (hf : kind.family? = some f) :
    (∀ t s1 s2 : K, 0 ≤ t → t ≤ 1 → kind.shapeLow ≤ s1 → s1 ≤ Kind.shapeHigh →
      kind.shapeLow ≤ s2 → s2 ≤ Kind.shapeHigh →
      weights? f t s1 s2 = some (weights f t s1 s2) ∧ 0 < (weights f t s1 s2).total ∧
        (0 ≤ s1 → 0 ≤ s2 → (weights f t s1 s2).Nonneg)) ∧
    ∀ (s : Spline K) (c : Curve K), s.Grown → s.kind = kind → s.curve = some c → ∀ config t,
      let n := s.store.size
      let x := nth s.store.parameters.toArray
      (∀ p ∈ c.components, ∃ shapes, p.rule = .blends f shapes ∧
        (x 0 < t → t < x (n - 1) → x (segment n x t) < x (segment n x t + 1) ∧
          0 < (blendWeights f n x (nth shapes) (segment n x t) t).total)) ∧
      ∃ v, s.get config (.ok t) = .ok v ∧ v.length = s.terms ∧
        ((kind = .extendedX → ∀ a ∈ s.store.contents, 0 ≤ a.bend.freedom) →
          ∀ i, InSegment n x t i → ∀ k y, v[k]? = some y →
            y ∈ hull n (nth (Curve.column s.store.contents k)) i) := by
  constructor
  · intro t s1 s2 h0 h1 hl1 hh1 hl2 hh2
    have hs1 := Kind.admits hf hl1 hh1
    have hs2 := Kind.admits hf hl2 hh2
    exact ⟨Scheme.weights?_eq hs1 hs2, Scheme.total_pos h0 h1 hs1 hs2,
      fun hn1 hn2 => Scheme.weights_nonneg h0 h1 hn1 hs1.high hn2 hs2.high⟩
  · rintro s c hg rfl hc config t n x
    have hcomponent (k : Nat) (p : Component K) (hk : c.components[k]? = some p) :=
      hg.component hf hc hk (config.isOn .extrapolate) t
    refine ⟨fun p hp => ?_, _, hg.get_eq hc config t, ?_, fun hs i hi k y hy => ?_⟩
    · obtain ⟨k, hk⟩ := List.getElem?_of_mem hp
      obtain ⟨shapes, hr, htotal, -⟩ := hcomponent k p hk
      exact ⟨shapes, hr, htotal⟩
    · rw [Curve.eval, List.length_map]
      exact (hg.coherent.curve_of_build (hg.coherent.curve c hc)).2.2.1
    · rw [Curve.eval, List.getElem?_map] at hy
      obtain ⟨p, hk, rfl⟩ := Option.map_eq_some_iff.1 hy
      obtain ⟨-, -, -, hhull⟩ := hcomponent k p hk
      exact hhull hs i hi

/-- A general X-spline of rational points, of which the inner one has the largest shape. -/
theorem blends_positive_general :
    let s : Spline ℚ := (((empty .generalX 0).place 3 [2] (.shape 0)).place 0 [1]
      (.shape (1 / 2))).place 1 [3] (.shape 1)
    0 < (weights .general (1 / 3 : ℚ) (1 / 2) 1).total ∧
      ∃ c v, s.build = .ok c ∧ Spline.get .builtin { s with curve := some c } (.ok 2) = .ok v ∧
        v.length = 1 ∧ ∀ y, v[0]? = some y → y ∈ hull 3 (nth #[1, 3, 2]) 1 := by
  intro s
  have hg : s.Grown := by
    refine .place_shape (.place_shape (.place_shape (.empty .generalX 0) rfl rfl (by decide) ?_ ?_
      ?_) rfl rfl (by decide) ?_ ?_ ?_) rfl rfl (by decide) ?_ ?_ ?_
    all_goals decide +kernel
  obtain ⟨c, hb⟩ : ∃ c, s.build = .ok c := exists_ok_of_isOk (by decide +kernel)
  have hdone : ({ s with curve := some c } : Spline ℚ).Grown := hg.rebuilt hb
  obtain ⟨hweights, hcurve⟩ := @blends_positive ℚ _ _ _ .generalX .general rfl
  obtain ⟨-, v, hget, hlen, hhull⟩ := hcurve _ c hdone rfl rfl .builtin 2
  have hterms : s.terms = 1 := by decide +kernel
  have hsize : s.store.size = 3 := by decide +kernel
  have hcolumn : Curve.column s.store.contents 0 = #[1, 3, 2] := by decide +kernel
  have hin : InSegment s.store.size (nth s.store.parameters.toArray) 2 1 := .inr (by decide +kernel)
  refine ⟨(hweights (1 / 3) (1 / 2) 1 (by norm_num) (by norm_num) (by decide +kernel)
    (by decide +kernel) (by decide +kernel) (by decide +kernel)).2.1, c, v, hb, hget,
    hlen.trans hterms, fun y hy => ?_⟩
  have hmem : y ∈ hull s.store.size (nth (Curve.column s.store.contents 0)) 1 :=
    hhull (fun h => absurd h (by decide)) 1 hin 0 y hy
  rwa [hsize, hcolumn] at hmem

end Spline

end CurveKit
