import CurveKit.Proofs.Store.Sorted
import CurveKit.Segment
import CurveKit.Spline.Basic
import Mathlib.Algebra.Order.Field.Basic

/-!
# Segments in exact arithmetic

The scalars of an ordered field are exact: nothing is rounded, and all of them are
finite. Among ascending parameters bisection finds the segment that a parameter lies in;
the ends take all that lies beyond them.

Results:
* `Exact.scalar`: an ordered field as scalars.
* `segment_spec`, `segment_of_le`, `segment_of_ge`: the segment of a parameter between the ends,
  before the first and behind the last point.
* `segment_between`: the same between two points that are as far from the ends.
* `InSegment.cases`: a parameter in a segment with its ends is found there or starts the next one.
* `ascending_of_firstCoincident?`: what holds of parameters that do not coincide.
-/
namespace CurveKit

/-! ## Exact scalars -/

namespace Exact

-- The operations of a field are meant as its own; those of its scalars unfold to them.
attribute [scoped instance (50)] Scalar.literal Scalar.toAdd Scalar.toSub Scalar.toMul Scalar.toDiv
  Scalar.toNeg Scalar.toLT Scalar.toLE Scalar.toBEq

/-- The scalars of an ordered field are exact. -/
scoped instance (priority := 50) scalar {K : Type} [Field K] [LinearOrder K] : Scalar K where
  ofNat n := n
  magnitude x := |x|
  cube x := x ^ 3
  isFinite _ := true
  decLt := inferInstance
  decLe := inferInstance

end Exact

open scoped Exact

section Literals

variable {K : Type} [Field K] [LinearOrder K]

@[simp] theorem Scalar.zero_eq : @OfNat.ofNat K 0 (Scalar.literal 0) = 0 := Nat.cast_zero

@[simp] theorem Scalar.one_eq : @OfNat.ofNat K 1 (Scalar.literal 1) = 1 := Nat.cast_one

@[simp] theorem Scalar.ofNat_eq (n : ℕ) [n.AtLeastTwo] :
    @OfNat.ofNat K n (Scalar.literal n) = OfNat.ofNat n := rfl

end Literals

/-! ## Ascending parameters -/

theorem firstCoincident?_eq_none {K : Type} [Scalar K] {l : List K} :
    Spline.firstCoincident? l = none ↔ l.IsChain fun p q => ¬ q ≤ p := by
  fun_induction Spline.firstCoincident? l with
  | case1 p q rest hle => simp [hle]
  | case2 p q rest hle ih => simp [ih, hle]
  | case3 l h =>
    refine ⟨fun _ => ?_, fun _ => rfl⟩
    cases l with
    | nil => exact .nil
    | cons p l =>
      cases l with
      | nil => exact .singleton p
      | cons q l => exact absurd rfl (h p q l)

section Segments

variable {K : Type} [Field K] [LinearOrder K] {n i : Nat} {x : Nat → K} {t : K}

/-- The first `n` parameters ascend. -/
def Ascending (n : Nat) (x : Nat → K) : Prop := ∀ i j, i < j → j < n → x i < x j

omit [Field K] in
theorem Ascending.le (h : Ascending n x) {i j : Nat} (hij : i ≤ j) (hj : j < n) : x i ≤ x j := by
  rcases hij.eq_or_lt with rfl | hlt
  · exact le_refl _
  · exact (h i j hlt hj).le

omit [Field K] in
theorem Ascending.lt_iff (h : Ascending n x) {i j : Nat} (hi : i < n) (hj : j < n) :
    x i < x j ↔ i < j :=
  ⟨fun hlt => not_le.1 fun hle => absurd hlt (not_lt.2 (h.le hle hi)), fun hlt => h i j hlt hj⟩

theorem Ascending.upperBound (h : Ascending n x) {i : Nat} (hi : i < n) :
    i < upperBound x t 0 n ↔ x i ≤ t := by
  have mono : ∀ i j, 0 ≤ i → i ≤ j → j < n → t < x i → t < x j :=
    fun i j _ hij hj hlt => lt_of_lt_of_le hlt (h.le hij hj)
  obtain ⟨below, above⟩ := upperBound_spec (a := x) mono
  exact ⟨fun hlt => not_lt.1 (below i (Nat.zero_le i) hlt),
    fun hle => not_le.1 fun hge => absurd (above i hge hi) (not_lt.2 hle)⟩

/-- The segment of a parameter between the ends. -/
theorem segment_spec (h : Ascending n x) (h0 : x 0 ≤ t) (h1 : t < x (n - 1)) (hn : 2 ≤ n) :
    x (segment n x t) ≤ t ∧ t < x (segment n x t + 1) ∧ segment n x t + 1 < n := by
  obtain ⟨hl, hr, hlt⟩ := segment_of_upperBound (P := fun i => x i ≤ t)
    (fun _ hi => h.upperBound hi) h0 (not_le.2 h1) hn
  exact ⟨hl, not_le.1 hr, hlt⟩

/-- What lies before the first point is in the first segment. -/
theorem segment_of_le (h : Ascending n x) (h0 : t ≤ x 0) (hn : 2 ≤ n) : segment n x t = 0 := by
  have hsecond : ¬ 1 < upperBound x t 0 n := fun hlt =>
    absurd ((h.upperBound (by omega)).1 hlt) (not_le.2 (lt_of_le_of_lt h0 (h 0 1 (by omega) hn)))
  unfold segment
  omega

/-- What lies behind the last point is in the last segment. -/
theorem segment_of_ge (h : Ascending n x) (h1 : x (n - 1) ≤ t) (hn : 2 ≤ n) :
    segment n x t = n - 2 := by
  have hlast : n - 1 < upperBound x t 0 n := (h.upperBound (by omega)).2 h1
  unfold segment
  omega

/-- The segment of a parameter strictly between two points that are as far from the ends. -/
theorem segment_between (h : Ascending n x) {g : Nat} (hn : 2 * g + 2 ≤ n) (hl : x g < t)
    (hr : t < x (n - 1 - g)) : g ≤ segment n x t ∧ segment n x t + 1 + g < n ∧
      x (segment n x t) ≤ t ∧ t < x (segment n x t + 1) := by
  have hfirst : x 0 < t := lt_of_le_of_lt (h.le (Nat.zero_le g) (by omega)) hl
  have hlast : t < x (n - 1) := lt_of_lt_of_le hr (h.le (Nat.sub_le _ _) (by omega))
  obtain ⟨hstart, hstop, hin⟩ := segment_spec h hfirst.le hlast (by omega)
  have hi : g < segment n x t + 1 := (h.lt_iff (by omega) hin).1 (hl.trans hstop)
  have hi' : segment n x t < n - 1 - g :=
    (h.lt_iff (by omega) (by omega)).1 (lt_of_le_of_lt hstart hr)
  exact ⟨by omega, by omega, hstart, hstop⟩

/-- A parameter lies in segment `i`, with its ends; the outer segments reach beyond the ends of
the curve. -/
def InSegment (n : Nat) (x : Nat → K) (t : K) (i : Nat) : Prop :=
  segment n x t = i ∨ i + 1 < n ∧ x i ≤ t ∧ t ≤ x (i + 1)

theorem InSegment.eq_first (hi : InSegment n x t i) (h : Ascending n x) (h0 : t ≤ x 0)
    (hn : 2 ≤ n) : i = 0 := by
  rcases hi with rfl | ⟨hi, hl, -⟩
  · exact segment_of_le h h0 hn
  · by_contra hne
    exact absurd (h 0 i (by omega) (by omega)) (not_lt.2 (hl.trans h0))

theorem InSegment.eq_last (hi : InSegment n x t i) (h : Ascending n x) (h1 : x (n - 1) ≤ t)
    (hn : 2 ≤ n) : i + 1 = n - 1 := by
  rcases hi with rfl | ⟨hi, -, hr⟩
  · rw [segment_of_ge h h1 hn]
    omega
  · by_contra hne
    exact absurd (h (i + 1) (n - 1) (by omega) (by omega)) (not_lt.2 (h1.trans hr))

/-- Between the ends a parameter in a segment with its ends is found there, or it is found at the
start of the next segment. -/
theorem InSegment.cases (hi : InSegment n x t i) (h : Ascending n x) (h0 : x 0 ≤ t)
    (h1 : t < x (n - 1)) (hn : 2 ≤ n) :
    segment n x t = i ∨ segment n x t = i + 1 ∧ t = x (i + 1) := by
  rcases hi with hi | ⟨hi, hl, hr⟩
  · exact .inl hi
  · obtain ⟨hm, hm', hlt⟩ := segment_spec h h0 h1 hn
    generalize segment n x t = m at hm hm' hlt
    have him : i < m + 1 := (h.lt_iff (by omega) hlt).1 (lt_of_le_of_lt hl hm')
    have hmi : ¬ i + 1 < m := fun hlt' =>
      absurd (h (i + 1) m hlt' (by omega)) (not_lt.2 (hm.trans hr))
    by_cases he : m = i
    · exact .inl he
    · obtain rfl : m = i + 1 := by omega
      exact .inr ⟨rfl, le_antisymm hr hm⟩

theorem firstCoincident?_of_pairwise {l : List K} (h : l.Pairwise (· < ·)) :
    Spline.firstCoincident? l = none :=
  firstCoincident?_eq_none.2 (h.isChain.imp fun _ _ hlt => not_le.2 hlt)

theorem pairwise_of_firstCoincident? {l : List K}
    (h : Spline.firstCoincident? l = none) : l.Pairwise (· < ·) :=
  ((firstCoincident?_eq_none.1 h).imp fun _ _ hle => not_le.1 hle).pairwise

theorem ascending_of_firstCoincident? {l : List K} (h : Spline.firstCoincident? l = none) :
    Ascending l.length (nth l.toArray) := by
  intro i j hij hj
  have hi : i < l.length := hij.trans hj
  have := List.pairwise_iff_getElem.1 (pairwise_of_firstCoincident? h) i j hi hj hij
  simpa [nth, hi, hj] using this

theorem firstCoincident?_of_ascending {l : List K} (h : Ascending l.length (nth l.toArray)) :
    Spline.firstCoincident? l = none := by
  refine firstCoincident?_of_pairwise (List.pairwise_iff_getElem.2 fun i j hi hj hij => ?_)
  simpa [nth, hi, hj] using h i j hij hj

end Segments

end CurveKit
