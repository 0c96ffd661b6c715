import CurveKit.Proofs.Exact.Moments
import CurveKit.Proofs.Spline.Checks
import CurveKit.Proofs.Spline.Grown
import CurveKit.Proofs.Spline.Ranked

/-!
# Parameters that points share

A live spline with enough points can be finalized if and only if its points have different
parameters, as far as the arithmetic of its scheme goes. The points stand in order, so points
at one parameter are neighbours, and the first gap that is none is at the smallest parameter
that several points share.

Results:
* `Ordered.firstCoincident?_spec`: what the search for coinciding neighbours finds.
* `Store.pairwise_insert`, `Grown.sorted`: stores of exact scalars are sorted.
* `Refused`, `refused_of_ordered`: which fault finalizing has.
* `IsApart.exists_curve`, `build_of_apart`: what happens where there is none.
-/
namespace CurveKit

/-! ## Neighbours in order -/

section Ordered

variable {K κ : Type} [Scalar K] [LinearOrder κ] {key : K → κ} {l : List K} {p q : K}

/-- Several points are at a parameter. -/
def Shared (l : List K) (p : K) : Prop := p ∈ l ∧ 1 < l.countP (· == p)

/-- Parameters that ascend, and are compared like their keys. -/
structure Ordered (key : K → κ) (l : List K) : Prop where
  le_iff : ∀ p ∈ l, ∀ q ∈ l, (p ≤ q ↔ key p ≤ key q)
  beq_iff : ∀ p ∈ l, ∀ q ∈ l, ((p == q) = true ↔ key p = key q)
  order : l.Pairwise fun p q => key p ≤ key q

theorem Ordered.tail (h : Ordered key (p :: l)) : Ordered key l where
  le_iff a ha b hb := h.le_iff a (List.mem_cons_of_mem p ha) b (List.mem_cons_of_mem p hb)
  beq_iff a ha b hb := h.beq_iff a (List.mem_cons_of_mem p ha) b (List.mem_cons_of_mem p hb)
  order := (List.pairwise_cons.1 h.order).2

theorem Ordered.shared_cons (h : Ordered key (p :: l)) (below : ∀ r ∈ l, key p < key r) :
    Shared (p :: l) q ↔ Shared l q := by
  have hp : p ∈ p :: l := List.mem_cons_self
  have apart {r : K} (hr : r ∈ l) : (p == r) = false := by
    rw [← Bool.not_eq_true, h.beq_iff p hp r (List.mem_cons_of_mem p hr)]
    exact (below r hr).ne
  constructor
  · rintro ⟨hq, hcount⟩
    rcases List.mem_cons.1 hq with rfl | hq
    · -- Nothing behind the first parameter is equal to it.
      have hzero : l.countP (· == q) = 0 := by
        refine List.countP_eq_zero.2 fun r hr => ?_
        rw [h.beq_iff r (List.mem_cons_of_mem q hr) q hp]
        exact (below r hr).ne'
      rw [List.countP_cons, hzero] at hcount
      split at hcount <;> omega
    · rw [List.countP_cons, apart hq] at hcount
      exact ⟨hq, by simpa using hcount⟩
  · rintro ⟨hq, hcount⟩
    refine ⟨List.mem_cons_of_mem p hq, ?_⟩
    rw [List.countP_cons]
    omega

/-- Among ascending parameters, the first one that is not greater than the one before it is the
smallest one that is shared; if there is none, no parameter is shared. -/
theorem Ordered.firstCoincident?_spec (h : Ordered key l) :
    (∀ p, Spline.firstCoincident? l = some p → Shared l p ∧ ∀ q, Shared l q → p ≤ q) ∧
      (Spline.firstCoincident? l = none → ∀ q, ¬ Shared l q) := by
  fun_induction Spline.firstCoincident? l with
  | case1 p q rest hle =>
    have hp : p ∈ p :: q :: rest := by simp
    have hq : q ∈ p :: q :: rest := by simp
    obtain ⟨hfirst, hrest⟩ := List.pairwise_cons.1 h.order
    have hkey : key p = key q :=
      le_antisymm (hfirst q List.mem_cons_self) ((h.le_iff q hq p hp).1 hle)
    refine ⟨fun r hr => ?_, (by cases ·)⟩
    obtain rfl : q = r := Option.some.inj hr
    refine ⟨⟨hq, ?_⟩, fun r hshared => (h.le_iff q hq r hshared.1).2 ?_⟩
    · rw [List.countP_cons, List.countP_cons, if_pos ((h.beq_iff p hp q hq).2 hkey),
        if_pos ((h.beq_iff q hq q hq).2 rfl)]
      omega
    · rcases List.mem_cons.1 hshared.1 with rfl | hr
      · exact hkey.ge
      · rcases List.mem_cons.1 hr with rfl | hr
        · exact le_rfl
        · exact (List.pairwise_cons.1 hrest).1 r hr
  | case2 p q rest hle ih =>
    have hp : p ∈ p :: q :: rest := by simp
    have hq : q ∈ p :: q :: rest := by simp
    rw [h.le_iff q hq p hp, not_le] at hle
    have below : ∀ r ∈ q :: rest, key p < key r := by
      intro r hr
      rcases List.mem_cons.1 hr with rfl | hr
      · exact hle
      · exact hle.trans_le ((List.pairwise_cons.1 h.tail.order).1 r hr)
    simpa only [h.shared_cons below] using ih h.tail
  | case3 l hl =>
    refine ⟨?_, fun _ q hshared => ?_⟩
    · intro p hp
      cases hp
    have hcount := hshared.2
    have hlen : l.length ≤ 1 := by
      cases l with
      | nil => exact Nat.zero_le 1
      | cons p l =>
        cases l with
        | nil => exact Nat.le_refl 1
        | cons q rest => exact absurd rfl (hl p q rest)
    have hle := l.countP_le_length (p := (· == q))
    omega

theorem shared_perm {m : List K} (h : l.Perm m) : Shared l p ↔ Shared m p := by
  rw [Shared, Shared, h.mem_iff, h.countP_eq]

theorem shared_of_sublist (h : [p, q].Sublist l) (hp : (p == q) = true) (hq : (q == q) = true) :
    Shared l q := by
  refine ⟨h.subset (by simp), lt_of_lt_of_le ?_ (h.countP_le (p := (· == q)))⟩
  rw [List.countP_cons, List.countP_cons, if_pos hp, if_pos hq]
  omega

end Ordered

/-! ## The order of stores -/

open Binary64 in
theorem Spline.ordered_rank {s : Spline Float} (hs : s.store.Sorted) :
    Ordered rank s.store.parameters where
  le_iff p hp q hq := le_iff_rank (finite_parameters hs p hp) (finite_parameters hs q hq)
  beq_iff p hp q hq := beq_iff_rank (finite_parameters hs p hp) (finite_parameters hs q hq)
  order := by
    refine List.pairwise_map.2 (hs.order.imp_of_mem fun {a b} ha hb hle => ?_)
    exact (le_iff_rank (hs.finite a ha) (hs.finite b hb)).1 hle

section Exact

open scoped Exact

variable {K : Type} [Field K] [LinearOrder K]

theorem ordered_id {l : List K} (h : l.Pairwise (· ≤ ·)) : Ordered id l where
  le_iff _ _ _ _ := Iff.rfl
  beq_iff _ _ _ _ := beq_iff_eq
  order := h

/-- A new entry keeps exact parameters in order. -/
theorem Store.pairwise_insert {α : Type} {s : Store K α} (h : s.parameters.Pairwise (· ≤ ·))
    (p : K) (a : α) : (s.insert p a).parameters.Pairwise (· ≤ ·) := by
  -- Bisection reads a zero of the scalars past the end.
  have hentry {i : Nat} {q : K} (hq : q ∈ s.parameters[i]?) :
      s.parameters.getD i (Scalar.ofNat 0) = q := by
    rw [List.getD_eq_getElem?_getD, Option.mem_def.1 hq, Option.getD_some]
  have mono : ∀ i j, 0 ≤ i → i ≤ j → j < s.size →
      p < s.parameters.getD i (Scalar.ofNat 0) → p < s.parameters.getD j (Scalar.ofNat 0) := by
    intro i j _ hij hj hlt
    rw [← s.length_parameters] at hj
    rcases hij.eq_or_lt with rfl | hij
    · exact hlt
    · have hi := hij.trans hj
      rw [hentry (List.getElem?_eq_getElem hi)] at hlt
      rw [hentry (List.getElem?_eq_getElem hj)]
      exact hlt.trans_le (List.pairwise_iff_getElem.1 h i j hi hj hij)
  obtain ⟨below, above⟩ := upperBound_spec mono
  have hplace : s.place p ≤ s.parameters.length := by
    rw [s.length_parameters]
    exact s.place_le_size p
  rw [parameters_insert]
  refine pairwise_insertIdx h hplace (fun i q hq hi => ?_) (fun i q hq hi => ?_)
  · rw [← hentry hq]
    exact not_lt.1 (below i (Nat.zero_le i) hi)
  · have hlt := (List.getElem?_eq_some_iff.1 hq).1
    rw [s.length_parameters] at hlt
    rw [← hentry hq]
    exact (above i hi hlt).le

theorem Spline.Grown.sorted {s : Spline K} (h : s.Grown) :
    s.store.parameters.Pairwise (· ≤ ·) := by
  refine h.induct (P := fun s => s.store.parameters.Pairwise (· ≤ ·))
    ?empty ?place ?rebuilt ?invalidate ?owners ?teardown ?duplicate
  case empty => exact fun _ _ => .nil
  case place => exact fun ih _ _ _ _ _ _ => Store.pairwise_insert ih _ _
  case rebuilt => exact fun ih _ => ih
  case invalidate => exact id
  case owners => exact fun _ ih => ih
  case teardown => exact fun _ => .nil
  case duplicate => exact fun _ ih => ih

end Exact

/-! ## Finalizing -/

namespace Spline

section Generic

variable {K κ : Type} [Scalar K] [LinearOrder κ] {key : K → κ} {s : Spline K}

/-- How finalizing is refused: after the checks come the points that share a parameter, of which the
smallest is told. -/
structure Refused (s : Spline K) (refused : Fault K → Prop) : Prop extends s.Checked refused where
  coincident : s.IsFull → (∃ q, Shared s.store.parameters q) →
    ∃ p, Shared s.store.parameters p ∧ (∀ q, Shared s.store.parameters q → p ≤ q) ∧
      refused (.coincident p)

/-- A live spline with enough points at different parameters. -/
structure IsApart (s : Spline K) : Prop extends s.IsFull where
  apart : ∀ q, ¬ Shared s.store.parameters q

/-- Finalizing a spline with points in order is refused in this way. -/
theorem refused_of_ordered (h : Ordered key s.store.parameters) {refused : Fault K → Prop}
    (himp : ∀ f, s.build = .error f → refused f) : s.Refused refused where
  toChecked := build_checked himp
  coincident hs hq := by
    obtain ⟨q, hq⟩ := hq
    obtain ⟨hsome, hnone⟩ := h.firstCoincident?_spec
    cases hp : firstCoincident? s.store.parameters with
    | none => exact absurd hq (hnone hp q)
    | some p =>
      obtain ⟨hshared, hleast⟩ := hsome p hp
      exact ⟨p, hshared, hleast, himp _ (by rw [build_of_isFull hs, hp])⟩

theorem IsApart.firstCoincident? (hs : s.IsApart) (h : Ordered key s.store.parameters) :
    firstCoincident? s.store.parameters = none := by
  cases hp : Spline.firstCoincident? s.store.parameters with
  | none => rfl
  | some p => exact absurd (h.firstCoincident?_spec.1 p hp).1 (hs.apart p)

end Generic

open scoped Exact in
/-- In exact arithmetic every other spline with points in order has a curve. -/
theorem IsApart.exists_curve {K : Type} [Field K] [LinearOrder K] [IsStrictOrderedRing K]
    {s : Spline K} (hs : s.IsApart) (h : s.store.parameters.Pairwise (· ≤ ·)) :
    ∃ c, s.build = .ok c := by
  have hnone := hs.firstCoincident? (ordered_id h)
  have hx := ascending_of_firstCoincident? hnone
  rw [Store.length_parameters] at hx
  exact Spline.exists_curve hs.alive hs.enough hx

/-- Doubles can get out of range where the second derivatives of a natural spline are computed. -/
theorem build_of_apart {s : Spline Float} (h : s.store.Sorted) (hs : s.IsApart) :
    (∃ c, s.build = .ok c) ∨
      s.kind = .natural ∧ ∃ why, s.build = .error (.breakdown why) := by
  rw [build_of_isFull hs.toIsFull, hs.firstCoincident? (ordered_rank h)]
  dsimp only
  by_cases hk : s.kind = .natural
  · cases Curve.prepare s.kind s.terms s.store s.globalShape with
    | error why => exact .inr ⟨hk, why, rfl⟩
    | ok c => exact .inl ⟨c, rfl⟩
  · obtain ⟨c, hc⟩ : ∃ c, Curve.prepare s.kind s.terms s.store s.globalShape = .ok c :=
      Curve.exists_prepare fun k _ => Rule.exists_prepare_of_ne hk _ _ _ _ _
    exact .inl ⟨c, by rw [hc]; rfl⟩

end Spline

end CurveKit
