import CurveKit.Proofs.Binary64.Order
import CurveKit.Proofs.Exact.Piece
import Mathlib.Data.List.Chain

/-!
# Splines of doubles in order

The parameters of a spline are finite doubles, and those of a curve ascend strictly. So
bisection finds the segment of a parameter among doubles as it does among the numbers of a
field, and a control point at a parameter of its own leaves a spline that can be finalized.

Results:
* `sorted_invariant`: the store of every spline is sorted.
* `Climbs.segment_between`, `Climbs.segment_eq`: the segment of a parameter.
* `Spline.climbs_of_build`: the parameters of a curve ascend.
* `Spline.Ready.segment_spec`, `Spline.Ready.get_eq`: what a finalized spline answers between its
  ends, and from which segment.
* `Spline.Ready.exists_build_place`: a point at a new parameter leaves a spline that has a curve.
-/
namespace CurveKit

open Binary64

/-- Finite doubles in ascending order. -/
structure Climbs (n : Nat) (x : Nat → Float) : Prop where
  finite : ∀ i < n, (x i).isFinite = true
  ranks : Ascending n fun i => rank (x i)

theorem climbs_of_pairwise {l : List Float} (hf : ∀ p ∈ l, p.isFinite = true)
    (h : l.Pairwise fun p q => rank p < rank q) : Climbs l.length (nth l.toArray) := by
  have hentry (i : Nat) (hi : i < l.length) : nth l.toArray i = l[i] := by
    rw [nth, Array.getD_eq_getD_getElem?, List.getElem?_toArray, List.getElem?_eq_getElem hi,
      Option.getD_some]
  constructor
  · intro i hi
    rw [hentry i hi]
    exact hf _ (List.getElem_mem hi)
  · intro i j hij hj
    simp only [hentry i (hij.trans hj), hentry j hj]
    exact List.pairwise_iff_getElem.1 h i j (hij.trans hj) hj hij

namespace Climbs

variable {n m i j : Nat} {x : Nat → Float} {t : Float}

theorem upperBound (h : Climbs n x) (ht : t.isFinite = true) (hi : i < n) :
    i < upperBound x t 0 n ↔ x i ≤ t := by
  have mono : ∀ i j, 0 ≤ i → i ≤ j → j < n → t < x i → t < x j := by
    intro i j _ hij hj hlt
    rw [lt_iff_rank ht (h.finite _ (by omega))] at hlt ⊢
    exact lt_of_lt_of_le hlt (h.ranks.le hij hj)
  obtain ⟨below, above⟩ := upperBound_spec (a := x) mono
  have hfinite := h.finite i hi
  constructor
  · intro hlt
    exact (not_lt_iff_le ht hfinite).1 (below i (Nat.zero_le i) hlt)
  · intro hle
    by_contra hge
    exact (not_lt_iff_le ht hfinite).2 hle (above i (not_lt.1 hge) hi)

/-- The segment of a parameter between the ends. -/
theorem segment_spec (h : Climbs n x) (ht : t.isFinite = true) (h0 : x 0 ≤ t) (h1 : t < x (n - 1))
    (hn : 2 ≤ n) :
    x (segment n x t) ≤ t ∧ t < x (segment n x t + 1) ∧ segment n x t + 1 < n := by
  have hlast : ¬ x (n - 1) ≤ t := (not_le_iff_lt (h.finite _ (by omega)) ht).2 h1
  obtain ⟨hl, hr, hlt⟩ := segment_of_upperBound (P := fun i => x i ≤ t)
    (fun _ hi => h.upperBound ht hi) h0 hlast hn
  exact ⟨hl, (not_le_iff_lt (h.finite _ hlt) ht).1 hr, hlt⟩

/-- A parameter between two neighbours is in the segment between them. -/
theorem segment_eq (h : Climbs n x) (ht : t.isFinite = true) (hm : m + 1 < n) (hl : x m ≤ t)
    (hr : t < x (m + 1)) : segment n x t = m := by
  have hstart := (h.upperBound ht (by omega)).2 hl
  have hstop : ¬ m + 1 < CurveKit.upperBound x t 0 n := by
    rw [h.upperBound ht hm]
    exact (not_le_iff_lt (h.finite _ hm) ht).2 hr
  unfold segment
  omega

theorem lt_of_start (h : Climbs n x) (ht : t.isFinite = true) (him : i < m) (hm : m < n)
    (hl : x m ≤ t) : x i < t := by
  rw [le_iff_rank (h.finite m hm) ht] at hl
  rw [lt_iff_rank (h.finite i (by omega)) ht]
  exact lt_of_lt_of_le (h.ranks i m him hm) hl

theorem lt_of_stop (h : Climbs n x) (ht : t.isFinite = true) (hmi : m ≤ i) (hi : i < n)
    (hr : t < x m) : t < x i := by
  rw [lt_iff_rank ht (h.finite m (by omega))] at hr
  rw [lt_iff_rank ht (h.finite i hi)]
  exact lt_of_lt_of_le hr (h.ranks.le hmi hi)

/-- A parameter between two points of equal distance to the ends is in a segment between them. -/
theorem segment_between (h : Climbs n x) (ht : t.isFinite = true) (hn : 2 * i + 2 ≤ n)
    (hl : x i < t) (hr : t < x (n - 1 - i)) :
    x (segment n x t) ≤ t ∧ t < x (segment n x t + 1) ∧ i ≤ segment n x t ∧
      segment n x t + 1 + i < n := by
  have hi : (x i).isFinite = true := h.finite i (by omega)
  have hfirst : x 0 ≤ t := by
    rw [le_iff_rank (h.finite 0 (by omega)) ht]
    exact (h.ranks.le (Nat.zero_le i) (by omega)).trans ((lt_iff_rank hi ht).1 hl).le
  have hlast : t < x (n - 1) := h.lt_of_stop ht (by omega) (by omega) hr
  obtain ⟨hstart, hstop, hlt⟩ := h.segment_spec ht hfirst hlast (by omega)
  refine ⟨hstart, hstop, ?_, ?_⟩
  · by_contra hbefore
    exact (not_lt_iff_le ht hi).2 (Binary64.le_of_lt hi ht hl)
      (h.lt_of_stop ht (by omega) (by omega) hstop)
  · by_contra hbehind
    have hle := (not_lt_iff_le ht (h.finite (segment n x t) (by omega))).2 hstart
    exact hle (h.lt_of_stop ht (by omega) (by omega) hr)

end Climbs

/-! ## The parameters of a spline -/

namespace Spline

variable {s : Spline Float} {c : Curve Float} {p : Float}

theorem sorted_change {config : Config} {t : Spline Float} (h : s.store.Sorted)
    (ht : Change config s t) : t.store.Sorted := by
  cases ht with
  | recurved ht => cases ht <;> exact h
  | placed finite _ accepted =>
    obtain ⟨p, v, bend, events, -, -, hp, -, -, -, hr⟩ := insert_eq_ok accepted
    cases hp
    rw [hr]
    exact Store.sorted_insert h finite _

/-- **Invariant.** The control points of every spline are sorted. -/
theorem sorted_invariant : Invariant fun s : Spline Float => s.store.Sorted where
  empty _ _ := ⟨nofun, .nil⟩
  owners _ _ h := h
  call config s c h := sorted_change h (s.change_call config c)
  teardown _ _ := ⟨nofun, .nil⟩
  duplicate _ _ h := h

theorem firstCoincident?_iff_rank {l : List Float} (hl : ∀ p ∈ l, p.isFinite = true) :
    firstCoincident? l = none ↔ l.Pairwise fun p q => rank p < rank q := by
  rw [firstCoincident?_eq_none, List.IsChain.iff_of_mem_imp (S := fun p q => rank p < rank q),
    ← List.isChain_map rank, List.isChain_iff_pairwise, List.pairwise_map]
  intro p q hp hq
  rw [le_iff_rank (hl q hq) (hl p hp), not_le]

theorem finite_parameters (hs : s.store.Sorted) : ∀ p ∈ s.store.parameters, p.isFinite = true := by
  intro p hp
  obtain ⟨e, he, rfl⟩ := List.mem_map.1 hp
  exact hs.finite e he

/-- The parameters of a curve ascend. -/
theorem climbs_of_build (hs : s.store.Sorted) (hb : s.build = .ok c) :
    Climbs s.store.size s.parameterAt := by
  have hfinite := finite_parameters hs
  rw [← Store.length_parameters]
  exact climbs_of_pairwise hfinite ((firstCoincident?_iff_rank hfinite).1 (build_eq_ok.1 hb).2.2.1)

/-- A finalized spline of doubles as calls leave it. -/
structure Ready (s : Spline Float) (c : Curve Float) : Prop where
  coherent : s.Coherent
  sorted : s.store.Sorted
  curve : s.curve = some c

/-- A finite parameter between the ends of the curve of a spline. -/
structure Inside (s : Spline Float) (t : Float) : Prop where
  finite : t.isFinite = true
  first : s.parameterAt s.kind.guides < t
  last : t < s.parameterAt (s.store.size - 1 - s.kind.guides)

namespace Ready

variable {t : Float}

theorem build (h : s.Ready c) : s.build = .ok c := h.coherent.curve c h.curve

theorem climbs (h : s.Ready c) : Climbs s.store.size s.parameterAt :=
  climbs_of_build h.sorted h.build

theorem size (h : s.Ready c) : 2 * s.kind.guides + 2 ≤ s.store.size :=
  s.kind.guides_le.trans (minPoints_le_of_build h.build)

/-- A parameter between the ends is in a segment between them. -/
theorem segment_spec (h : s.Ready c) (ht : s.Inside t) {m : Nat}
    (hm : segment s.store.size s.parameterAt t = m) : s.parameterAt m ≤ t ∧
      t < s.parameterAt (m + 1) ∧ s.kind.guides ≤ m ∧ m + 1 + s.kind.guides < s.store.size := by
  rw [← hm]
  exact h.climbs.segment_between ht.finite h.size ht.first ht.last

/-- A spline answers between its ends what the formula of the segment gives, if it meets no text. -/
theorem get_eq (h : s.Ready c) (ht : s.Inside t) (config : Config) :
    s.get config (.ok t) = if s.readsText c t then .error .wrongForm
      else .ok (c.piece (segment s.store.size s.parameterAt t) t) := by
  have hsize := h.size
  have hfirst := (not_le_iff_lt ht.finite (h.climbs.finite _ (by omega))).2 ht.first
  have hlast := (not_le_iff_lt (h.climbs.finite _ (by omega)) ht.finite).2 ht.last
  rw [h.coherent.get_eq h.curve, read, eval_between h.build _ hfirst hlast]

/-- A point at a parameter of its own stands between smaller and greater ones. -/
theorem pairwise_rank_place (h : s.Ready c) (hp : p.isFinite = true)
    (apart : ∀ i < s.store.size, p < s.parameterAt i ∨ s.parameterAt i < p) (v : List Float)
    (bend : Bend Float) :
    (s.place p v bend).store.parameters.Pairwise fun p q => rank p < rank q := by
  have hpairwise := (firstCoincident?_iff_rank (finite_parameters h.sorted)).1
    (build_eq_ok.1 h.build).2.2.1
  have hplace : s.store.place p ≤ s.store.parameters.length := by
    rw [Store.length_parameters]
    exact s.store.place_le_size p
  have hentry {i : Nat} {q : Float} (hq : q ∈ s.store.parameters[i]?) :
      ∃ e, s.store.entries[i]? = some e ∧ e.parameter = q := by
    rw [Store.parameters, List.getElem?_map] at hq
    exact Option.map_eq_some_iff.1 hq
  show (s.store.insert p ⟨v, bend⟩).parameters.Pairwise _
  rw [Store.parameters_insert]
  refine Store.pairwise_insertIdx hpairwise hplace (fun i q hq hi => ?_) (fun i q hq hi => ?_)
  · obtain ⟨e, he, rfl⟩ := hentry hq
    have hfinite := Store.finite_of_getElem? h.sorted he
    have hle := (Store.place_spec h.sorted hp he).1 hi
    rcases apart i (List.getElem?_eq_some_iff.1 he).1 with hlt | hlt
    · rw [parameterAt_eq he] at hlt
      exact absurd hle ((not_le_iff_lt hfinite hp).2 hlt)
    · rw [parameterAt_eq he] at hlt
      exact (lt_iff_rank hfinite hp).1 hlt
  · obtain ⟨e, he, rfl⟩ := hentry hq
    have hfinite := Store.finite_of_getElem? h.sorted he
    exact (lt_iff_rank hp hfinite).1 ((Store.place_spec h.sorted hp he).2 hi)

/-- A point at a parameter of its own leaves a spline that has a curve. Only the second derivatives
of a natural spline can get out of range. -/
theorem exists_build_place (h : s.Ready c) (hkind : s.kind ≠ .natural) (hp : p.isFinite = true)
    (apart : ∀ i < s.store.size, p < s.parameterAt i ∨ s.parameterAt i < p)
    (v : List Float) (bend : Bend Float) : ∃ d, (s.place p v bend).build = .ok d := by
  obtain ⟨alive, hpoints, -, -⟩ := build_eq_ok.1 h.build
  have hsize : s.kind.minPoints ≤ (s.place p v bend).store.size := by
    rw [size_place]
    exact Nat.le_succ_of_le (checkPoints_eq_ok.1 hpoints)
  have hsorted : (s.place p v bend).store.Sorted := Store.sorted_insert h.sorted hp _
  have hdistinct := (firstCoincident?_iff_rank (finite_parameters hsorted)).2
    (h.pairwise_rank_place hp apart v bend)
  have hrules (k : Nat) : ∃ r, Curve.ruleOf s.kind (s.place p v bend).store
      (s.place p v bend).globalShape (Curve.column (s.place p v bend).store.contents k) = .ok r :=
    Rule.exists_prepare_of_ne hkind _ _ _ _ _
  obtain ⟨d, hd⟩ := Curve.exists_prepare fun k (_ : k < (s.place p v bend).terms) => hrules k
  exact ⟨d, build_eq_ok.2 ⟨alive, checkPoints_eq_ok.2 hsize, hdistinct, hd⟩⟩

end Ready

end Spline

end CurveKit
