import CurveKit.Proofs.Spline.Ranked
import CurveKit.Proofs.Store.Stable

/-!
# The search for a segment

Bisection with its two clamps finds the segment that a scan from the first point finds: the
one between whose ends a parameter lies, the first one before all points, and the last one behind
them. What decides is how many points have a parameter that is not greater, and a further point
changes this number by one or not at all.

Results:
* `Store.scan`: the scan.
* `Store.place_eq_countP`, `Store.place_insert`: the number of points that are not greater, and
  what a further point adds to it.
* `Store.Ascends.segmentAt_eq_scan`: bisection finds what the scan finds.
* `Store.Ascends.segmentAt_eq_iff`, `Store.Ascends.segmentAt_of_lt`,
  `Store.Ascends.segmentAt_of_ge`: between the ends and beyond them.
* `Store.Ascends.segmentAt_mono`, `Store.Ascends.segmentAt_insert`: a greater parameter, and a
  further point.
* `Store.search_correct`: all of it, for ascending finite doubles.
-/
namespace CurveKit

open Binary64

namespace Store

/-- The segment of a parameter, found from point to point: the first one of which the next point is
greater, or the last one. -/
def scan {K : Type} [Scalar K] (t : K) : List K → Nat
  | _ :: q :: r :: rest => if t < q then 0 else scan t (q :: r :: rest) + 1
  | _ => 0

variable {α : Type} {s : Store Float α} {t u q : Float} {i : Nat}

def segmentAt (s : Store Float α) (t : Float) : Nat := segment s.size (nth s.parameters.toArray) t

/-! ## How many are not greater -/

theorem place_eq_countP (hs : s.Sorted) (ht : t.isFinite = true) :
    s.place t = s.parameters.countP fun p => decide (p ≤ t) := by
  have hself : Arranges s.entries s := ⟨hs, fun _ => rfl⟩
  rw [hself.place_eq ht, parameters, List.countP_map]
  rfl

/-- A further point counts if it is not greater. -/
theorem place_insert (hs : s.Sorted) (ht : t.isFinite = true) (hq : q.isFinite = true) (a : α) :
    (s.insert q a).place t = s.place t + if q ≤ t then 1 else 0 := by
  have hperm := (s.perm_insert q a).map (·.parameter)
  rw [place_eq_countP (sorted_insert hs hq a) ht, place_eq_countP hs ht, parameters,
    hperm.countP_eq, List.map_cons, List.countP_cons]
  simp [parameters]

theorem place_eq_upperBound (s : Store Float α) (t : Float) :
    s.place t = upperBound (nth s.parameters.toArray) t 0 s.size :=
  upperBound_congr t fun i _ _ => by simp [nth]

theorem segmentAt_eq_place (s : Store Float α) (t : Float) :
    s.segmentAt t = min (s.place t - 1) (s.size - 2) := by
  rw [segmentAt, segment, place_eq_upperBound]

/-- Only the number of parameters that are not greater matters to a scan, too. -/
theorem scan_eq_countP {l : List Float} (hf : ∀ p ∈ l, p.isFinite = true)
    (hl : l.Pairwise fun p q => rank p < rank q) (ht : t.isFinite = true) :
    scan t l = min (l.countP (fun p => decide (p ≤ t)) - 1) (l.length - 2) := by
  fun_induction scan t l with
  | case1 p q r rest hlt =>
    have hq : q.isFinite = true := hf q (by simp)
    have hnone : (q :: r :: rest).countP (fun p => decide (p ≤ t)) = 0 := by
      refine List.countP_eq_zero.2 fun e he => ?_
      have hqe : rank q ≤ rank e := by
        rcases List.mem_cons.1 he with rfl | he
        · exact le_refl _
        · exact (List.rel_of_pairwise_cons (List.pairwise_cons.1 hl).2 he).le
      have hte : t < e := by
        rw [lt_iff_rank ht hq] at hlt
        exact (lt_iff_rank ht (hf e (.tail _ he))).2 (hlt.trans_le hqe)
      simpa using (not_le_iff_lt (hf e (.tail _ he)) ht).2 hte
    rw [List.countP_cons, hnone]
    split <;> omega
  | case2 p q r rest hlt ih =>
    have hp : p.isFinite = true := hf p (by simp)
    have hq : q.isFinite = true := hf q (by simp)
    have hqt : q ≤ t := (not_lt_iff_le ht hq).1 hlt
    have hpq : p ≤ q := (le_iff_rank hp hq).2 (List.rel_of_pairwise_cons hl (.head _)).le
    have hpt : p ≤ t := le_trans_of_isFinite hp hq ht hpq hqt
    have hcount : (p :: q :: r :: rest).countP (fun p => decide (p ≤ t)) =
        (q :: r :: rest).countP (fun p => decide (p ≤ t)) + 1 :=
      List.countP_cons_of_pos (by simpa using hpt)
    have hpos : 0 < (q :: r :: rest).countP fun p => decide (p ≤ t) :=
      List.countP_pos_iff.2 ⟨q, .head _, by simpa using hqt⟩
    rw [ih (fun e he => hf e (.tail _ he)) (List.pairwise_cons.1 hl).2, hcount]
    simp only [List.length_cons]
    omega
  | case3 l h =>
    have hshort : l.length ≤ 2 := by
      match l, h with
      | [], _ | [_], _ | [_, _], _ => simp
      | p :: q :: r :: rest, h => exact absurd rfl (h p q r rest)
    omega

/-! ## Ascending parameters -/

/-- The parameters of a store are finite and ascend strictly. -/
structure Ascends (s : Store Float α) : Prop where
  finite : ∀ p ∈ s.parameters, p.isFinite = true
  order : s.parameters.Pairwise (· < ·)

namespace Ascends

theorem ranks (h : s.Ascends) : s.parameters.Pairwise fun p q => rank p < rank q :=
  h.order.imp_of_mem fun hp hq => (lt_iff_rank (h.finite _ hp) (h.finite _ hq)).1

theorem sorted (h : s.Ascends) : s.Sorted where
  finite e he := h.finite _ (List.mem_map_of_mem he)
  order := by
    have hp : s.parameters.Pairwise (· ≤ ·) := h.order.imp_of_mem fun hp hq =>
      Binary64.le_of_lt (h.finite _ hp) (h.finite _ hq)
    exact List.pairwise_map.1 hp

theorem climbs (h : s.Ascends) : Climbs s.size (nth s.parameters.toArray) := by
  rw [← length_parameters]
  exact climbs_of_pairwise h.finite h.ranks

/-- Bisection finds what a scan finds. -/
theorem segmentAt_eq_scan (h : s.Ascends) (ht : t.isFinite = true) :
    s.segmentAt t = scan t s.parameters := by
  rw [scan_eq_countP h.finite h.ranks ht, segmentAt_eq_place, place_eq_countP h.sorted ht,
    length_parameters]

/-- A parameter between neighbours is in the segment between them, and nowhere else. -/
theorem segmentAt_eq_iff (h : s.Ascends) (ht : t.isFinite = true) (hn : 2 ≤ s.size)
    (h0 : nth s.parameters.toArray 0 ≤ t) (h1 : t < nth s.parameters.toArray (s.size - 1)) :
    s.segmentAt t = i ↔ i + 1 < s.size ∧ nth s.parameters.toArray i ≤ t ∧
      t < nth s.parameters.toArray (i + 1) := by
  constructor
  · rintro rfl
    obtain ⟨hl, hr, hi⟩ := h.climbs.segment_spec ht h0 h1 hn
    exact ⟨hi, hl, hr⟩
  · rintro ⟨hi, hl, hr⟩
    exact h.climbs.segment_eq ht hi hl hr

/-- What lies before the first point is in the first segment. -/
theorem segmentAt_of_lt (h : s.Ascends) (ht : t.isFinite = true) (hn : 2 ≤ s.size)
    (h0 : t < nth s.parameters.toArray 0) : s.segmentAt t = 0 := by
  have hnone : ¬ 0 < upperBound (nth s.parameters.toArray) t 0 s.size := by
    rw [h.climbs.upperBound ht (by omega)]
    exact (not_le_iff_lt (h.climbs.finite 0 (by omega)) ht).2 h0
  rw [segmentAt, segment]
  omega

/-- What lies at or behind the last point is in the last segment. -/
theorem segmentAt_of_ge (h : s.Ascends) (ht : t.isFinite = true) (hn : 2 ≤ s.size)
    (h1 : nth s.parameters.toArray (s.size - 1) ≤ t) : s.segmentAt t = s.size - 2 := by
  have hall : s.size - 1 < upperBound (nth s.parameters.toArray) t 0 s.size :=
    (h.climbs.upperBound ht (by omega)).2 h1
  rw [segmentAt, segment]
  omega

/-- A greater parameter is not in an earlier segment. -/
theorem segmentAt_mono (h : s.Ascends) (ht : t.isFinite = true) (hu : u.isFinite = true)
    (htu : t ≤ u) : s.segmentAt t ≤ s.segmentAt u := by
  have hcount : s.place t ≤ s.place u := by
    rw [place_eq_countP h.sorted ht, place_eq_countP h.sorted hu]
    refine List.countP_mono_left fun p hp hpt => ?_
    rw [decide_eq_true_eq] at hpt ⊢
    exact le_trans_of_isFinite (h.finite p hp) ht hu hpt htu
  rw [segmentAt_eq_place, segmentAt_eq_place]
  omega

/-- A further point moves the segment of a parameter between two neighbours by one if it comes
before that segment, and leaves it where it is if it comes behind. -/
theorem segmentAt_insert (h : s.Ascends) (ht : t.isFinite = true) (hi : i + 1 < s.size)
    (hl : nth s.parameters.toArray i ≤ t) (hr : t < nth s.parameters.toArray (i + 1))
    (hq : q.isFinite = true) (a : α) :
    (q < nth s.parameters.toArray i → (s.insert q a).segmentAt t = s.segmentAt t + 1) ∧
      (nth s.parameters.toArray (i + 1) < q → (s.insert q a).segmentAt t = s.segmentAt t) := by
  have hx := h.climbs
  have hplace : s.place t = i + 1 := by
    have hstart := (hx.upperBound ht (by omega)).2 hl
    have hstop : ¬ i + 1 < upperBound (nth s.parameters.toArray) t 0 s.size := by
      rw [hx.upperBound ht hi]
      exact (not_le_iff_lt (hx.finite _ hi) ht).2 hr
    rw [place_eq_upperBound]
    omega
  rw [segmentAt_eq_place, segmentAt_eq_place, size_insert, place_insert h.sorted ht hq, hplace]
  constructor
  · intro hbefore
    have hfinite := hx.finite i (by omega)
    have hqt : q ≤ t :=
      le_trans_of_isFinite hq hfinite ht (Binary64.le_of_lt hq hfinite hbefore) hl
    rw [if_pos hqt]
    omega
  · intro hbehind
    have hqt : ¬ q ≤ t :=
      (not_le_iff_lt hq ht).2 (lt_trans_of_isFinite ht (hx.finite (i + 1) hi) hq hr hbehind)
    rw [if_neg hqt]
    omega

end Ascends

/-- **The search for a segment.** Among at least two finite parameters that ascend strictly,
bisection finds the segment of every finite parameter that a scan finds: between the ends the only
one that it lies in, before them the first one and behind them the last one. A greater parameter is
not in an earlier segment. A further point before the segment of a parameter between the ends moves
it by exactly one, and a further point behind it does not move it. -/
theorem search_correct (h : s.Ascends) (hn : 2 ≤ s.size) :
    let x := nth s.parameters.toArray
    ∀ t, t.isFinite = true →
      s.segmentAt t ≤ s.size - 2 ∧ s.segmentAt t = scan t s.parameters ∧
      (x 0 ≤ t → t < x (s.size - 1) →
        ∀ i, s.segmentAt t = i ↔ i + 1 < s.size ∧ x i ≤ t ∧ t < x (i + 1)) ∧
      (t < x 0 → s.segmentAt t = 0) ∧ (x (s.size - 1) ≤ t → s.segmentAt t = s.size - 2) ∧
      (∀ u, u.isFinite = true → t ≤ u → s.segmentAt t ≤ s.segmentAt u) ∧
      ∀ i, i + 1 < s.size → x i ≤ t → t < x (i + 1) → ∀ q, q.isFinite = true → ∀ a,
        (q < x i → (s.insert q a).segmentAt t = s.segmentAt t + 1) ∧
        (x (i + 1) < q → (s.insert q a).segmentAt t = s.segmentAt t) := by
  intro x t ht
  exact ⟨segment_le _ _ _, h.segmentAt_eq_scan ht,
    fun h0 h1 _ => h.segmentAt_eq_iff ht hn h0 h1, h.segmentAt_of_lt ht hn,
    h.segmentAt_of_ge ht hn, fun _ hu htu => h.segmentAt_mono ht hu htu,
    fun _ hi hl hr _ hq a => h.segmentAt_insert ht hi hl hr hq a⟩

/-- Three points, a parameter at the middle one, and a further point on either side. -/
theorem search_correct_middle :
    let s : Store Float Unit := ⟨[⟨-1.0, ()⟩, ⟨0.5, ()⟩, ⟨2.0, ()⟩]⟩
    s.segmentAt 0.5 = 1 ∧ s.segmentAt (-7.0) = 0 ∧ s.segmentAt 2.0 = 1 ∧
      (s.insert (-3.0) ()).segmentAt 0.5 = 2 ∧ (s.insert 2.5 ()).segmentAt 0.5 = 1 := by
  intro s
  have h : s.Ascends := ⟨by decide +kernel, by decide +kernel⟩
  have hn : 2 ≤ s.size := by decide
  obtain ⟨-, -, hinside, -, -, -, hadded⟩ := search_correct h hn 0.5 (by decide +kernel)
  obtain ⟨-, -, -, hbefore, -⟩ := search_correct h hn (-7.0) (by decide +kernel)
  obtain ⟨-, -, -, -, hbehind, -⟩ := search_correct h hn 2.0 (by decide +kernel)
  have hmiddle : s.segmentAt 0.5 = 1 := (hinside (by decide +kernel) (by decide +kernel) 1).2
    ⟨by decide, by decide +kernel, by decide +kernel⟩
  have hadded := hadded 1 (by decide) (by decide +kernel) (by decide +kernel)
  refine ⟨hmiddle, hbefore (by decide +kernel), hbehind (by decide +kernel), ?_, ?_⟩
  · rw [(hadded (-3.0) (by decide +kernel) ()).1 (by decide +kernel), hmiddle]
  · rw [(hadded 2.5 (by decide +kernel) ()).2 (by decide +kernel), hmiddle]

end Store

end CurveKit
