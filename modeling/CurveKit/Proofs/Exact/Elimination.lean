import CurveKit.Proofs.Exact.Segment
import CurveKit.Scheme.Tridiagonal
import Mathlib.Algebra.Order.BigOperators.Group.Finset
import Mathlib.LinearAlgebra.Matrix.Symmetric
import Mathlib.Tactic.Linarith
import Mathlib.Tactic.LinearCombination
import Mathlib.Tactic.Ring

/-!
# Elimination without exchanges

A tridiagonal system that is symmetric and strictly diagonally dominant keeps these
properties while its unknowns are taken out one by one: the pivot of the current row is
larger than the entry behind it, which is also the entry below. So no row changes its
place, no pivot is zero, and what is left has the solutions of the system.

Results:
* `mulVec_eq`, `mulVec_eq_rightSide`: the matrix of a system, and its rows one by one.
* `isSymm_bandMatrix`, `sum_lt_diagonal`: symmetry and dominance of the matrix.
* `InPlaceFrom.reduce_eq`: elimination without exchanges keeps the solutions.
* `inPlace_of_dominant`: such a system needs no exchanges.
* `InPlace.solve_eq`: without exchanges there is one solution, and it is found.
-/
namespace CurveKit.Scheme

open scoped Exact Matrix

variable {K : Type} [Field K] [LinearOrder K] {rows : List (Row K)}

/-! ## The matrix of a system -/

section Bands

omit [LinearOrder K]

/-- The matrix of a system. Entries of the outer rows that no unknown belongs to are left out. -/
def bandMatrix (rows : List (Row K)) : Matrix (Fin rows.length) (Fin rows.length) K := fun i j =>
  if j.val + 1 = i then rows[i].lower
  else if j = i then rows[i].diagonal
  else if j.val = i + 1 then rows[i].upper
  else 0

def rightSide (rows : List (Row K)) (i : Fin rows.length) : K := rows[i].right

/-- Unknowns with a zero in front of them and zeros behind them. -/
def padded {m : Nat} (v : Fin m → K) : Nat → K
  | 0 => 0
  | j + 1 => if h : j < m then v ⟨j, h⟩ else 0

theorem padded_of_le {m j : Nat} (v : Fin m → K) (h : m ≤ j) : padded v (j + 1) = 0 :=
  dif_neg (not_lt.2 h)

theorem map_padded {m : Nat} (v : Fin m → K) :
    (List.range m).map (fun j => padded v (j + 1)) = List.ofFn v := by
  apply List.ext_getElem
  · simp
  · intro j h1 h2
    have hj : j < m := by simpa using h1
    simp [padded, hj]

/-- The sequence meets every row of a system: entry `j + 1` is the unknown of row `j`. -/
def Solves (rows : List (Row K)) (u : Nat → K) : Prop :=
  ∀ j r, rows[j]? = some r → r.lower * u j + r.diagonal * u (j + 1) + r.upper * u (j + 2) = r.right

theorem solves_cons {r : Row K} {u : Nat → K} : Solves (r :: rows) u ↔
    r.lower * u 0 + r.diagonal * u 1 + r.upper * u 2 = r.right ∧
      Solves rows fun j => u (j + 1) := by
  constructor
  · exact fun h => ⟨h 0 r rfl, fun j s hs => h (j + 1) s hs⟩
  · rintro ⟨h0, h⟩ (_ | j) s hs
    · cases hs
      exact h0
    · exact h j s hs

theorem bandMatrix_eq (i j : Fin rows.length) : bandMatrix rows i j =
    (if j.val + 1 = i then rows[i].lower else 0) +
      (if j.val + 1 = i + 1 then rows[i].diagonal else 0) +
      (if j.val + 1 = i + 2 then rows[i].upper else 0) := by
  simp only [bandMatrix, Fin.ext_iff, Nat.add_right_cancel_iff]
  split_ifs <;> first | omega | simp

theorem sum_band {m : Nat} (v : Fin m → K) (a : Nat) (b : K) :
    ∑ j : Fin m, (if j.val + 1 = a then b else 0) * v j = b * padded v a := by
  cases a with
  | zero => simp [padded]
  | succ a =>
    by_cases ha : a < m
    · have hiff (j : Fin m) : j.val = a ↔ j = ⟨a, ha⟩ := by rw [Fin.ext_iff]
      simp [hiff, padded, ha]
    · have hne (j : Fin m) : j.val ≠ a := by omega
      simp [hne, padded, ha]

theorem mulVec_eq (v : Fin rows.length → K) (i : Fin rows.length) :
    (bandMatrix rows *ᵥ v) i = rows[i].lower * padded v i + rows[i].diagonal * padded v (i + 1) +
      rows[i].upper * padded v (i + 2) := by
  simp only [Matrix.mulVec, dotProduct, bandMatrix_eq, add_mul, Finset.sum_add_distrib, sum_band]

/-- The solutions of a system meet all of its rows. -/
theorem mulVec_eq_rightSide {v : Fin rows.length → K} :
    bandMatrix rows *ᵥ v = rightSide rows ↔ Solves rows (padded v) := by
  constructor
  · intro h j r hr
    obtain ⟨hj, rfl⟩ := List.getElem?_eq_some_iff.1 hr
    rw [← show rightSide rows ⟨j, hj⟩ = rows[j].right from rfl, ← h, mulVec_eq]
    rfl
  · intro h
    funext i
    rw [mulVec_eq]
    exact h i rows[i] (List.getElem?_eq_getElem i.isLt)

/-- The entries beside the diagonal are the same on both of its sides. -/
def Matched (rows : List (Row K)) : Prop := rows.IsChain fun r s => s.lower = r.upper

theorem isSymm_bandMatrix (h : Matched rows) : (bandMatrix rows).IsSymm := by
  have hnext (i j : Fin rows.length) (hij : i.val + 1 = j) : rows[j].lower = rows[i].upper := by
    obtain ⟨j, hj⟩ := j
    obtain rfl : i.val + 1 = j := hij
    exact List.isChain_iff_getElem.1 h i hj
  refine Matrix.IsSymm.ext fun i j => ?_
  rcases eq_or_ne i j with rfl | hne
  · rfl
  · simp only [bandMatrix, if_neg hne, if_neg hne.symm]
    by_cases hij : i.val + 1 = j
    · rw [if_pos hij, if_neg (by omega), if_pos hij.symm, hnext i j hij]
    · by_cases hji : j.val + 1 = i
      · rw [if_neg hij, if_pos hji.symm, if_pos hji, hnext j i hji]
      · rw [if_neg hij, if_neg (Ne.symm hji), if_neg hji, if_neg (Ne.symm hij)]

end Bands

def Row.Dominant (r : Row K) : Prop := |r.lower| + |r.upper| < |r.diagonal|

variable [IsStrictOrderedRing K]

theorem abs_bandMatrix {i j : Fin rows.length} (h : j ≠ i) : |bandMatrix rows i j| =
    (if j.val + 1 = i then |rows[i].lower| else 0) * 1 +
      (if j.val + 1 = i + 2 then |rows[i].upper| else 0) * 1 := by
  have hne : j.val ≠ i := Fin.val_ne_of_ne h
  simp only [bandMatrix, if_neg h, mul_one]
  split_ifs <;> first | omega | simp

theorem padded_one_le {m : Nat} (a : Nat) : padded (fun _ : Fin m => (1 : K)) a ≤ 1 := by
  unfold padded
  split
  · exact zero_le_one
  · split
    · exact le_refl 1
    · exact zero_le_one

/-- The matrix is strictly diagonally dominant if all rows are. -/
theorem sum_lt_diagonal (h : ∀ r ∈ rows, r.Dominant) (i : Fin rows.length) :
    ∑ j ∈ Finset.univ.erase i, |bandMatrix rows i j| < |bandMatrix rows i i| := by
  have hdiagonal : bandMatrix rows i i = rows[i].diagonal := by simp [bandMatrix]
  calc ∑ j ∈ Finset.univ.erase i, |bandMatrix rows i j|
      = ∑ j ∈ Finset.univ.erase i, ((if j.val + 1 = i then |rows[i].lower| else 0) * 1 +
          (if j.val + 1 = i + 2 then |rows[i].upper| else 0) * 1) :=
        Finset.sum_congr rfl fun j hj => abs_bandMatrix (Finset.ne_of_mem_erase hj)
    _ ≤ ∑ j : Fin rows.length, ((if j.val + 1 = i then |rows[i].lower| else 0) * 1 +
          (if j.val + 1 = i + 2 then |rows[i].upper| else 0) * 1) := by
        refine Finset.sum_le_sum_of_subset_of_nonneg (Finset.erase_subset _ _) fun j _ _ => ?_
        split_ifs <;> positivity
    _ = |rows[i].lower| * padded (fun _ => 1) i +
          |rows[i].upper| * padded (fun _ => 1) (i + 2) := by
        rw [Finset.sum_add_distrib, sum_band, sum_band]
    _ ≤ |rows[i].lower| * 1 + |rows[i].upper| * 1 := by
        gcongr <;> exact padded_one_le _
    _ < |bandMatrix rows i i| := by
        rw [mul_one, mul_one, hdiagonal]
        exact h _ (List.getElem_mem i.isLt)

/-! ## Elimination -/

/-- What is left of the next row `r` if it is not exchanged with the current one. -/
def Reduced.follow (c : Reduced K) (r : Row K) : Reduced K :=
  { pivot := r.diagonal - r.lower / c.pivot * c.next, next := r.upper, afterNext := 0,
    right := r.right - r.lower / c.pivot * c.right }

/-- Elimination starts with the first row as it is. -/
def Row.first (r : Row K) : Reduced K :=
  { pivot := r.diagonal, next := r.upper, afterNext := 0, right := r.right }

/-- From the current row on elimination finds pivots that are not zero and at least as large as the
entry below them. -/
def InPlaceFrom : Reduced K → List (Row K) → Prop
  | c, [] => c.pivot ≠ 0
  | c, r :: rest => c.pivot ≠ 0 ∧ |r.lower| ≤ |c.pivot| ∧
      ∃ step, eliminate c r = some step ∧ InPlaceFrom step.2 rest

/-- Elimination meets no zero pivot and exchanges no rows. -/
def InPlace : List (Row K) → Prop
  | [] => True
  | r :: rest => InPlaceFrom r.first rest

section Steps

omit [IsStrictOrderedRing K]

variable {c : Reduced K} {r : Row K}

theorem eliminate_eq (h : c.pivot ≠ 0) (hr : |r.lower| ≤ |c.pivot|) :
    eliminate c r = some ({ c with afterNext := 0 }, c.follow r) := by
  have hmagnitude : Scalar.magnitude r.lower ≤ Scalar.magnitude c.pivot := hr
  have hzero : ¬ (c.pivot == @OfNat.ofNat K 0 (Scalar.literal 0)) = true := by
    rw [Scalar.zero_eq, beq_iff_eq]
    exact h
  rw [eliminate, if_pos hmagnitude, if_neg hzero]
  simp only [Scalar.zero_eq]
  rfl

theorem substitute_cons (c : Reduced K) (a : K) (l : List K) :
    substitute { c with afterNext := 0 } (a :: l) =
      (c.right - c.next * a) / c.pivot :: a :: l := by
  cases l with
  | nil => rfl
  | cons b l => simp [substitute]

/-- Substitution meets the current row, and leaves the unknowns behind it as they are. -/
theorem substitute_eq_iff (h : c.pivot ≠ 0) {l : List K} {m : Nat} (hl : l.length = m + 1)
    {u : Nat → K} : substitute { c with afterNext := 0 } l = (List.range (m + 1 + 1)).map u ↔
      c.pivot * u 0 + c.next * u 1 = c.right ∧
        l = (List.range (m + 1)).map fun j => u (j + 1) := by
  have hrange (m : Nat) (u : Nat → K) :
      (List.range (m + 1)).map u = u 0 :: (List.range m).map fun j => u (j + 1) := by
    rw [List.range_succ_eq_map, List.map_cons, List.map_map]
    rfl
  obtain ⟨a, l, rfl⟩ := List.exists_cons_of_length_eq_add_one hl
  rw [substitute_cons, hrange (m + 1), List.cons_eq_cons]
  refine and_congr_left fun hrest => ?_
  have ha : a = u 1 := by
    rw [hrange, List.cons_eq_cons] at hrest
    exact hrest.1
  rw [ha, div_eq_iff h, sub_eq_iff_eq_add, mul_comm (u 0), eq_comm]

omit [LinearOrder K] in
/-- What is left of a row has the solutions of the row and the current one. -/
theorem follow_iff {a b d : K} (h : c.pivot ≠ 0) (hc : c.pivot * a + c.next * b = c.right) :
    r.lower * a + r.diagonal * b + r.upper * d = r.right ↔
      (c.follow r).pivot * b + (c.follow r).next * d = (c.follow r).right := by
  have hfactor : r.lower / c.pivot * c.pivot = r.lower := div_mul_cancel₀ _ h
  simp only [Reduced.follow]
  constructor
  · intro hr
    linear_combination hr - r.lower / c.pivot * hc + a * hfactor
  · intro hr
    linear_combination hr + r.lower / c.pivot * hc - a * hfactor

/-- Elimination without exchanges keeps the solutions, and substitution finds them. -/
theorem InPlaceFrom.reduce_eq (h : InPlaceFrom c rows) : ∃ done, reduce c rows = some done ∧
    ∀ u : Nat → K, u (rows.length + 1) = 0 →
      (c.pivot * u 0 + c.next * u 1 = c.right ∧ Solves rows u ↔
        done.foldr substitute [] = (List.range (rows.length + 1)).map u) := by
  induction rows generalizing c with
  | nil =>
    have hpivot : c.pivot ≠ 0 := h
    refine ⟨[c], by simpa [reduce] using hpivot, fun u hu => ?_⟩
    have hsolves : Solves [] u := by
      intro j r hr
      cases hr
    have hone : u 1 = 0 := hu
    simp only [hsolves, and_true, hone, mul_zero, add_zero]
    simp [substitute, div_eq_iff hpivot, mul_comm, eq_comm]
  | cons r rest ih =>
    -- The row that is left of `r` is the current one for the unknowns behind the first.
    obtain ⟨hpivot, hr, step, hstep, hrest⟩ := h
    rw [eliminate_eq hpivot hr] at hstep
    obtain rfl := Option.some.inj hstep
    obtain ⟨done, hdone, hiff⟩ := ih hrest
    refine ⟨{ c with afterNext := 0 } :: done, ?_, fun u hu => ?_⟩
    · simp [reduce, eliminate_eq hpivot hr, hdone]
    have hlength : (done.foldr substitute []).length = rest.length + 1 := by
      rw [length_foldr_substitute, length_reduce hdone]
    rw [List.foldr_cons, List.length_cons, substitute_eq_iff hpivot hlength, solves_cons,
      ← hiff (fun j => u (j + 1)) hu]
    exact and_congr_right fun hcurrent => and_congr_left' (follow_iff hpivot hcurrent)

end Steps

/-- In a dominant system the current row stays so while it takes up the next one. -/
theorem inPlaceFrom_of_dominant {c : Reduced K} {r : Row K} (hnext : c.next = r.upper)
    (hc : |c.next| < |c.pivot|) (hd : ∀ s ∈ rows, s.Dominant) (hm : Matched (r :: rows)) :
    InPlaceFrom c rows := by
  have hpivot : c.pivot ≠ 0 := abs_pos.1 (lt_of_le_of_lt (abs_nonneg _) hc)
  induction rows generalizing c r with
  | nil => exact hpivot
  | cons s rest ih =>
    -- The entry below the pivot is the one behind it, so less is taken from the next diagonal
    -- than it is larger than the entry behind that.
    obtain ⟨hlower, hm⟩ := List.isChain_cons_cons.1 hm
    rw [← hnext] at hlower
    have htaken : |s.lower / c.pivot * c.next| ≤ |s.lower| := by
      rw [div_mul_eq_mul_div, abs_div, abs_mul, div_le_iff₀ (abs_pos.2 hpivot)]
      exact mul_le_mul_of_nonneg_left hc.le (abs_nonneg _)
    have hnew : |(c.follow s).next| < |(c.follow s).pivot| := by
      have hdominant : |s.lower| + |s.upper| < |s.diagonal| := hd s List.mem_cons_self
      have hsub := abs_sub_abs_le_abs_sub s.diagonal (s.lower / c.pivot * c.next)
      change |s.upper| < |s.diagonal - s.lower / c.pivot * c.next|
      linarith
    have hkept : |s.lower| ≤ |c.pivot| := by
      rw [hlower]
      exact hc.le
    refine ⟨hpivot, hkept, _, eliminate_eq hpivot hkept, ?_⟩
    exact ih rfl hnew (fun t ht => hd t (List.mem_cons_of_mem _ ht)) hm
      (abs_pos.1 (lt_of_le_of_lt (abs_nonneg _) hnew))

theorem inPlace_of_dominant (hd : ∀ r ∈ rows, r.Dominant) (hm : Matched rows) : InPlace rows := by
  cases rows with
  | nil => trivial
  | cons r rest =>
    have hfirst : |r.lower| + |r.upper| < |r.diagonal| := hd r List.mem_cons_self
    refine inPlaceFrom_of_dominant (c := r.first) (r := r) rfl ?_
      (fun s hs => hd s (List.mem_cons_of_mem _ hs)) hm
    exact lt_of_le_of_lt (le_add_of_nonneg_left (abs_nonneg _)) hfirst

theorem exists_ofFn {α : Type} {m : Nat} {l : List α} (h : l.length = m) :
    ∃ v : Fin m → α, List.ofFn v = l := by
  subst h
  exact ⟨l.get, List.ofFn_get l⟩

omit [IsStrictOrderedRing K] in
/-- Without exchanges the one solution of a system is found. -/
theorem InPlace.solve_eq (h : InPlace rows) : ∃ v : Fin rows.length → K,
    solve rows = some (List.ofFn v) ∧ ∀ w, bandMatrix rows *ᵥ w = rightSide rows ↔ w = v := by
  cases rows with
  | nil =>
    refine ⟨Fin.elim0, rfl, fun w => iff_of_true ?_ ?_⟩
    · exact funext fun i => i.elim0
    · exact funext fun i => i.elim0
  | cons r rest =>
    obtain ⟨done, hdone, hiff⟩ := InPlaceFrom.reduce_eq h
    have hsolve : solve (r :: rest) = some (done.foldr substitute []) := by
      simp only [solve, Scalar.zero_eq]
      exact congrArg (Option.map _) hdone
    obtain ⟨v, hv⟩ := exists_ofFn (length_solve hsolve)
    rw [← hv] at hsolve
    refine ⟨v, hsolve, fun w => ?_⟩
    have hrow : r.lower * padded w 0 + r.diagonal * padded w 1 + r.upper * padded w 2 = r.right ↔
        r.first.pivot * padded w 1 + r.first.next * padded w 2 = r.first.right := by
      rw [show padded w 0 = 0 from rfl, mul_zero, zero_add]
      rfl
    have hfound := hiff (fun j => padded w (j + 1)) (padded_of_le w (le_refl _))
    rw [mulVec_eq_rightSide, solves_cons, hrow, hfound, ← List.length_cons (a := r), map_padded,
      ← hv, List.ofFn_inj, eq_comm]

end CurveKit.Scheme
