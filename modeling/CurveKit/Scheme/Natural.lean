import CurveKit.Fault
import CurveKit.Segment
import CurveKit.Scheme.Tridiagonal

/-!
# Natural cubic splines

The second derivatives at the control points solve a tridiagonal system and are
zero at both ends. A piece is the cubic with the given values and second
derivatives at its ends; the ends of the curve are held.

Results:
* `momentRows_eq`: the rows that the bands of the system stand for.
* `length_moments`: there is a second derivative for every control point.
-/
namespace CurveKit.Scheme

variable {K : Type} [Scalar K]

/-- The bands of the system for the second derivatives at the interior points of `n` points. -/
def momentBands (n : Nat) (x : Nat → K) : Bands K :=
  let h (i : Nat) : K := x (i + 1) - x i
  let inner := (List.range (n - 3)).map fun i => h (i + 1)
  { above := 0 :: inner
    diagonal := (List.range (n - 2)).map fun i => 2 * (h i + h (i + 1))
    below := inner ++ [0] }

/-- Its right sides. -/
def momentSides (n : Nat) (x y : Nat → K) : List K :=
  (List.range (n - 2)).map fun i =>
    6 * ((y (i + 2) - y (i + 1)) / (x (i + 2) - x (i + 1)) - (y (i + 1) - y i) / (x (i + 1) - x i))

def momentRows (n : Nat) (x y : Nat → K) : List (Row K) :=
  (momentBands n x).rows (momentSides n x y)

/-- Row `j` of the system: the row of point `j + 1`. The outer entries that no unknown belongs to
are zero. -/
def momentRow (n : Nat) (x y : Nat → K) (j : Nat) : Row K :=
  let h0 := x (j + 1) - x j
  let h1 := x (j + 2) - x (j + 1)
  { lower := if j == 0 then 0 else h0
    diagonal := 2 * (h0 + h1)
    upper := if j + 3 == n then 0 else h1
    right := 6 * ((y (j + 2) - y (j + 1)) / h1 - (y (j + 1) - y j) / h0) }

theorem getD_map_range {α : Type} {n i : Nat} (hi : i < n) (f : Nat → α) (d : α) :
    ((List.range n).map f).getD i d = f i := by
  simp [List.getD_eq_getElem?_getD, hi]

/-- The rows that the bands stand for. -/
theorem momentRows_eq (n : Nat) (x y : Nat → K) :
    momentRows n x y = (List.range (n - 2)).map (momentRow n x y) := by
  have hlength : (momentBands n x).diagonal.length = n - 2 := by simp [momentBands]
  have hbelow {j : Nat} (hj : j < n - 3) :
      (momentBands n x).below.getD j 0 = x (j + 2) - x (j + 1) := by
    rw [momentBands, List.getD_eq_getElem?_getD, List.getElem?_append_left (by simpa using hj),
      ← List.getD_eq_getElem?_getD, getD_map_range hj]
  have habove {j : Nat} (hj : j < n - 3) :
      (momentBands n x).above.getD (j + 1) 0 = x (j + 2) - x (j + 1) := by
    rw [momentBands, List.getD_cons_succ, getD_map_range hj]
  rw [momentRows, Bands.rows, hlength]
  refine List.map_congr_left fun j hj => ?_
  replace hj : j < n - 2 := List.mem_range.1 hj
  have hdiagonal : (momentBands n x).diagonal.getD j 0 =
      2 * (x (j + 1) - x j + (x (j + 2) - x (j + 1))) := by
    rw [momentBands, getD_map_range hj]
  have hlower : (if j == 0 then 0 else (momentBands n x).below.getD (j - 1) 0) =
      if j == 0 then 0 else x (j + 1) - x j := by
    cases j with
    | zero => rfl
    | succ j => rw [Nat.add_sub_cancel, hbelow (by omega)]
  have hupper : (if j + 1 == n - 2 then 0 else (momentBands n x).above.getD (j + 1) 0) =
      if j + 3 == n then 0 else x (j + 2) - x (j + 1) := by
    by_cases hn : j + 3 = n
    · have hlast : j + 1 = n - 2 := by omega
      simp [hn, hlast]
    · have hlast : ¬ j + 1 = n - 2 := by omega
      simp only [beq_iff_eq, hn, hlast, if_false]
      exact habove (by omega)
  rw [Bands.row, momentRow, hlength, hdiagonal, hlower, hupper, momentSides, getD_map_range hj]

/-- The second derivatives at all `n` points. -/
def moments (n : Nat) (x y : Nat → K) : Except Breakdown (List K) :=
  let rows := momentRows n x y
  if !rows.all Row.isFinite then .error .notFinite
  else match solve rows with
    | none => .error .singular
    | some inner => .ok (0 :: inner ++ [0])

theorem length_moments {n : Nat} {x y : Nat → K} {ms : List K} (hn : 2 ≤ n)
    (h : moments n x y = .ok ms) : ms.length = n := by
  simp only [moments] at h
  split at h
  · cases h
  · split at h
    · cases h
    · next inner hs =>
      cases h
      have := length_solve hs
      simp only [momentRows_eq, List.length_map, List.length_range] at this
      simp only [List.length_append, List.length_cons, List.length_nil, this]
      omega

/-- The cubic from point `i` to point `i + 1` with the second derivatives `m`. -/
def naturalPiece (x y m : Nat → K) (i : Nat) (t : K) : K :=
  let h := x (i + 1) - x i
  let a := (x (i + 1) - t) / h
  let b := (t - x i) / h
  a * y i + b * y (i + 1)
    + ((Scalar.cube a - a) * m i + (Scalar.cube b - b) * m (i + 1)) * (h * h) / 6

/-- Cubic pieces between the ends, which are held. -/
def natural (n : Nat) (x y m : Nat → K) (t : K) : K :=
  (held? n x y t).getD (naturalPiece x y m (segment n x t) t)

end CurveKit.Scheme
