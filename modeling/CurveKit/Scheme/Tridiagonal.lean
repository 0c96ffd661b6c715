import CurveKit.Scalar

/-!
# Tridiagonal systems

Gaussian elimination with partial pivoting on rows of three entries. Exchanging a
row with the next one brings in an entry two places right of the diagonal, so a
reduced row has two entries behind its pivot.

Results:
* `length_solve`: a solution has an unknown for every row.
-/
namespace CurveKit.Scheme

variable {K : Type} [Scalar K]

/-- A row of the system: the entries before, on and after the diagonal, and the right side. -/
structure Row (K : Type) where
  lower : K
  diagonal : K
  upper : K
  right : K
  deriving DecidableEq, Repr

/-- The bands of a system above, on and below the diagonal. Every band has an entry for each column;
the first one above and the last one below the diagonal belong to no row. -/
structure Bands (K : Type) where
  above : List K
  diagonal : List K
  below : List K

namespace Bands

def row (b : Bands K) (right : List K) (j : Nat) : Row K where
  lower := if j == 0 then 0 else b.below.getD (j - 1) 0
  diagonal := b.diagonal.getD j 0
  upper := if j + 1 == b.diagonal.length then 0 else b.above.getD (j + 1) 0
  right := right.getD j 0

def rows (b : Bands K) (right : List K) : List (Row K) :=
  (List.range b.diagonal.length).map (b.row right)

end Bands

/-- A row after elimination: its pivot, the two entries behind it, and the right side. -/
structure Reduced (K : Type) where
  pivot : K
  next : K
  afterNext : K
  right : K
  deriving DecidableEq, Repr

/-- Are all entries of a row finite? -/
def Row.isFinite (r : Row K) : Bool :=
  Scalar.isFinite r.lower && Scalar.isFinite r.diagonal && Scalar.isFinite r.upper
    && Scalar.isFinite r.right

/-- Takes the unknown of the current row `c` out of the next row `r`: the row that is done,
and the new current row. The row with the larger entry becomes the pivot row. -/
def eliminate (c : Reduced K) (r : Row K) : Option (Reduced K × Reduced K) :=
  if Scalar.magnitude r.lower ≤ Scalar.magnitude c.pivot then
    if c.pivot == 0 then none
    else
      let factor := r.lower / c.pivot
      some ({ c with afterNext := 0 },
        { pivot := r.diagonal - factor * c.next, next := r.upper, afterNext := 0,
          right := r.right - factor * c.right })
  else
    let factor := c.pivot / r.lower
    some ({ pivot := r.lower, next := r.diagonal, afterNext := r.upper, right := r.right },
      { pivot := c.next - factor * r.diagonal, next := -factor * r.upper, afterNext := 0,
        right := c.right - factor * r.right })

/-- The reduced rows from the current one on; none if a pivot is zero. -/
def reduce (c : Reduced K) : List (Row K) → Option (List (Reduced K))
  | [] => if c.pivot == 0 then none else some [c]
  | r :: rest => do
    let (done, current) ← eliminate c r
    let others ← reduce current rest
    pure (done :: others)

/-- The unknown of a reduced row, in front of those behind it. -/
def substitute (r : Reduced K) : List K → List K
  | [] => [r.right / r.pivot]
  | [a] => [(r.right - r.next * a) / r.pivot, a]
  | a :: b :: rest => (r.right - r.next * a - r.afterNext * b) / r.pivot :: a :: b :: rest

/-- The solution of a tridiagonal system; none if elimination meets a zero pivot. -/
def solve : List (Row K) → Option (List K)
  | [] => some []
  | r :: rest =>
    (reduce { pivot := r.diagonal, next := r.upper, afterNext := 0, right := r.right } rest).map
      fun rows => rows.foldr substitute []

theorem length_substitute (r : Reduced K) (xs : List K) :
    (substitute r xs).length = xs.length + 1 := by
  match xs with
  | [] => rfl
  | [_] => rfl
  | _ :: _ :: _ => rfl

theorem length_foldr_substitute (rows : List (Reduced K)) :
    (rows.foldr substitute []).length = rows.length := by
  induction rows with
  | nil => rfl
  | cons r rows ih => rw [List.foldr_cons, length_substitute, ih, List.length_cons]

theorem length_reduce {c : Reduced K} {rows : List (Row K)} {done : List (Reduced K)}
    (h : reduce c rows = some done) : done.length = rows.length + 1 := by
  induction rows generalizing c done with
  | nil =>
    simp only [reduce, Option.ite_none_left_eq_some, Option.some.injEq] at h
    simp [← h.2]
  | cons r rows ih =>
    simp only [reduce, Option.bind_eq_bind, Option.bind_eq_some_iff] at h
    obtain ⟨⟨first, current⟩, _, others, ho, hd⟩ := h
    obtain rfl : first :: others = done := by simpa using hd
    simp [ih ho]

theorem length_solve {rows : List (Row K)} {xs : List K} (h : solve rows = some xs) :
    xs.length = rows.length := by
  cases rows with
  | nil => simp_all [solve]
  | cons r rows =>
    simp only [solve, Option.map_eq_some_iff] at h
    obtain ⟨done, hd, rfl⟩ := h
    rw [length_foldr_substitute, length_reduce hd, List.length_cons]

end CurveKit.Scheme
