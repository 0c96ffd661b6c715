import CurveKit.Proofs.Exact.Piece
import CurveKit.Proofs.Scalar.Simulation

/-!
# Curves over other scalars

What a scheme computes in advance, and what it then answers, corresponds over two kinds of
scalars that correspond. Only the entries of the points matter, and of what was computed in
advance only the entries that were.

Results:
* `solve_related`, `moments_related`: the system of a natural spline is solved alike.
* `Rule.prepare_related`: what the schemes compute in advance.
* `Rule.piece_related`, `Rule.eval_related`: the formulas of the segments, and a component.
-/
namespace CurveKit

variable {K' K : Type} [Scalar K'] [Scalar K] {R : K' → K → Prop} {D : K → Prop}

namespace Scheme

/-! ## Elimination -/

/-- Rows whose entries correspond. -/
structure RowRelated (R : K' → K → Prop) (r' : Row K') (r : Row K) : Prop where
  lower : R r'.lower r.lower
  diagonal : R r'.diagonal r.diagonal
  upper : R r'.upper r.upper
  right : R r'.right r.right

/-- The same after elimination. -/
structure ReducedRelated (R : K' → K → Prop) (c' : Reduced K') (c : Reduced K) : Prop where
  pivot : R c'.pivot c.pivot
  next : R c'.next c.next
  afterNext : R c'.afterNext c.afterNext
  right : R c'.right c.right

section Elimination

variable (h : Simulation R D)

include h

theorem reduced_related {r' : Row K'} {r : Row K} (hr : RowRelated R r' r) :
    ReducedRelated R { pivot := r'.diagonal, next := r'.upper, afterNext := 0, right := r'.right }
      { pivot := r.diagonal, next := r.upper, afterNext := 0, right := r.right } :=
  ⟨hr.diagonal, hr.upper, h.literal 0, hr.right⟩

/-- One step of elimination divides by the entry that becomes the pivot, which is not zero. -/
theorem eliminate_related {c' : Reduced K'} {c : Reduced K} {r' : Row K'} {r : Row K}
    (hc : ReducedRelated R c' c) (hr : RowRelated R r' r) {done next : Reduced K}
    (he : eliminate c r = some (done, next)) : ∃ done' next',
      eliminate c' r' = some (done', next') ∧ ReducedRelated R done' done ∧ D done.pivot ∧
        ReducedRelated R next' next := by
  obtain ⟨hpivot, hnext, hafter, hright⟩ := hc
  obtain ⟨hlower, hdiagonal, hupper, hright'⟩ := hr
  have hzero := h.literal 0
  have hle := h.le (h.magnitude hlower) (h.magnitude hpivot)
  unfold eliminate at he ⊢
  by_cases hlarge : Scalar.magnitude r.lower ≤ Scalar.magnitude c.pivot
  · rw [if_pos hlarge] at he
    rw [if_pos (hle.2 hlarge), h.beq hpivot hzero]
    by_cases htest : (c.pivot == 0) = true
    · rw [if_pos htest] at he
      cases he
    · rw [if_neg htest] at he ⊢
      cases he
      have hD : D c.pivot := h.tested (by simpa using htest)
      have hfactor := h.div hlower hpivot hD
      exact ⟨_, _, rfl, ⟨hpivot, hnext, hzero, hright⟩, hD,
        ⟨h.sub hdiagonal (h.mul hfactor hnext), hupper, hzero,
          h.sub hright' (h.mul hfactor hright)⟩⟩
  · rw [if_neg hlarge] at he
    rw [if_neg fun hl => hlarge (hle.1 hl)]
    cases he
    have hD := h.larger hlarge
    have hfactor := h.div hpivot hlower hD
    exact ⟨_, _, rfl, ⟨hlower, hdiagonal, hupper, hright'⟩, hD,
      ⟨h.sub hnext (h.mul hfactor hdiagonal), h.mul (h.neg hfactor) hupper, hzero,
        h.sub hright (h.mul hfactor hright')⟩⟩

theorem reduce_related {rows' : List (Row K')} {rows : List (Row K)}
    (hrows : List.Forall₂ (RowRelated R) rows' rows) {c' : Reduced K'} {c : Reduced K}
    (hc : ReducedRelated R c' c) {done : List (Reduced K)} (hd : reduce c rows = some done) :
    ∃ done', reduce c' rows' = some done' ∧
      List.Forall₂ (fun d' d => ReducedRelated R d' d ∧ D d.pivot) done' done := by
  induction hrows generalizing c' c done with
  | nil =>
    unfold reduce at hd ⊢
    rw [h.beq hc.pivot (h.literal 0)]
    by_cases htest : (c.pivot == 0) = true
    · rw [if_pos htest] at hd
      cases hd
    · rw [if_neg htest] at hd ⊢
      cases hd
      exact ⟨[c'], rfl, .cons ⟨hc, h.tested (by simpa using htest)⟩ .nil⟩
  | cons hr _ ih =>
    simp only [reduce, Option.bind_eq_bind, Option.bind_eq_some_iff, Option.pure_def,
      Option.some.injEq] at hd
    obtain ⟨⟨first, current⟩, he, others, ho, rfl⟩ := hd
    obtain ⟨first', current', he', hfirst, hD, hcurrent⟩ := eliminate_related h hc hr he
    obtain ⟨others', ho', hothers⟩ := ih hcurrent ho
    exact ⟨first' :: others', by simp [reduce, he', ho'], .cons ⟨hfirst, hD⟩ hothers⟩

theorem substitute_related {r' : Reduced K'} {r : Reduced K} (hr : ReducedRelated R r' r)
    (hD : D r.pivot) {l' : List K'} {l : List K} (hl : List.Forall₂ R l' l) :
    List.Forall₂ R (substitute r' l') (substitute r l) := by
  obtain ⟨hpivot, hnext, hafter, hright⟩ := hr
  cases hl with
  | nil => exact .cons (h.div hright hpivot hD) .nil
  | cons ha hrest =>
    cases hrest with
    | nil => exact .cons (h.div (h.sub hright (h.mul hnext ha)) hpivot hD) (.cons ha .nil)
    | cons hb hrest =>
      have hvalue := h.sub (h.sub hright (h.mul hnext ha)) (h.mul hafter hb)
      exact .cons (h.div hvalue hpivot hD) (.cons ha (.cons hb hrest))

/-- Systems whose rows correspond are solved alike. -/
theorem solve_related {rows' : List (Row K')} {rows : List (Row K)}
    (hrows : List.Forall₂ (RowRelated R) rows' rows) {l : List K} (hl : solve rows = some l) :
    ∃ l', solve rows' = some l' ∧ List.Forall₂ R l' l := by
  cases hrows with
  | nil =>
    cases hl
    exact ⟨[], rfl, .nil⟩
  | cons hr hrest =>
    simp only [solve, Option.map_eq_some_iff] at hl
    obtain ⟨done, hd, rfl⟩ := hl
    obtain ⟨done', hd', hdone⟩ := reduce_related h hrest (reduced_related h hr) hd
    refine ⟨done'.foldr substitute [], by simp only [solve, hd', Option.map_some], ?_⟩
    clear hd hd'
    induction hdone with
    | nil => exact .nil
    | cons hfirst _ ih => exact substitute_related h hfirst.1 hfirst.2 ih

theorem isFinite_rows_eq {rows' : List (Row K')} {rows : List (Row K)}
    (hrows : List.Forall₂ (RowRelated R) rows' rows) :
    rows'.all Row.isFinite = rows.all Row.isFinite := by
  induction hrows with
  | nil => rfl
  | cons hr _ ih =>
    simp only [List.all_cons, ih, Row.isFinite, h.isFinite hr.lower, h.isFinite hr.diagonal,
      h.isFinite hr.upper, h.isFinite hr.right]

variable {n : Nat} {x' y' : Nat → K'} {x y : Nat → K} (hx : Entries R n x' x)
  (hd : Spaced D n x) (hy : Entries R n y' y)

include hx hd hy

theorem momentRow_related {j : Nat} (hj : j + 2 < n) :
    RowRelated R (momentRow n x' y' j) (momentRow n x y j) := by
  have hzero := h.literal 0
  have h0 := h.sub (hx (j + 1) (by omega)) (hx j (by omega))
  have h1 := h.sub (hx (j + 2) hj) (hx (j + 1) (by omega))
  have hleft := secant_related h hx hd hy (i := j) (by omega)
  have hright := secant_related h hx hd hy (i := j + 1) hj
  exact ⟨ite_related Iff.rfl (fun _ => hzero) fun _ => h0, h.mul (h.literal 2) (h.add h0 h1),
    ite_related Iff.rfl (fun _ => hzero) fun _ => h1, h.mul (h.literal 6) (h.sub hright hleft)⟩

theorem moments_related {m : List K} (hm : moments n x y = .ok m) :
    ∃ m', moments n x' y' = .ok m' ∧ List.Forall₂ R m' m := by
  have hrows : List.Forall₂ (RowRelated R) (momentRows n x' y') (momentRows n x y) := by
    rw [momentRows_eq, momentRows_eq]
    rw [List.forall₂_map_left_iff, List.forall₂_map_right_iff, List.forall₂_same]
    intro j hj
    exact momentRow_related h hx hd hy (by have := List.mem_range.1 hj; omega)
  unfold moments at hm ⊢
  dsimp only at hm ⊢
  rw [isFinite_rows_eq h hrows]
  split at hm
  · cases hm
  · rename_i hall
    rw [if_neg hall]
    cases hs : solve (momentRows n x y) with
    | none =>
      rw [hs] at hm
      cases hm
    | some l =>
      rw [hs] at hm
      cases hm
      obtain ⟨l', hs', hl⟩ := solve_related h hrows hs
      rw [hs']
      refine ⟨_, rfl, ?_⟩
      exact .cons (h.literal 0) (List.rel_append hl (.cons (h.literal 0) .nil))

end Elimination

end Scheme

/-! ## Extension data and rules -/

/-- Extension data of one form with numbers that correspond. -/
inductive Bend.Related (R : K' → K → Prop) : Bend K' → Bend K → Prop
  | none : Related R .none .none
  | tcb {p' q' : Tcb K'} {p q : Tcb K} (hp : Scheme.TripleRelated R p' p)
    (hq : Scheme.TripleRelated R q' q) : Related R (.tcb p' q') (.tcb p q)
  | shape {s' : K'} {s : K} (hs : R s' s) : Related R (.shape s') (.shape s)
  | text {s' : K'} {s : K} (hs : R s' s) : Related R (.text s') (.text s)

section Bends

variable {b' : Bend K'} {b : Bend K} (h : Simulation R D) (hb : Bend.Related R b' b)

include h hb

theorem Bend.triple_related (side : Side) :
    Scheme.TripleRelated R (b'.triple side) (b.triple side) := by
  have hzero := h.literal 0
  cases hb with
  | none => exact ⟨hzero, hzero, hzero⟩
  | shape _ => exact ⟨hzero, hzero, hzero⟩
  | text _ => exact ⟨hzero, hzero, hzero⟩
  | tcb hp hq =>
    cases side with
    | incoming => exact hp
    | outgoing => exact hq

theorem Bend.freedom_related : R b'.freedom b.freedom := by
  cases hb with
  | none => exact h.literal 0
  | tcb _ _ => exact h.literal 0
  | shape hs => exact hs
  | text hs => exact hs

end Bends

/-- Rules of one scheme for `n` points, which keep entries that correspond for all points or, as
cubics, for all segments. -/
inductive Rule.Related (R : K' → K → Prop) (n : Nat) : Rule K' → Rule K → Prop
  | lines : Related R n .lines .lines
  | parabolas : Related R n .parabolas .parabolas
  | natural {m' : Array K'} {m : Array K} (h : Entries R n (nth m') (nth m)) :
    Related R n (.natural m') (.natural m)
  | chords : Related R n .chords .chords
  | guided {p' : Array (Scheme.Cubic K')} {p : Array (Scheme.Cubic K)}
    (h : ∀ i, i + 1 < n → Scheme.CubicRelated R (nthCubic p' i) (nthCubic p i)) :
    Related R n (.guided p') (.guided p)
  | cubics {p' : Array (Scheme.Cubic K')} {p : Array (Scheme.Cubic K)}
    (h : ∀ i, i + 1 < n → Scheme.CubicRelated R (nthCubic p' i) (nthCubic p i)) :
    Related R n (.cubics p') (.cubics p)
  | tangents {p' q' : Array K'} {p q : Array K} (hp : Entries R n (nth p') (nth p))
    (hq : Entries R n (nth q') (nth q)) : Related R n (.tangents p' q') (.tangents p q)
  | blends (f : Scheme.Family) {s' : Array K'} {s : Array K} (h : Entries R n (nth s') (nth s)) :
    Related R n (.blends f s') (.blends f s)

theorem entries_of_forall₂ (h : Simulation R D) {l' : List K'} {l : List K}
    (hl : List.Forall₂ R l' l) (n : Nat) : Entries R n (nth l'.toArray) (nth l.toArray) := by
  have hall (i : Nat) : R (l'.getD i 0) (l.getD i 0) := by
    induction hl generalizing i with
    | nil => exact h.literal 0
    | cons ha _ ih =>
      cases i with
      | zero => exact ha
      | succ i => exact ih i
  intro i _
  simpa [nth] using hall i

theorem entries_tabulate {n : Nat} {f' : Nat → K'} {f : Nat → K} (h : Entries R n f' f) :
    Entries R n (nth (tabulate n f')) (nth (tabulate n f)) := by
  intro i hi
  simpa [nth, tabulate, hi] using h i hi

namespace Rule

variable {kind : Kind} {n i : Nat} {x' y' : Nat → K'} {x y : Nat → K} {bend' : Nat → Bend K'}
  {bend : Nat → Bend K} {shape' : K'} {shape : K} {r' : Rule K'} {r : Rule K} {t' : K'} {t : K}
  (h : Simulation R D) (hx : Entries R n x' x) (hd : Spaced D n x) (hy : Entries R n y' y)

include h hx hd hy

theorem cubics_related {m' : Nat → K'} {m : Nat → K} (hm : Entries R n m' m) :
    ∀ i, i + 1 < n → Scheme.CubicRelated R
      (nthCubic (tabulate (n - 1) (Scheme.slopeCubic x' y' m')) i)
      (nthCubic (tabulate (n - 1) (Scheme.slopeCubic x y m)) i) := by
  intro i hi
  have hlt : i < n - 1 := by omega
  simpa [nthCubic, tabulate, hlt] using
    Scheme.slopeCubic_related h hx hd hy hi (hm i (by omega)) (hm (i + 1) hi)

/-- What a scheme computes in advance corresponds, and it breaks down for neither if it does not for
one. -/
theorem prepare_related (hbend : ∀ i < n, Bend.Related R (bend' i) (bend i))
    (hshape : R shape' shape) (hn : kind.minPoints ≤ n)
    (hr : prepare kind n x y bend shape = .ok r) :
    ∃ r', prepare kind n x' y' bend' shape' = .ok r' ∧ r'.Related R n r := by
  have hfreedom : Entries R n (fun i => (bend' i).freedom) fun i => (bend i).freedom :=
    fun i hi => Bend.freedom_related h (hbend i hi)
  cases kind with
  | linear =>
    cases hr
    exact ⟨_, rfl, .lines⟩
  | quadratic =>
    cases hr
    exact ⟨_, rfl, .parabolas⟩
  | natural =>
    obtain ⟨m, hm, rfl⟩ := map_eq_ok.1 hr
    obtain ⟨m', hm', hrelated⟩ := Scheme.moments_related h hx hd hy hm
    exact ⟨_, map_eq_ok.2 ⟨m', hm', rfl⟩, .natural (entries_of_forall₂ h hrelated n)⟩
  | catmullRom =>
    cases hr
    exact ⟨_, rfl, .chords⟩
  | sor =>
    cases hr
    have hfour : 4 ≤ n := hn
    refine ⟨_, rfl, .guided (cubics_related h hx hd hy fun i hi => ?_)⟩
    exact Scheme.chordSlope_related h hx hd hy (by omega) hi
  | akima =>
    cases hr
    have hfour : 4 ≤ n := hn
    refine ⟨_, rfl, .cubics (cubics_related h hx hd hy fun i _ => ?_)⟩
    exact Scheme.akimaSlope_related h hx hd hy (by omega) i
  | tcb =>
    cases hr
    refine ⟨_, rfl, .tangents (entries_tabulate fun i hi => ?_) (entries_tabulate fun i hi => ?_)⟩
    · exact Scheme.incomingTangent_related h (Bend.triple_related h (hbend i hi) _) hx hd hy hi
    · exact Scheme.outgoingTangent_related h (Bend.triple_related h (hbend i hi) _) hx hd hy hi
  | basicX =>
    cases hr
    exact ⟨_, rfl, .blends _ (entries_tabulate fun _ _ => hshape)⟩
  | extendedX | generalX =>
    cases hr
    exact ⟨_, rfl, .blends _ (entries_tabulate hfreedom)⟩

/-- The formula of a segment. A parabola needs three points, and a blend divides by its weights. -/
theorem piece_related (hr : r'.Related R n r) (ht : R t' t) (hi : i + 1 < n)
    (hthree : r = .parabolas → 3 ≤ n)
    (hblend : ∀ f shapes, r = .blends f shapes → Scheme.Blendable D f n x (nth shapes) i t) :
    R (r'.piece n x' y' i t') (r.piece n x y i t) := by
  cases hr with
  | lines => exact Scheme.linePiece_related h hx hd hy ht hi
  | parabolas =>
    have hthree := hthree rfl
    exact Scheme.parabolaPiece_related h hx hd hy ht (by omega)
  | natural hm => exact Scheme.naturalPiece_related h hx hd hy hm ht hi
  | chords => exact Scheme.catmullRomPiece_related h hx hd hy ht hi
  | guided hp => exact Scheme.cubicPiece_related h (hp i hi) (hx i (by omega)) ht
  | cubics hp => exact Scheme.cubicPiece_related h (hp i hi) (hx i (by omega)) ht
  | tangents hp hq => exact Scheme.tangentPiece_related h hx hd hy hp hq ht hi
  | blends f hs => exact Scheme.blendPiece_related h f hx hd hy hs ht hi (hblend f _ rfl)

/-- A component at any parameter. -/
theorem eval_related (hr : r'.Related R n r) (ht : R t' t) (hn : 2 * r.guides + 2 ≤ n)
    (hthree : r = .parabolas → 3 ≤ n)
    (hblend : ∀ f shapes, r = .blends f shapes → ¬ t ≤ x 0 → ¬ x (n - 1) ≤ t →
      Scheme.Blendable D f n x (nth shapes) (segment n x t) t) (extrapolate : Bool) :
    R (r'.eval extrapolate n x' y' t') (r.eval extrapolate n x y t) := by
  have hsegment := segment_le n x t
  have hguides : r'.guides = r.guides := by cases hr <;> rfl
  have hcontinues : r'.continues extrapolate = r.continues extrapolate := by cases hr <;> rfl
  have hpiece (hinside : ∀ f shapes, r = .blends f shapes → ¬ t ≤ x 0 ∧ ¬ x (n - 1) ≤ t) :
      R (r'.piece n x' y' (segment n x t) t') (r.piece n x y (segment n x t) t) :=
    piece_related h hx hd hy hr ht (by omega) hthree fun f shapes hf =>
      hblend f shapes hf (hinside f shapes hf).1 (hinside f shapes hf).2
  rw [eval_eq, eval_eq, hguides, hcontinues, segment_eq h hx ht]
  apply Scheme.ite_related Iff.rfl
  · intro hc
    apply hpiece
    rintro f shapes rfl
    cases hc
  · intro _
    apply Scheme.ite_related (h.le ht (hx _ (by omega)))
    · intro _
      exact hy _ (by omega)
    · intro hfirst
      apply Scheme.ite_related (h.le (hx _ (by omega)) ht)
      · intro _
        exact hy _ (by omega)
      · intro hlast
        apply hpiece
        rintro f shapes rfl
        exact ⟨hfirst, hlast⟩

end Rule

end CurveKit
