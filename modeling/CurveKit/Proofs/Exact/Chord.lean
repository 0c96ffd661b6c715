import CurveKit.Proofs.Exact.Knot
import CurveKit.Proofs.Exact.Moments

/-!
# Chords as tangents

Without tension, bias and continuity a Kochanek-Bartels tangent is the mean of the
differences before and behind its point, which is half of the chord between the neighbours.
Each end has itself for the neighbour that is missing, in one scheme because a difference is
zero there, in the other one because indexes stop there. So the tangents are those of a
Catmull-Rom spline, for all spacings, and the two curves are one.

Results:
* `Scheme.backward_add_forward`: both differences together reach from neighbour to neighbour.
* `Scheme.incomingTangent_zero`, `Scheme.outgoingTangent_zero`: the tangents are chords.
* `Rule.piece_of_plain`, `Rule.eval_of_plain`: the rules of the two schemes.
* `Spline.tcb_eq_catmullRom`: the same for splines on the same points.
-/
namespace CurveKit

open scoped Exact

variable {K : Type} [Field K] [LinearOrder K] {n i : Nat} {x y : Nat → K}

namespace Scheme

theorem backward_succ (a : Nat → K) (i : Nat) : backward a (i + 1) = a (i + 1) - a i := by
  simp [backward]

theorem forward_of_lt (a : Nat → K) (hi : i + 1 < n) : forward n a i = a (i + 1) - a i := by
  simp [forward, hi.ne]

/-- At an end one of the two differences is zero, as the end is its own neighbour there. -/
theorem backward_add_forward (a : Nat → K) (hi : i < n) :
    backward a i + forward n a i = a (min (i + 1) (n - 1)) - a (i - 1) := by
  simp only [backward, forward, beq_iff_eq, Scalar.zero_eq]
  split <;> split
  · obtain rfl : i = 0 := ‹_›
    rw [show min (0 + 1) (n - 1) = 0 by omega, Nat.zero_sub, sub_self, add_zero]
  · obtain rfl : i = 0 := ‹_›
    rw [show min (0 + 1) (n - 1) = 0 + 1 by omega, Nat.zero_sub, zero_add]
  · rw [show min (i + 1) (n - 1) = i by omega, add_zero]
  · rw [show min (i + 1) (n - 1) = i + 1 by omega]
    ring

theorem chordTangent_eq (hi : i < n) (length : K) : chordTangent n x y i length =
    (backward y i + forward n y i) * (length / (backward x i + forward n x i)) := by
  rw [backward_add_forward y hi, backward_add_forward x hi]
  rfl

theorem incomingMix_zero (before behind : K) :
    incomingMix ⟨0, 0, 0⟩ before behind = (before + behind) / 2 := by
  simp only [incomingMix, Scalar.one_eq, Scalar.ofNat_eq]
  ring

theorem outgoingMix_zero (before behind : K) :
    outgoingMix ⟨0, 0, 0⟩ before behind = (before + behind) / 2 := by
  simp only [outgoingMix, Scalar.one_eq, Scalar.ofNat_eq]
  ring

omit [LinearOrder K] in
theorem half_mul_double [CharZero K] (a b c : K) : a / 2 * (2 * b / c) = a * (b / c) := by
  rw [mul_div_assoc, ← mul_assoc, div_mul_cancel₀ a two_ne_zero]

section Tangents

variable [CharZero K]

/-- With a triple of zeros a point is reached along its chord. -/
theorem incomingTangent_zero (hi : i < n) :
    incomingTangent n x y ⟨0, 0, 0⟩ i = chordTangent n x y i (backward x i) := by
  rw [chordTangent_eq hi, incomingTangent, incomingMix_zero]
  exact half_mul_double _ _ _

/-- It is left along the same chord. -/
theorem outgoingTangent_zero (hi : i < n) :
    outgoingTangent n x y ⟨0, 0, 0⟩ i = chordTangent n x y i (forward n x i) := by
  rw [chordTangent_eq hi, outgoingTangent, outgoingMix_zero]
  exact half_mul_double _ _ _

theorem tangentPiece_zero {incoming outgoing : Nat → K} (hi : i + 1 < n)
    (hin : incoming (i + 1) = incomingTangent n x y ⟨0, 0, 0⟩ (i + 1))
    (hout : outgoing i = outgoingTangent n x y ⟨0, 0, 0⟩ i) (t : K) :
    tangentPiece x y incoming outgoing i t = catmullRomPiece n x y i t := by
  rw [tangentPiece, hin, hout, incomingTangent_zero hi, outgoingTangent_zero (by omega),
    forward_of_lt x hi, backward_succ]
  rfl

end Tangents

end Scheme

/-! ## The rules of the two schemes -/

namespace Rule

variable [CharZero K] {bend : Nat → Bend K} {shape : K} {r : Rule K}

/-- The formulas of a Kochanek-Bartels rule whose triples are all zero are those of Catmull-Rom. -/
theorem piece_of_plain (h : prepare .tcb n x y bend shape = .ok r)
    (hplain : ∀ i < n, ∀ side, (bend i).triple side = ⟨0, 0, 0⟩) (hi : i + 1 < n) (t : K) :
    r.piece n x y i t = Scheme.catmullRomPiece n x y i t := by
  cases h
  apply Scheme.tangentPiece_zero hi
  · rw [nth_tabulate _ hi, hplain (i + 1) hi]
  · rw [nth_tabulate _ (by omega), hplain i (by omega)]

/-- The whole curve is the same. -/
theorem eval_of_plain (h : prepare .tcb n x y bend shape = .ok r)
    (hplain : ∀ i < n, ∀ side, (bend i).triple side = ⟨0, 0, 0⟩) (hn : 2 ≤ n)
    (e e' : Bool) (t : K) : r.eval e n x y t = chords.eval e' n x y t := by
  refine eval_congr hn ?_ ?_ fun i hi => piece_of_plain h hplain hi t
  · cases h
    rfl
  · cases h
    rfl

end Rule

/-! ## Splines -/

namespace Spline

variable {s u : Spline K}

/-- All triples of a spline are zero. -/
def IsPlain (s : Spline K) : Prop :=
  ∀ a ∈ s.store.contents, ∀ side, a.bend.triple side = ⟨0, 0, 0⟩

theorem IsPlain.bendAt (h : s.IsPlain) (hi : i < s.store.size) (side : Side) :
    (s.bendAt i).triple side = ⟨0, 0, 0⟩ := by
  obtain ⟨a, ha, hbend⟩ := bendAt_mem hi
  rw [hbend, h a ha]

theorem Grown.place_pair (h : s.Grown) {p : K} {v : List K} (alive : s.destroyed = false)
    (hk : s.kind = .tcb) (nonempty : v ≠ []) (width : s.terms ≠ 0 → v.length = s.terms)
    (incoming outgoing : Tcb K) : (s.place p v (.tcb incoming outgoing)).Grown := by
  have presence : checkPresence s.kind
      (.items .group [.triple incoming, .triple outgoing] : Extension K) = .ok () := by
    simp [checkPresence, hk, Kind.tag, Extension.isPresent]
  have check : checkBend true s.kind
      (.items .group [.triple incoming, .triple outgoing] : Extension K) =
        .ok (.tcb incoming outgoing, []) := by
    simp [checkBend, checkPair, checkTriple, hk, Kind.tag, Extension.pair?, Extension.triple?,
      Tcb.isFinite, Tcb.toList, Scalar.isFinite, bind, Except.bind, pure, Except.pure, Except.map]
  exact h.place alive nonempty rfl presence width check

variable [IsStrictOrderedRing K]

/-- **Chords.** Take a Kochanek-Bartels spline whose triples are all zero, and a Catmull-Rom spline
on the same points, at least four of them at ascending parameters. Both can be finalized, the
formulas of all segments are the same, those of the two outer ones included, and both splines
answer the same value at every parameter, also beyond their ends. -/
theorem tcb_eq_catmullRom (hs : s.Grown) (hu : u.Grown) (hks : s.kind = .tcb)
    (hku : u.kind = .catmullRom) (alive : s.destroyed = false) (alive' : u.destroyed = false)
    (hparameters : u.store.parameters = s.store.parameters) (hvalues : u.values = s.values)
    (hplain : s.IsPlain) (hn : 4 ≤ s.store.size)
    (hx : Ascending s.store.size s.parameterAt) :
    ∃ c d, s.build = .ok c ∧ u.build = .ok d ∧
      (∀ i t, i + 1 < s.store.size → c.piece i t = d.piece i t) ∧
      ∀ config config' t, ∃ v, v.length = s.terms ∧
        get config { s with curve := some c } (.ok t) = .ok v ∧
        get config' { u with curve := some d } (.ok t) = .ok v := by
  have hsize : u.store.size = s.store.size := by
    rw [← Store.length_parameters, hparameters, Store.length_parameters]
  have hpar : u.parameterAt = s.parameterAt := by rw [parameterAt, hparameters]; rfl
  have hval (k : Nat) : u.valueAt k = s.valueAt k := valueAt_congr hvalues k
  have hterms : u.terms = s.terms := by rw [terms_eq_values, hvalues, ← terms_eq_values]
  have hmin : s.kind.minPoints ≤ s.store.size := by
    rw [hks]
    exact le_trans (by decide) hn
  have hmin' : u.kind.minPoints ≤ u.store.size := by
    rw [hku, hsize]
    exact hn
  obtain ⟨c, hc⟩ := exists_curve alive hmin hx
  obtain ⟨d, hd⟩ := exists_curve alive' hmin' (by rwa [hsize, hpar])
  have hchords (k : Nat) (hk : k < s.terms) : d.ruleAt k = .chords := by
    have h := prepare_of_build hd (hterms ▸ hk)
    rw [hku] at h
    exact (Except.ok.inj h).symm
  have hprepare (k : Nat) (hk : k < s.terms) := hks ▸ prepare_of_build hc hk
  have hbend (i : Nat) (hi : i < s.store.size) := hplain.bendAt hi
  refine ⟨c, d, hc, hd, fun i t hi => ?_, fun config config' t => ?_⟩
  · rw [piece_of_build hc, piece_of_build hd, hterms, hsize, hpar]
    refine List.map_congr_left fun k hk => ?_
    have hk := List.mem_range.1 hk
    rw [hval, hchords k hk]
    exact Rule.piece_of_plain (hprepare k hk) hbend hi t
  · refine ⟨c.eval (config.isOn .extrapolate) t, ?_, (hs.rebuilt hc).get_eq rfl _ t, ?_⟩
    · rw [eval_of_build hc, List.length_map, List.length_range]
    · rw [(hu.rebuilt hd).get_eq rfl, eval_of_build hc, eval_of_build hd, hterms, hsize,
        hpar]
      refine congrArg _ (List.map_congr_left fun k hk => ?_)
      have hk := List.mem_range.1 hk
      rw [hval, hchords k hk]
      exact (Rule.eval_of_plain (hprepare k hk) hbend (by omega) _ _ t).symm

/-- Five rational points at uneven parameters with values in the plane, which came in two different
orders. -/
theorem tcb_eq_catmullRom_five :
    let z : Bend ℚ := .tcb ⟨0, 0, 0⟩ ⟨0, 0, 0⟩
    let s : Spline ℚ := (((((empty .tcb 0).place 3 [1, 0] z).place 0 [4, 1] z).place 7 [5, 2]
      z).place 1 [2, 7] z).place 5 [0, 1] z
    let u : Spline ℚ := (((((empty .catmullRom 1).place 0 [4, 1] .none).place 1 [2, 7]
      .none).place 7 [5, 2] .none).place 5 [0, 1] .none).place 3 [1, 0] .none
    ∃ c d, s.build = .ok c ∧ u.build = .ok d ∧ c.piece 0 (1 / 2) = d.piece 0 (1 / 2) ∧
      c.piece 3 6 = d.piece 3 6 ∧ ∀ t, ∃ v, v.length = 2 ∧
        get .builtin { s with curve := some c } (.ok t) = .ok v ∧
        get .builtin { u with curve := some d } (.ok t) = .ok v := by
  intro z s u
  have hs : s.Grown := by
    refine .place_pair (.place_pair (.place_pair (.place_pair (.place_pair (.empty .tcb 0) rfl rfl
      (by decide) ?_ _ _) rfl rfl (by decide) ?_ _ _) rfl rfl (by decide) ?_ _ _) rfl rfl
      (by decide) ?_ _ _) rfl rfl (by decide) ?_ _ _
    all_goals decide +kernel
  have hu : u.Grown := by
    refine .place_plain (.place_plain (.place_plain (.place_plain (.place_plain
      (.empty .catmullRom 1) rfl rfl (by decide) ?_) rfl rfl (by decide) ?_) rfl rfl (by decide)
      ?_) rfl rfl (by decide) ?_) rfl rfl (by decide) ?_
    all_goals decide +kernel
  have hsize : s.store.size = 5 := by decide +kernel
  have hterms : s.terms = 2 := by decide +kernel
  have hplain : s.IsPlain := by
    have hall : ∀ a ∈ s.store.contents, a.bend.triple .incoming = ⟨0, 0, 0⟩ ∧
        a.bend.triple .outgoing = ⟨0, 0, 0⟩ := by decide +kernel
    intro a ha side
    cases side with
    | incoming => exact (hall a ha).1
    | outgoing => exact (hall a ha).2
  have hascending : ∀ j < 5, ∀ i < j, s.parameterAt i < s.parameterAt j := by decide +kernel
  obtain ⟨c, d, hc, hd, hpiece, hget⟩ :=
    tcb_eq_catmullRom hs hu rfl rfl rfl rfl (by decide +kernel) (by decide +kernel) hplain
      (by rw [hsize]; decide) fun i j hij hj => hascending j (hsize ▸ hj) i hij
  rw [hterms] at hget
  exact ⟨c, d, hc, hd, hpiece 0 _ (by rw [hsize]; decide), hpiece 3 _ (by rw [hsize]; decide),
    hget .builtin .builtin⟩

end Spline

end CurveKit
