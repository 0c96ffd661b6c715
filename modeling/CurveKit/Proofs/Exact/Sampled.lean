import CurveKit.Proofs.Exact.Piece
import CurveKit.Proofs.Pool.Batches
import Mathlib.Tactic.Linarith

/-!
# Samples of a curve

Samples are taken at evenly spaced parameters, from some way before the first control point to as
far behind the last one; the way is a multiple of the distance between the two. In exact
arithmetic the parameters are as many as were asked for, they ascend in equal steps, and the
first and the last one are the ends exactly. Every row is the curve at its parameter. Over doubles
the rows are those of single evaluations, as they are for any batch.

Results:
* `spread_spaced`: the parameters.
* `Spline.domain_of_build`: where a curve begins and ends.
* `Spline.Grown.isSampled`: samples of a spline that can be evaluated.
* `batches_correct`: batches over doubles, and samples in exact arithmetic.
-/
namespace CurveKit

open scoped Exact

section Spaced

variable {K : Type} [Field K] [LinearOrder K]

/-- As many parameters as `n`, in equal steps from `start` to `stop`. -/
structure Spread (n : Nat) (start stop : K) (l : List K) : Prop where
  length : l.length = n
  entry : ∀ j < n, l[j]? = some (start + j * ((stop - start) / (n - 1)))
  first : l.head? = some start
  last : l.getLast? = some stop
  ascending : l.Pairwise (· < ·)

variable [IsStrictOrderedRing K] {n : Nat} {start stop : K}

theorem Spline.spacedEntry_eq (hn : 2 ≤ n) (h : start < stop) (j : Nat) :
    spacedEntry n start stop j = start + j * ((stop - start) / (n - 1)) := by
  have hcount : (0 : K) < n - 1 := sub_pos.2 (Nat.one_lt_cast.2 hn)
  have hstep : (stop - start) / (n - 1) ≠ 0 := (div_pos (sub_pos.2 h) hcount).ne'
  have hcast : (Scalar.ofNat (n - 1) : K) = n - 1 := Nat.cast_pred (by omega)
  simp only [spacedEntry, hcast]
  rw [if_neg (by simpa using hstep)]
  exact add_comm _ _

/-- The parameters of samples are evenly spaced. -/
theorem spread_spaced (hn : 2 ≤ n) (h : start < stop) :
    Spread n start stop (Spline.spaced n start stop) := by
  have hcount : (0 : K) < n - 1 := sub_pos.2 (Nat.one_lt_cast.2 hn)
  have hstep : 0 < (stop - start) / (n - 1) := div_pos (sub_pos.2 h) hcount
  have hlength := Spline.length_spaced (show 1 ≤ n by omega) start stop
  have hentry (j : Nat) (hj : j < n) : (Spline.spaced n start stop)[j]? =
      some (start + j * ((stop - start) / (n - 1))) := by
    rcases Nat.lt_or_eq_of_le (Nat.le_sub_one_of_lt hj) with hlt | rfl
    · rw [Spline.spaced, List.getElem?_append_left (by simpa using hlt), List.getElem?_map,
        List.getElem?_range hlt, Option.map_some, Spline.spacedEntry_eq hn h]
    · rw [Spline.spaced, List.getElem?_append_right (by simp), Nat.cast_pred (by omega),
        mul_div_cancel₀ _ hcount.ne', add_sub_cancel]
      simp
  constructor
  · exact hlength
  · exact hentry
  · rw [List.head?_eq_getElem?, hentry 0 (by omega), Nat.cast_zero, zero_mul, add_zero]
  · simp [Spline.spaced]
  · refine List.pairwise_iff_getElem.2 fun i j hi hj hij => ?_
    have hi' := hentry i (hlength ▸ hi)
    have hj' := hentry j (hlength ▸ hj)
    rw [List.getElem?_eq_getElem hi, Option.some.injEq] at hi'
    rw [List.getElem?_eq_getElem hj, Option.some.injEq] at hj'
    rw [hi', hj']
    gcongr

end Spaced

section Samples

variable {K : Type} [Field K] [LinearOrder K] {s : Spline K} {c : Curve K}

namespace Spline

/-- A curve begins at the first control point and ends at the last one. -/
theorem domain_of_build (hb : s.build = .ok c) :
    s.domain = .ok (s.parameterAt 0, s.parameterAt (s.store.size - 1)) ∧
      s.parameterAt 0 < s.parameterAt (s.store.size - 1) := by
  obtain ⟨hx, hmin⟩ := points_of_build hb
  have hn : 2 ≤ s.store.size := le_trans (by have := s.kind.guides_le; omega) hmin
  refine ⟨?_, hx 0 _ (by omega) (by omega)⟩
  have hentry (i : Nat) (hi : i < s.store.size) :
      s.store.parameters[i]? = some (s.parameterAt i) := by
    rw [← Store.length_parameters] at hi
    simp [parameterAt, nth, List.getElem?_eq_getElem hi]
  rw [domain, ends, List.head?_eq_getElem?, List.getLast?_eq_getElem?, Store.length_parameters,
    hentry 0 (by omega), hentry _ (by omega)]

/-- Samples of a curve: evenly spaced parameters, and the curve at each of them. -/
structure IsSampled (s : Spline K) (config : Config) (c : Curve K) (n : Nat) (start stop : K)
    (r : Samples K) : Prop where
  parameters : Spread n start stop r.parameters
  columns : r.values.columns = s.terms
  height : r.values.rows.length = n
  rows : ∀ (j : Nat) t, r.parameters[j]? = some t →
    r.values.rows[j]? = some (c.eval (config.isOn .extrapolate) t) ∧
      (s.evaluate config (.ok t)).answer = .ok (c.eval (config.isOn .extrapolate) t, s.terms)

variable [IsStrictOrderedRing K] {config : Config}

/-- A spline that can be evaluated can be sampled. -/
theorem Grown.isSampled (h : s.Grown) {parameter : Reading K} {v : List K × Nat}
    (hv : (s.evaluate config parameter).answer = .ok v) {n : Nat} (hn : 2 ≤ n) {margin : K}
    (hm : -1 / 2 < margin) : ∃ c first last r, s.build = .ok c ∧ s.domain = .ok (first, last) ∧
      (s.sample config (.ok n) (.ok margin)).answer = .ok r ∧
      s.IsSampled config c n (first - margin * (last - first)) (last + margin * (last - first))
        r := by
  obtain ⟨c, hb, hread⟩ := h.coherent.evaluate_eq_read hv
  have heval (t : K) : (s.evaluate config (.ok t)).answer =
      .ok (c.eval (config.isOn .extrapolate) t, s.terms) := by
    rw [hread, read_of_isNumeric h.legible.isNumeric]
    rfl
  obtain ⟨hdomain, hlt⟩ := domain_of_build hb
  generalize s.parameterAt 0 = first at hdomain hlt
  generalize s.parameterAt (s.store.size - 1) = last at hdomain hlt
  have hends : first - margin * (last - first) < last + margin * (last - first) := by
    have hway : 0 < (1 + 2 * margin) * (last - first) :=
      mul_pos (by linarith) (sub_pos.2 hlt)
    linarith
  generalize hstart : first - margin * (last - first) = start at hends
  generalize hstop : last + margin * (last - first) = stop at hends
  have hspaced := spread_spaced hn hends
  obtain ⟨rows, hrows⟩ :
      ∃ rows, (s.evaluateAll config (spaced n start stop)).answer = .ok rows := by
    rw [answer_evaluateAll]
    exact exists_mapM fun t _ => ⟨_, map_eq_ok.2 ⟨_, heval t, rfl⟩⟩
  obtain ⟨hheight, hrow⟩ := h.coherent.evaluateAll_eq_ok.1 hrows
  refine ⟨c, first, last, ⟨spaced n start stop, ⟨s.terms, rows⟩⟩, hb, hdomain, ?_, ?_⟩
  · have hsample : (s.sample config (.ok n) (.ok margin)).answer =
        (s.sampleBetween config n start stop).answer := by
      rw [← hstart, ← hstop, mul_comm margin]
      simp only [sample, hdomain]
      rfl
    rw [hsample, sampleBetween_eq config s hn]
    simp only [Run.map, evaluateGrid, hrows, Except.map]
  · rw [hstart, hstop]
    refine ⟨hspaced, rfl, hheight.trans hspaced.length, fun j t ht => ?_⟩
    obtain ⟨row, hat, -, hanswer⟩ := hrow j t ht
    have hvalue : (s.evaluate config (.ofScalar parameterName t)).answer = _ := heval t
    rw [hvalue] at hanswer
    cases hanswer
    exact ⟨hat, hvalue⟩

end Spline

end Samples

/-- **Batches.** Take any spline after any calls, and any flat list of doubles. Evaluating at all of
them at once answers a table if and only if evaluating at one after the other succeeds for each;
row `j` is then what evaluation `j` answers. Otherwise it fails as the first evaluation that does.
The pool afterwards is that of the evaluations one by one. In exact arithmetic, samples of a spline
that can be evaluated are as many evenly spaced parameters as were asked for, two at least, from
the margin before the first control point to the margin behind the last one, and the curve at each
of them. -/
theorem batches_correct :
    (∀ (cs : List Pool.Call) (i : SplineId) (s : Spline Float) (ts : List Float),
      (Pool.fresh.after cs).splines[i]? = some s →
      (Pool.fresh.after cs).OneByOne i s.terms ts
        ((Pool.fresh.after cs).call (.spline i (.range (.list (ts.map .float)))))) ∧
    ∀ (K : Type) [Field K] [LinearOrder K] [IsStrictOrderedRing K] (s : Spline K)
      (config : Config) (parameter : Reading K) (v : List K × Nat), s.Grown →
      (s.evaluate config parameter).answer = .ok v →
      ∀ (n : Nat) (margin : K), 2 ≤ n → -1 / 2 < margin →
      ∃ c first last r, s.build = .ok c ∧ s.domain = .ok (first, last) ∧
        (s.sample config (.ok n) (.ok margin)).answer = .ok r ∧
        s.IsSampled config c n (first - margin * (last - first))
          (last + margin * (last - first)) r := by
  constructor
  · intro cs i s ts hs
    exact Pool.oneByOne hs (Pool.invariant_after Spline.coherent_invariant cs i s hs)
      (Datum.parameters_of_floats ts)
  · intro K _ _ _ s config parameter v hs hv n margin hn hm
    exact hs.isSampled hv hn hm

/-- A line that is still to be finalized, asked for three parameters, and for three of which the
second one is none. The same line over the rationals, sampled at three parameters with half of its
length on both sides. -/
theorem batches_correct_line :
    let cs : List Pool.Call := [.create .linear none,
      .spline 0 (.insert (.float 2.0) (.float 5.0) (.ok .nothing)),
      .spline 0 (.insert (.float 0.0) (.float 1.0) (.ok .nothing))]
    let p : Pool Float := Pool.fresh.after cs
    let batch (ts : List Float) : Run Float (Pool Float) Answer :=
      p.call (.spline 0 (.range (.list (ts.map .float))))
    let s : Spline ℚ := ((Spline.empty .linear 0).place 2 [5] .none).place 0 [1] .none
    (∃ rows, (batch [0.0, 1.0, 0.5]).answer = .ok (.grid ⟨1, rows⟩) ∧
      ∃ row, rows[2]? = some row ∧
        p.answerBehind 0 [0.0, 1.0] 0.5 = .ok (.evaluation row 1)) ∧
    (∃ f, (batch [1.0, 0.0 / 0.0, 0.5]).answer = .error f ∧
      p.answerBehind 0 [1.0] (0.0 / 0.0) = .error f) ∧
    (batch [1.0, 0.0 / 0.0, 0.5]).state = p.after (Pool.evaluations 0 [1.0]) ∧
    ∃ r, (s.sample .builtin (.ok 3) (.ok (1 / 2))).answer = .ok r ∧ r.parameters = [-1, 1, 3] := by
  intro cs p batch s
  obtain ⟨t, ht⟩ : ∃ t, p.splines[0]? = some t := Option.isSome_iff_exists.1 (by decide +kernel)
  have hterms : p.splines[0]?.map (·.terms) = some 1 := by decide +kernel
  rw [ht, Option.map_some, Option.some.injEq] at hterms
  have hgood := batches_correct.1 cs 0 t [0.0, 1.0, 0.5] ht
  have hbad := batches_correct.1 cs 0 t [1.0, 0.0 / 0.0, 0.5] ht
  rw [hterms] at hgood hbad
  obtain ⟨a, ha⟩ : ∃ a, (batch [0.0, 1.0, 0.5]).answer = .ok a :=
    exists_ok_of_isOk (by decide +kernel)
  obtain ⟨rows, rfl, -, hrow⟩ := (hgood.table a).1 ha
  obtain ⟨row, hat, -, hanswer⟩ := hrow 2 0.5 rfl
  refine ⟨⟨rows, ha, row, hat, hanswer⟩, ?_, hbad.early 0 (by decide), ?_⟩
  · have hrefused : (p.answerBehind 0 [1.0] (0.0 / 0.0)).isOk = false := by decide +kernel
    cases hf : p.answerBehind 0 [1.0] (0.0 / 0.0) with
    | ok a => rw [hf] at hrefused; cases hrefused
    | error f =>
      refine ⟨f, (hbad.fault f).2 ⟨1, _, rfl, hf, fun k hk u hu => ?_⟩, rfl⟩
      obtain rfl : k = 0 := by omega
      cases hu
      exact exists_ok_of_isOk (by decide +kernel)
  · have hs : s.Grown := by
      refine .place_plain (.place_plain (.empty .linear 0) rfl rfl (by decide) ?_) rfl rfl
        (by decide) ?_
      all_goals decide +kernel
    obtain ⟨v, hv⟩ : ∃ v, (s.evaluate .builtin (.ok 1)).answer = .ok v :=
      exists_ok_of_isOk (by decide +kernel)
    obtain ⟨c, first, last, r, -, hdomain, hr, hsampled⟩ :=
      batches_correct.2 ℚ s .builtin _ v hs hv 3 (1 / 2) (by decide) (by norm_num)
    have hparameters : s.store.parameters = [0, 2] := by decide +kernel
    rw [Spline.domain, hparameters, Spline.ends] at hdomain
    obtain ⟨rfl, rfl⟩ : 0 = first ∧ 2 = last := by simpa using hdomain
    obtain ⟨hlength, hentry, -⟩ := hsampled.parameters
    obtain ⟨x, y, z, hxyz⟩ := List.length_eq_three.1 hlength
    have hx := hentry 0 (by decide)
    have hy := hentry 1 (by decide)
    have hz := hentry 2 (by decide)
    rw [hxyz] at hx hy hz
    norm_num at hx hy hz
    exact ⟨r, hr, by rw [hxyz, hx, hy, hz]⟩

end CurveKit
