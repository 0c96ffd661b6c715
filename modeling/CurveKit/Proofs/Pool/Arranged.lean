import CurveKit.Proofs.Pool.History
import CurveKit.Proofs.Spline.Arranged

/-!
# What a spline shows of its control points

Whatever calls were made, a live spline shows exactly the control points that it, or the
spline that it was copied from, was handed over and accepted: sorted stably by their
parameters, the extension data in the same order.

Results:
* `keeps_ledger`: calls along a run add accepted control points, and a copy takes them over.
* `represents_after`: what a live spline shows after any calls, and where the next point goes.
-/
namespace CurveKit.Pool

open Spline (Keeps Represents)

theorem keeps_ledger : Ledger Keeps where
  empty := Spline.keeps_empty
  call _ _ _ d h := Spline.keeps_call h d
  congr _ _ _ _ hk hs hg h := h.congr hk hs hg

section Next

variable {cs : List Call} {i : SplineId} {s : Spline Float}

theorem history_spline (hs : (fresh.after cs).splines[i]? = some s) (d : Spline.Call) :
    history (cs ++ [.spline i d]) i =
      history cs i ++ (s.accepted ((fresh.after cs).config s.config) d).toList := by
  rw [history, follow_concat, record, makes_of_some hs]
  simp [Call.adds, hs, history]

theorem insert_after (hs : (fresh.after cs).splines[i]? = some s) {parameter value : Datum}
    {e : Except (Fault Float) (Extension Float)} {a : Answer}
    (h : ((fresh.after cs).call (.spline i (.insert parameter value e))).answer = .ok a) :
    ∃ (x : Insertion) (t : Spline Float), parameter.parameter = .ok x.parameter ∧
      value.vector ((fresh.after cs).config s.config).maxTerms = .ok x.value ∧
      e = .ok x.extension ∧ a = .index (s.store.place x.parameter) ∧
      history (cs ++ [.spline i (.insert parameter value e)]) i = history cs i ++ [x] ∧
      (fresh.after (cs ++ [.spline i (.insert parameter value e)])).splines[i]? = some t ∧
      t.plainPoints = s.plainPoints.insertIdx (s.store.place x.parameter) x.point := by
  replace h : (s.call ((fresh.after cs).config s.config) (.insert parameter value e)).answer =
      .ok a := by
    rw [call_spline _ hs] at h
    exact h
  obtain ⟨e, p, v, b, events, rfl, hp, hv, -, -, -, ha, hst⟩ := Spline.call_insert_ok h
  refine ⟨⟨p, v, e⟩, s.place p v b, hp, hv, rfl, ha, ?_, ?_, Spline.plainPoints_place s p v b⟩
  · have hx : s.accepted ((fresh.after cs).config s.config) (.insert parameter value (.ok e)) =
        some ⟨p, v, e⟩ := by
      simp only [Spline.accepted, hp, hv, h]
    rw [history_spline hs, hx]
    rfl
  · rw [after_append, after_cons, after_nil, call_spline _ hs, hst]
    exact List.getElem?_set_self (List.getElem?_eq_some_iff.1 hs).1

end Next

/-- **Control points.** Take a live spline after any calls, with a valid configuration that nobody
has edited. It shows what it was handed over and accepted, or what the spline that it was copied
from was: all points with finite parameters and values, sorted stably, their extension data in the
same order, and all of one width within the limit. In parts that went through the same calls, every
list has an entry for each point, in that order. A further control point that is accepted goes
behind all points with a parameter that is not greater, and the answer is its place. -/
theorem represents_after {cs : List Call} {i : SplineId} {s : Spline Float} {settings : Settings}
    (hs : (fresh.after cs).splines[i]? = some s) (ha : s.destroyed = false)
    (he : edited cs i = false)
    (hv : (((fresh.after cs).config s.config).settings : Except (Fault Float) Settings) =
      .ok settings) :
    Represents settings (history cs i) s ∧
      (∃ p : Parts Float, p.InStep s) ∧
      (∀ p : Parts Float, p.InStep s → p.Represents (history cs i)) ∧
      ∀ parameter value e a,
        ((fresh.after cs).call (.spline i (.insert parameter value e))).answer = .ok a →
        ∃ (x : Insertion) (n : Nat) (t : Spline Float), parameter.parameter = .ok x.parameter ∧
          value.vector ((fresh.after cs).config s.config).maxTerms = .ok x.value ∧
          e = .ok x.extension ∧ a = .index n ∧
          n = (history cs i).countP (fun y => decide (y.parameter ≤ x.parameter)) ∧
          history (cs ++ [.spline i (.insert parameter value e)]) i = history cs i ++ [x] ∧
          (fresh.after (cs ++ [.spline i (.insert parameter value e)])).splines[i]? = some t ∧
          t.plainPoints = s.plainPoints.insertIdx n x.point ∧
          t.plainPoints[n]? = some x.point := by
  have hkeeps : Keeps ((fresh.after cs).config s.config) (history cs i) s :=
    noted_after keeps_ledger cs i s hs ha he
  have hcoh : s.Coherent := invariant_after Spline.coherent_invariant cs i s hs
  refine ⟨hkeeps.represents hcoh hv, invariant_after Parts.inStep_invariant cs i s hs,
    fun p hp => hkeeps.parts hp.fits, fun parameter value e a h => ?_⟩
  obtain ⟨x, t, hp, hval, hext, hanswer, hhist, ht, hpoints⟩ := insert_after hs h
  refine ⟨x, _, t, hp, hval, hext, hanswer, hkeeps.place_eq (Datum.isFinite_of_parameter hp),
    hhist, ht, hpoints, ?_⟩
  have hle : s.store.place x.parameter ≤ s.plainPoints.length := by
    rw [Spline.plainPoints, List.length_map]
    exact s.store.place_le_size x.parameter
  rw [hpoints, List.getElem?_insertIdx_self, if_pos hle]

/-- A copy of a general X-spline that was handed over three points out of order, two of them at
zeros of different signs, one with a shape out of range, and refused a fourth. A point at zero goes
behind the other two. -/
theorem represents_after_copy :
    let point (i : SplineId) (p : Datum) (v shape : Float) : Call :=
      .spline i (.insert p (.list [.float v]) (.ok (.shape shape)))
    let cs : List Call := [.create .generalX none, point 0 (.float 1.0) 3.0 2.5,
      point 0 (.float 0.0) 1.0 0.25, point 0 (.str "x") 4.0 0.0, point 0 (.float (-0.0)) 2.0 0.5,
      .copy 0]
    let c : Call := point 1 (.float 0.0) 5.0 0.0
    ∃ (s : Spline Float) (settings : Settings) (x : Insertion) (t : Spline Float),
      (fresh.after cs).splines[1]? = some s ∧
      Represents settings (history cs 1) s ∧
      s.store.entries.map (fun e => (e.content.value, e.content.bend.freedom)) =
        [([1.0], 0.25), ([2.0], 0.5), ([3.0], 1.0)] ∧
      history (cs ++ [c]) 1 = history cs 1 ++ [x] ∧
      (fresh.after (cs ++ [c])).splines[1]? = some t ∧
      t.plainPoints = s.plainPoints.insertIdx
        ((history cs 1).countP fun y => decide (y.parameter ≤ x.parameter)) x.point := by
  intro point cs c
  obtain ⟨s, hs⟩ : ∃ s, (fresh.after cs).splines[1]? = some s :=
    Option.isSome_iff_exists.1 (by decide +kernel)
  have fs : (fresh.after cs).splines[1]?.map (fun s => (s.destroyed, s.config,
      s.store.entries.map fun e => (e.content.value, e.content.bend.freedom))) =
      some (false, 1, [([1.0], 0.25), ([2.0], 0.5), ([3.0], 1.0)]) := by decide +kernel
  simp only [hs, Option.map_some, Option.some.injEq, Prod.mk.injEq] at fs
  obtain ⟨settings, hv⟩ : ∃ settings, (((fresh.after cs).config s.config).settings :
      Except (Fault Float) Settings) = .ok settings := by
    rw [fs.2.1]
    exact exists_ok_of_isOk (by decide +kernel)
  obtain ⟨hrep, -, -, hnext⟩ := represents_after hs fs.1 (edited_eq_false (by decide) 1) hv
  obtain ⟨a, ha⟩ : ∃ a, ((fresh.after cs).call c).answer = .ok a :=
    exists_ok_of_isOk (by decide +kernel)
  obtain ⟨x, n, t, -, -, -, -, rfl, hhist, ht, hpoints, -⟩ := hnext _ _ _ a ha
  exact ⟨s, settings, x, t, hs, hrep, fs.2.2, hhist, ht, hpoints⟩

end CurveKit.Pool
