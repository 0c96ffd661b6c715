import CurveKit.Proofs.Pool.Coherent
import CurveKit.Proofs.Spline.Batches

/-!
# Batches of evaluations and single ones

A caller asks a spline for its values at a list of parameters in one call, or in one call for each
parameter. The first evaluation may finalize the spline; those behind it change nothing. Row by
row the batch answers what the single calls answer, it fails where the first of them fails, and
the pool afterwards is the same.

Results:
* `parameters_of_floats`: a flat list of doubles is read as it is.
* `after_evaluations`: what one or more evaluations leave.
* `answerBehind_eq`: an evaluation answers the same behind others.
* `oneByOne`: all parameters at once, and one after the other.
-/
namespace CurveKit

/-- A flat list of doubles is read as it is. -/
theorem Datum.parameters_of_floats (ts : List Float) :
    parameters (.list (ts.map .float)) = .ok ts := by
  have hscalars : ∀ d ∈ ts.map float, d.elements? = none := by
    intro d hd
    obtain ⟨t, -, rfl⟩ := List.mem_map.1 hd
    rfl
  have hread : List.Forall₂ (fun d x => d.elementToFloat = .ok x) (ts.map float) ts :=
    List.forall₂_map_left_iff.2 (List.forall₂_same.2 fun _ _ => rfl)
  have htable : toTable (.list (ts.map float)) = .ok ⟨[(ts.map float).length], ts⟩ := by
    refine toTable_eq_ok.2 ⟨_, .nested rfl (fun d hd => .scalar (hscalars d hd)) fun _ => rfl,
      by simp [maxDimensions], ?_, rfl⟩
    rwa [scalars, scalarsOf_of_scalars hscalars]
  rw [parameters, htable]
  rfl

namespace Pool

/-- The calls that evaluate a spline at parameters, one after the other. -/
def evaluations (i : SplineId) (ts : List Float) : List Call :=
  ts.map fun t => .spline i (.evaluate (.float t))

/-- What evaluating at a parameter answers behind evaluations at others. -/
def answerBehind (p : Pool Float) (i : SplineId) (before : List Float) (t : Float) :
    Except (Fault Float) Answer :=
  ((p.after (evaluations i before)).call (.spline i (.evaluate (.float t)))).answer

/-- A call that evaluates at all parameters does what evaluating at one after the other does: it
answers a table if all of them have answers, and otherwise the first fault. The pool afterwards is
the one behind all evaluations, and behind the first one already. -/
structure OneByOne (p : Pool Float) (i : SplineId) (terms : Nat) (ts : List Float)
    (r : Run Float (Pool Float) Answer) : Prop where
  table : ∀ a, r.answer = .ok a ↔ ∃ rows : List (List Float), a = .grid ⟨terms, rows⟩ ∧
    rows.length = ts.length ∧ ∀ (j : Nat) t, ts[j]? = some t →
      ∃ row, rows[j]? = some row ∧ row.length = terms ∧
        p.answerBehind i (ts.take j) t = .ok (.evaluation row terms)
  fault : ∀ f, r.answer = .error f ↔ ∃ (j : Nat) (t : Float), ts[j]? = some t ∧
    p.answerBehind i (ts.take j) t = .error f ∧ ∀ k < j, ∀ u, ts[k]? = some u →
      ∃ a, p.answerBehind i (ts.take k) u = .ok a
  state : r.state = p.after (evaluations i ts)
  early : ∀ j < ts.length, r.state = p.after (evaluations i (ts.take (j + 1)))

section Steps

variable {p : Pool Float} {i : SplineId} {s : Spline Float} {t : Float}

/-- The pool in which a spline is refreshed. -/
def refreshed (p : Pool Float) (i : SplineId) (s : Spline Float) : Pool Float :=
  { p with splines := p.splines.set i (s.refresh (p.config s.config)).state }

theorem state_evaluate (hs : p.splines[i]? = some s) (query : Datum) :
    (p.call (.spline i (.evaluate query))).state = p.refreshed i s := by
  rw [call_spline p hs, refreshed]
  simp only [Spline.call, Run.state_map, Spline.state_evaluate]

theorem splines_refreshed (hs : p.splines[i]? = some s) :
    (p.refreshed i s).splines[i]? = some (s.refresh (p.config s.config)).state :=
  List.getElem?_set_self (List.getElem?_eq_some_iff.1 hs).1

theorem config_refreshed (p : Pool Float) (i : SplineId) (s : Spline Float) :
    (p.refreshed i s).config (s.refresh (p.config s.config)).state.config =
      p.config s.config := by
  have hchange : Spline.Change (p.config s.config) s (s.refresh (p.config s.config)).state :=
    .recurved (Spline.recurved_refresh (p.config s.config) s)
  rw [hchange.same.2.1]
  rfl

/-- A refreshed spline cannot be refreshed any further. -/
theorem refreshed_refreshed (p : Pool Float) (i : SplineId) (s : Spline Float) :
    (p.refreshed i s).refreshed i (s.refresh (p.config s.config)).state = p.refreshed i s := by
  rw [refreshed, config_refreshed, Spline.refresh_refresh, refreshed, List.set_set]

theorem answer_evaluate_float (hs : p.splines[i]? = some s) (t : Float) :
    (p.call (.spline i (.evaluate (.float t)))).answer =
      (s.evaluate (p.config s.config) (.ofScalar parameterName t)).answer.map
        fun v => .evaluation v.1 v.2 := by
  rw [call_spline p hs]
  rfl

/-- One or more evaluations leave the pool in which the spline is refreshed. -/
theorem after_evaluations (hs : p.splines[i]? = some s) (t : Float) (ts : List Float) :
    p.after (evaluations i (t :: ts)) = p.refreshed i s := by
  induction ts generalizing p s t with
  | nil => exact state_evaluate hs _
  | cons u ts ih =>
    have hrest := ih (splines_refreshed hs) u
    rw [← state_evaluate hs (.float t)] at hrest
    refine hrest.trans ?_
    rw [state_evaluate hs, refreshed_refreshed]

/-- An evaluation answers the same behind others. -/
theorem answerBehind_eq (hs : p.splines[i]? = some s) (before : List Float) (t : Float) :
    p.answerBehind i before t =
      (s.evaluate (p.config s.config) (.ofScalar parameterName t)).answer.map
        fun v => .evaluation v.1 v.2 := by
  cases before with
  | nil => exact answer_evaluate_float hs t
  | cons u before =>
    rw [answerBehind, after_evaluations hs, answer_evaluate_float (splines_refreshed hs),
      config_refreshed, Spline.answer_evaluate_refresh]

theorem answerBehind_eq_evaluation (hs : p.splines[i]? = some s) (before : List Float) (t : Float)
    (row : List Float) (n : Nat) : p.answerBehind i before t = .ok (.evaluation row n) ↔
      (s.evaluate (p.config s.config) (.ofScalar parameterName t)).answer = .ok (row, n) := by
  rw [answerBehind_eq hs, map_eq_ok]
  constructor
  · rintro ⟨⟨v, m⟩, hv, he⟩
    cases he
    exact hv
  · intro hv
    exact ⟨_, hv, rfl⟩

theorem answer_range (hs : p.splines[i]? = some s) {d : Datum} {ts : List Float}
    (hd : d.parameters = .ok ts) : (p.call (.spline i (.range d))).answer =
      (s.evaluateAll (p.config s.config) ts).answer.map fun rows => .grid ⟨s.terms, rows⟩ := by
  rw [call_spline p hs, Spline.call, Spline.evaluateRange, hd]
  cases h : (s.evaluateAll (p.config s.config) ts).answer <;>
    simp [Spline.evaluateGrid, Run.map, h, Except.map]

theorem state_range_nil (hs : p.splines[i]? = some s) {d : Datum} (hd : d.parameters = .ok []) :
    (p.call (.spline i (.range d))).state = p := by
  rw [call_spline p hs, Spline.call, Spline.evaluateRange, hd]
  exact congrArg (fun l => { p with splines := l }) (set_self hs)

/-- A batch with some parameter leaves the pool in which the spline is refreshed. -/
theorem state_range_cons (hs : p.splines[i]? = some s) {d : Datum} {t : Float} {ts : List Float}
    (hd : d.parameters = .ok (t :: ts)) :
    (p.call (.spline i (.range d))).state = p.refreshed i s := by
  rw [call_spline p hs, Spline.call, Spline.evaluateRange, hd]
  simp only [Spline.evaluateGrid, Run.state_map, Spline.state_evaluateAll_cons, refreshed]

/-- A batch of evaluations does what the evaluations do one by one. -/
theorem oneByOne (hs : p.splines[i]? = some s) (h : s.Coherent) {d : Datum} {ts : List Float}
    (hd : d.parameters = .ok ts) : p.OneByOne i s.terms ts (p.call (.spline i (.range d))) := by
  constructor
  · intro a
    simp only [answer_range hs hd, map_eq_ok, h.evaluateAll_eq_ok, answerBehind_eq_evaluation hs]
    constructor
    · rintro ⟨rows, hrows, rfl⟩
      exact ⟨rows, rfl, hrows⟩
    · rintro ⟨rows, rfl, hrows⟩
      exact ⟨rows, hrows, rfl⟩
  · intro f
    simp only [answer_range hs hd, map_eq_error, Spline.evaluateAll_eq_error, answerBehind_eq hs,
      map_eq_ok]
    refine exists₂_congr fun j t => and_congr_right fun _ => and_congr_right fun _ =>
      forall₄_congr fun k _ u _ => ?_
    constructor
    · rintro ⟨v, hv⟩
      exact ⟨_, v, hv, rfl⟩
    · rintro ⟨-, v, hv, -⟩
      exact ⟨v, hv⟩
  · cases ts with
    | nil => exact state_range_nil hs hd
    | cons t ts => rw [state_range_cons hs hd, after_evaluations hs]
  · intro j hj
    cases ts with
    | nil => cases hj
    | cons t ts => rw [state_range_cons hs hd, List.take_succ_cons, after_evaluations hs]

end Steps

end Pool

end CurveKit
