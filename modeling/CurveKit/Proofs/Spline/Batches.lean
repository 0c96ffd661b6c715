import CurveKit.Proofs.Datum.Arrays
import CurveKit.Proofs.Spline.Checks

/-!
# Evaluating at several parameters

A batch of evaluations finalizes the spline at most once, in its first evaluation. All others find
what that one left, and none of them can tell whether it was made before or just now. So
each row is what the same spline answers to the parameter of that row alone, and the first
parameter without an answer decides the fault of the batch.

Results:
* `answer_evaluate_refresh`, `answer_sample_refresh`: a spline answers alike before and after it is
  refreshed.
* `answer_evaluateAll`: a batch asks for each parameter on its own.
* `Coherent.evaluate_eq_read`: a spline that can be evaluated at one parameter can be at all.
* `Coherent.evaluateAll_eq_ok`, `evaluateAll_eq_error`: row by row, and the first fault.
-/
namespace CurveKit

section Items

variable {ε α β : Type} {f : α → Except ε β} {l : List α} {m : List β} {e : ε}

theorem mapM_eq_ok_getElem : l.mapM f = .ok m ↔
    m.length = l.length ∧ ∀ (j : Nat) a, l[j]? = some a → ∃ b, m[j]? = some b ∧ f a = .ok b := by
  rw [mapM_eq_ok, List.forall₂_iff_get]
  constructor
  · rintro ⟨hlen, hall⟩
    refine ⟨hlen.symm, fun j a ha => ?_⟩
    obtain ⟨hj, rfl⟩ := List.getElem?_eq_some_iff.1 ha
    exact ⟨_, List.getElem?_eq_getElem (hlen ▸ hj), hall j hj (hlen ▸ hj)⟩
  · rintro ⟨hlen, hall⟩
    refine ⟨hlen.symm, fun j hj hj' => ?_⟩
    obtain ⟨b, hb, hanswer⟩ := hall j _ (List.getElem?_eq_getElem hj)
    rw [List.getElem?_eq_getElem hj'] at hb
    cases hb
    exact hanswer

theorem mapM_eq_error_getElem : l.mapM f = .error e ↔ ∃ (j : Nat) (a : α), l[j]? = some a ∧
    f a = .error e ∧ ∀ k < j, ∀ b, l[k]? = some b → ∃ c, f b = .ok c := by
  rw [mapM_eq_error]
  constructor
  · rintro ⟨before, a, after, rfl, hbefore, ha⟩
    refine ⟨before.length, a, by simp, ha, fun k hk b hb => ?_⟩
    rw [List.getElem?_append_left hk] at hb
    exact hbefore b (List.mem_of_getElem? hb)
  · rintro ⟨j, a, ha, hf, hbefore⟩
    obtain ⟨hj, rfl⟩ := List.getElem?_eq_some_iff.1 ha
    refine ⟨l.take j, l[j], l.drop (j + 1), by simp, fun b hb => ?_, hf⟩
    obtain ⟨k, hk⟩ := List.getElem?_of_mem hb
    obtain ⟨hlt, rfl⟩ := List.getElem?_eq_some_iff.1 hk
    rw [List.length_take] at hlt
    rw [List.getElem_take]
    exact hbefore k (by omega) _ (List.getElem?_eq_getElem (by omega))

end Items

namespace Spline

variable {K : Type} [Scalar K] {config : Config} {s : Spline K}

/-! ## Before and after a refresh -/

/-- Evaluating cannot tell whether the spline has been refreshed. -/
theorem answer_evaluate_refresh (config : Config) (s : Spline K) (parameter : Reading K) :
    ((s.refresh config).state.evaluate config parameter).answer =
      (s.evaluate config parameter).answer := by
  by_cases hfresh : s.isFinalized = true ∨ config.isOn .lazyFinalize = false
  · rw [refresh_of_fresh hfresh]
    rfl
  · simp only [not_or, Bool.not_eq_true, Bool.not_eq_false] at hfresh
    obtain ⟨hf, hl⟩ := hfresh
    cases hb : s.build with
    | error f => rw [refresh_of_stale hf hl, finalize_of_error hb, Run.state_fail]
    | ok c =>
      rw [refresh_of_stale hf hl, finalize_of_build hb, evaluate_of_build hf hl hb,
        evaluate_eq_get (.inl rfl)]
      rfl

/-- A batch asks the spline for each parameter on its own. -/
theorem answer_evaluateAll (config : Config) (s : Spline K) (ts : List K) :
    (s.evaluateAll config ts).answer =
      ts.mapM fun t => (s.evaluate config (.ofScalar parameterName t)).answer.map Prod.fst := by
  induction ts generalizing s with
  | nil => rfl
  | cons t ts ih =>
    rw [evaluateAll_cons, List.mapM_cons]
    cases ht : (s.evaluate config (.ofScalar parameterName t)).answer with
    | error f => rw [Run.andThen_error ht]; rfl
    | ok v =>
      rw [Run.andThen_ok ht, Run.map, ih, state_evaluate]
      simp only [answer_evaluate_refresh]
      rfl

theorem answer_evaluateAll_refresh (config : Config) (s : Spline K) (ts : List K) :
    ((s.refresh config).state.evaluateAll config ts).answer = (s.evaluateAll config ts).answer := by
  simp only [answer_evaluateAll, answer_evaluate_refresh]

theorem store_refresh (config : Config) (s : Spline K) :
    (s.refresh config).state.store = s.store ∧ (s.refresh config).state.kind = s.kind := by
  rcases state_refresh config s with h | ⟨c, -, h⟩ <;> rw [h] <;> exact ⟨rfl, rfl⟩

theorem terms_refresh (config : Config) (s : Spline K) :
    (s.refresh config).state.terms = s.terms := by
  rw [terms, (store_refresh config s).1, terms]

theorem answer_sample_refresh (config : Config) (s : Spline K) (samples : Except (Fault K) Nat)
    (margin : Reading K) : ((s.refresh config).state.sample config samples margin).answer =
      (s.sample config samples margin).answer := by
  have hbetween (n : Nat) (start stop : K) :
      ((s.refresh config).state.sampleBetween config n start stop).answer =
        (s.sampleBetween config n start stop).answer := by
    unfold sampleBetween
    dsimp only
    rw [answer_evaluate_refresh]
    split
    · rfl
    · simp only [evaluateGrid, Run.map, answer_evaluateAll_refresh, terms_refresh]
  have hdomain : (s.refresh config).state.domain = s.domain := by
    rw [domain, (store_refresh config s).1, (store_refresh config s).2, domain]
  unfold sample
  dsimp only
  rw [hdomain]
  split
  · rfl
  · exact hbetween _ _ _

/-! ## Rows -/

/-- What is evaluated has the width of the spline. -/
theorem Coherent.length_of_evaluate (h : s.Coherent) {parameter : Reading K} {v : List K} {n : Nat}
    (hv : (s.evaluate config parameter).answer = .ok (v, n)) :
    v.length = s.terms ∧ n = s.terms := by
  by_cases hfresh : s.isFinalized = true ∨ config.isOn .lazyFinalize = false
  · rw [evaluate_eq_get hfresh] at hv
    obtain ⟨w, hw, he⟩ := map_eq_ok.1 hv
    cases he
    exact ⟨h.length_of_get hw, rfl⟩
  · simp only [not_or, Bool.not_eq_true, Bool.not_eq_false] at hfresh
    obtain ⟨hf, hl⟩ := hfresh
    cases hb : s.build with
    | error f =>
      rw [evaluate_of_error hf hl hb] at hv
      cases hv
    | ok c =>
      rw [evaluate_of_build hf hl hb] at hv
      obtain ⟨w, hw, he⟩ := map_eq_ok.1 hv
      cases he
      exact ⟨(h.rebuilt hb).length_of_get hw, rfl⟩

/-- A spline that can be evaluated has a curve, or gets it, and is read from it. -/
theorem Coherent.evaluate_eq_read (h : s.Coherent) {parameter : Reading K} {v : List K × Nat}
    (hv : (s.evaluate config parameter).answer = .ok v) : ∃ c, s.build = .ok c ∧ ∀ t,
      (s.evaluate config (.ok t)).answer = (s.read config c t).map fun v => (v, s.terms) := by
  by_cases hfresh : s.isFinalized = true ∨ config.isOn .lazyFinalize = false
  · simp only [evaluate_eq_get hfresh, Run.ask] at hv ⊢
    obtain ⟨w, hw, -⟩ := map_eq_ok.1 hv
    rw [get_eq_checkFull] at hw
    obtain ⟨⟨⟩, -, hw⟩ := bind_eq_ok.1 hw
    obtain ⟨t, -, hw⟩ := bind_eq_ok.1 hw
    cases hc : s.curve with
    | none => rw [hc] at hw; cases hw
    | some c => exact ⟨c, h.curve c hc, fun t => by rw [h.get_eq hc]⟩
  · simp only [not_or, Bool.not_eq_true, Bool.not_eq_false] at hfresh
    obtain ⟨hf, hl⟩ := hfresh
    cases hb : s.build with
    | error f =>
      rw [evaluate_of_error hf hl hb] at hv
      cases hv
    | ok c =>
      refine ⟨c, rfl, fun t => ?_⟩
      rw [evaluate_of_build hf hl hb, get_of_build hb]

/-- There are rows if every parameter has an answer, and each is the vector of that answer. -/
theorem Coherent.evaluateAll_eq_ok (h : s.Coherent) {ts : List K} {rows : List (List K)} :
    (s.evaluateAll config ts).answer = .ok rows ↔ rows.length = ts.length ∧
      ∀ (j : Nat) t, ts[j]? = some t → ∃ row, rows[j]? = some row ∧ row.length = s.terms ∧
        (s.evaluate config (.ofScalar parameterName t)).answer = .ok (row, s.terms) := by
  rw [answer_evaluateAll, mapM_eq_ok_getElem]
  refine and_congr_right fun _ => forall₃_congr fun j t _ => exists_congr fun row =>
    and_congr_right fun _ => ?_
  rw [map_eq_ok]
  constructor
  · rintro ⟨⟨v, n⟩, hv, rfl⟩
    obtain ⟨hlen, rfl⟩ := h.length_of_evaluate hv
    exact ⟨hlen, hv⟩
  · rintro ⟨-, hv⟩
    exact ⟨_, hv, rfl⟩

/-- The first parameter without an answer decides the fault. -/
theorem evaluateAll_eq_error {ts : List K} {f : Fault K} :
    (s.evaluateAll config ts).answer = .error f ↔ ∃ (j : Nat) (t : K), ts[j]? = some t ∧
      (s.evaluate config (.ofScalar parameterName t)).answer = .error f ∧
      ∀ k < j, ∀ u, ts[k]? = some u →
        ∃ v, (s.evaluate config (.ofScalar parameterName u)).answer = .ok v := by
  rw [answer_evaluateAll, mapM_eq_error_getElem]
  simp only [map_eq_error, map_eq_ok]
  refine exists₂_congr fun j t => and_congr_right fun _ => and_congr_right fun _ =>
    forall₄_congr fun k _ u _ => ?_
  constructor
  · rintro ⟨row, v, hv, -⟩
    exact ⟨v, hv⟩
  · rintro ⟨v, hv⟩
    exact ⟨_, v, hv, rfl⟩

section Uniform

variable (config : Config) (s : Spline Float) (samples margin : Datum)

theorem state_sampleUniform : (s.sampleUniform config samples margin).state = s ∨
    (s.sampleUniform config samples margin).state = (s.refresh config).state := by
  unfold sampleUniform
  split
  · exact .inl rfl
  · exact state_sample config s _ _

theorem store_sampleUniform : (s.sampleUniform config samples margin).state.store = s.store ∧
    (s.sampleUniform config samples margin).state.kind = s.kind := by
  rcases s.state_sampleUniform config samples margin with h | h
  · rw [h]
    exact ⟨rfl, rfl⟩
  · rw [h]
    exact s.store_refresh config

theorem sampleUniform_again :
    ((s.sampleUniform config samples margin).state.sampleUniform config samples margin).answer =
      (s.sampleUniform config samples margin).answer ∧
    ((s.sampleUniform config samples margin).state.sampleUniform config samples margin).state =
      (s.sampleUniform config samples margin).state := by
  rcases s.state_sampleUniform config samples margin with h | h
  · rw [h]
    exact ⟨rfl, h⟩
  · rw [h]
    constructor
    · unfold sampleUniform
      split
      · rfl
      · exact s.answer_sample_refresh config _ _
    · rcases (s.refresh config).state.state_sampleUniform config samples margin with h | h
      · exact h
      · rw [h, refresh_refresh]

variable {config s samples margin}

end Uniform

end Spline

end CurveKit
