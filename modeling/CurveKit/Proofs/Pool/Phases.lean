import CurveKit.Proofs.Pool.Coherent
import CurveKit.Proofs.Spline.Checks

/-!
# Evaluating is finalizing and reading

A spline is used in two phases: it is finalized, and then it is read. Evaluating does both
in one call. Where the configuration of the spline asks for it, a stale spline is finalized
first, and a fault of that is the answer, also if the parameter is none. Otherwise evaluating
is reading and changes nothing.

Results:
* `call_get`: reading leaves the pool as it is.
* `evaluate_fresh`, `evaluate_stale`: evaluating with and without finalizing.
* `get_of_evaluate`: what was evaluated can be read.
* `evaluate_eq_phases`: all of this after any calls.
-/
namespace CurveKit.Pool

/-- A vector is answered with its length. -/
def counted : Answer → Answer
  | .vector v => .evaluation v v.length
  | a => a

/-- The two phases: a stale spline is finalized, and then the spline is read. -/
def phases (p : Pool Float) (i : SplineId) (s : Spline Float) (query : Datum) :
    Run Float (Pool Float) Answer :=
  if s.isFinalized then p.call (.spline i (.get query))
  else (p.call (.spline i .finalize)).andThen fun _ q => q.call (.spline i (.get query))

section Steps

variable {p : Pool Float} {i : SplineId} {s : Spline Float} {query : Datum}

/-- Reading leaves the pool as it is. -/
theorem call_get (hs : p.splines[i]? = some s) (query : Datum) :
    p.call (.spline i (.get query)) =
      .ask p ((s.get (p.config s.config) query.parameter).map .vector) := by
  rw [call_spline p hs, Spline.call]
  simp only [Run.ask, Run.map, set_self hs]

theorem map_counted (h : s.Coherent) (config : Config) (parameter : Reading Float) :
    ((s.get config parameter).map fun v => (v, s.terms)).map (fun v => Answer.evaluation v.1 v.2) =
      ((s.get config parameter).map Answer.vector).map counted := by
  cases hv : s.get config parameter with
  | error f => rfl
  | ok v =>
    show Except.ok (Answer.evaluation v s.terms) = .ok (.evaluation v v.length)
    rw [h.length_of_get hv]

/-- A spline that is finalized, or is not finalized on the way, is read. -/
theorem evaluate_fresh (hs : p.splines[i]? = some s) (h : s.Coherent)
    (hf : s.isFinalized = true ∨ (p.config s.config).isOn .lazyFinalize = false) :
    p.call (.spline i (.evaluate query)) = (p.call (.spline i (.get query))).map counted := by
  rw [call_get hs, call_spline p hs, Spline.call, Spline.evaluate_eq_get hf]
  simp only [Run.ask, Run.map, set_self hs, ← map_counted h]

/-- The pool in which a spline has got its curve. -/
def withCurve (p : Pool Float) (i : SplineId) (s : Spline Float) (c : Curve Float) : Pool Float :=
  { p with splines := p.splines.set i { s with curve := some c } }

theorem splines_withCurve (hs : p.splines[i]? = some s) (c : Curve Float) :
    (p.withCurve i s c).splines[i]? = some { s with curve := some c } :=
  List.getElem?_set_self (List.getElem?_eq_some_iff.1 hs).1

theorem finalize_of_build (hs : p.splines[i]? = some s) {c : Curve Float} (hb : s.build = .ok c) :
    p.call (.spline i .finalize) = ⟨.ok (.flag true), p.withCurve i s c, s.finalizeEvents⟩ := by
  rw [call_spline p hs, Spline.call, Spline.finalize_of_build hb]
  rfl

theorem finalize_of_error (hs : p.splines[i]? = some s) {f : Fault Float}
    (hb : s.build = .error f) : p.call (.spline i .finalize) = .fail p f := by
  rw [call_spline p hs, Spline.call, Spline.finalize_of_error hb]
  simp only [Run.fail, Run.map, set_self hs]
  rfl

theorem evaluate_of_error (hs : p.splines[i]? = some s) (hf : s.isFinalized = false)
    (hl : (p.config s.config).isOn .lazyFinalize = true) {f : Fault Float}
    (hb : s.build = .error f) : p.call (.spline i (.evaluate query)) = .fail p f := by
  rw [call_spline p hs, Spline.call, Spline.evaluate_of_error hf hl hb]
  simp only [Run.fail, Run.map, set_self hs]
  rfl

theorem evaluate_of_build (hs : p.splines[i]? = some s) (h : s.Coherent)
    (hf : s.isFinalized = false) (hl : (p.config s.config).isOn .lazyFinalize = true)
    {c : Curve Float} (hb : s.build = .ok c) :
    p.call (.spline i (.evaluate query)) =
      ⟨((p.withCurve i s c).call (.spline i (.get query))).answer.map counted, p.withCurve i s c,
        s.finalizeEvents⟩ := by
  have hread := map_counted (h.rebuilt hb) (p.config s.config) query.parameter
  rw [call_get (splines_withCurve hs c), call_spline p hs, Spline.call,
    Spline.evaluate_of_build hf hl hb]
  exact congrArg (Run.mk · (p.withCurve i s c) s.finalizeEvents) hread

/-- A stale spline is finalized and then read, if its configuration asks for it. -/
theorem evaluate_stale (hs : p.splines[i]? = some s) (h : s.Coherent)
    (hf : s.isFinalized = false) (hl : (p.config s.config).isOn .lazyFinalize = true) :
    p.call (.spline i (.evaluate query)) =
      ((p.call (.spline i .finalize)).andThen fun _ q =>
        q.call (.spline i (.get query))).map counted := by
  cases hb : s.build with
  | error f => rw [evaluate_of_error hs hf hl hb, finalize_of_error hs hb]; rfl
  | ok c =>
    rw [evaluate_of_build hs h hf hl hb, finalize_of_build hs hb, Run.andThen_ok rfl,
      call_get (splines_withCurve hs c)]
    simp [Run.map, Run.ask]

/-- Evaluating fails without a trace, or reads the spline in the pool that it leaves. -/
theorem evaluate_reads (hs : p.splines[i]? = some s) (h : s.Coherent) (query : Datum) :
    (∃ f, p.call (.spline i (.evaluate query)) = .fail p f) ∨
    ∃ q t events, q.splines[i]? = some t ∧ p.call (.spline i (.evaluate query)) =
      ⟨(q.call (.spline i (.get query))).answer.map counted, q, events⟩ := by
  by_cases hfresh : s.isFinalized = true ∨ (p.config s.config).isOn .lazyFinalize = false
  · right
    refine ⟨p, s, [], hs, ?_⟩
    rw [evaluate_fresh hs h hfresh, call_get hs]
    rfl
  · obtain ⟨hf, hl⟩ := not_or.1 hfresh
    rw [Bool.not_eq_true] at hf
    rw [Bool.not_eq_false] at hl
    cases hb : s.build with
    | error f => exact .inl ⟨f, evaluate_of_error hs hf hl hb⟩
    | ok c => exact .inr ⟨_, _, _, splines_withCurve hs c, evaluate_of_build hs h hf hl hb⟩

/-- What was evaluated can be read, with the same value and without any change. -/
theorem get_of_evaluate (hs : p.splines[i]? = some s) (h : s.Coherent) {a : Answer}
    (ha : (p.call (.spline i (.evaluate query))).answer = .ok a) :
    ∃ v, a = .evaluation v v.length ∧
      (p.call (.spline i (.evaluate query))).state.call (.spline i (.get query)) =
        .done (p.call (.spline i (.evaluate query))).state (.vector v) := by
  rcases evaluate_reads hs h query with ⟨f, he⟩ | ⟨q, t, events, ht, he⟩
  · rw [he] at ha
    cases ha
  · rw [he, call_get ht] at ha
    rw [he]
    obtain ⟨b, hb, rfl⟩ := map_eq_ok.1 ha
    obtain ⟨v, hv, rfl⟩ := map_eq_ok.1 hb
    refine ⟨v, rfl, ?_⟩
    show q.call (.spline i (.get query)) = .done q (.vector v)
    rw [call_get ht, hv]
    rfl

end Steps

/-- **Two phases.** Take a spline after any calls, and any parameter. Where its configuration asks
for it, evaluating is finalizing a stale spline and then reading it, with the length of the vector
as the width; a fault of finalizing is answered whatever the parameter is, and then nothing has
happened. Otherwise evaluating is reading, and changes nothing. Reading itself looks at the life of
the spline, then at its points, their number, the parameter, and last at the curve. What was
evaluated can be read, with the same value and without any change. -/
theorem evaluate_eq_phases {cs : List Call} {p : Pool Float} (hp : fresh.after cs = p)
    {i : SplineId} {s : Spline Float} (hs : p.splines[i]? = some s) (query : Datum) :
    ((p.config s.config).isOn .lazyFinalize = true →
      p.call (.spline i (.evaluate query)) = (p.phases i s query).map counted ∧
      ∀ f, s.isFinalized = false → (p.call (.spline i .finalize)).answer = .error f →
        p.call (.spline i (.evaluate query)) = .fail p f) ∧
    ((p.config s.config).isOn .lazyFinalize = false →
      p.call (.spline i (.evaluate query)) = (p.call (.spline i (.get query))).map counted ∧
      (p.call (.spline i (.evaluate query))).state = p) ∧
    s.Reads (p.config s.config) query.parameter
      (fun a => p.call (.spline i (.get query)) = .ask p (a.map .vector)) ∧
    ∀ a, (p.call (.spline i (.evaluate query))).answer = .ok a →
      ∃ v, a = .evaluation v v.length ∧
        (p.call (.spline i (.evaluate query))).state.call (.spline i (.get query)) =
          .done (p.call (.spline i (.evaluate query))).state (.vector v) := by
  subst hp
  have h : s.Coherent := invariant_after Spline.coherent_invariant cs i s hs
  refine ⟨fun hl => ⟨?_, fun f hf ha => ?_⟩, fun hl => ⟨evaluate_fresh hs h (.inr hl), ?_⟩, ?_,
    fun a => get_of_evaluate hs h⟩
  · unfold phases
    cases hf : s.isFinalized with
    | true => exact evaluate_fresh hs h (.inl hf)
    | false => exact evaluate_stale hs h hf hl
  · exact evaluate_of_error hs hf hl (finalize_error _ hs ha).1
  · rw [evaluate_fresh hs h (.inr hl), call_get hs]
    rfl
  · exact Spline.reads (call_get hs query)

/-- Lazy finalizing of a line is switched off and on again, and then another point is put on its
first one. Evaluating finds no curve at first, and then a value; at last the points that coincide
come before a text that is no parameter. -/
theorem evaluate_eq_phases_switched :
    let point (p v : Float) : Call := .spline 0 (.insert (.float p) (.float v) (.ok .nothing))
    let lazily (b : Bool) : Call := .editConfig 0 "lazy_finalize" (.bool b)
    let off : List Call := [.create .linear none, point 0.0 1.0, point 1.0 3.0, lazily false]
    let on : List Call := off ++ [lazily true]
    let bad : List Call := on ++ [point 0.0 5.0]
    (∃ s, (fresh.after off).splines[0]? = some s ∧
      (fresh.after off).call (.spline 0 (.evaluate (.float 0.5))) =
        .fail (fresh.after off) (.stale s.kind)) ∧
    (∃ v, ((fresh.after on).call (.spline 0 (.evaluate (.float 0.5)))).answer =
        .ok (.evaluation v v.length) ∧
      (((fresh.after on).call (.spline 0 (.evaluate (.float 0.5)))).state.call
        (.spline 0 (.get (.float 0.5)))).answer = .ok (.vector v)) ∧
    (fresh.after bad).call (.spline 0 (.evaluate (.str "x"))) =
      .fail (fresh.after bad) (.coincident 0.0) := by
  intro point lazily off on bad
  refine ⟨?_, ?_, ?_⟩
  · obtain ⟨s, hs⟩ : ∃ s, (fresh.after off).splines[0]? = some s :=
      Option.isSome_iff_exists.1 (by decide +kernel)
    have fs : (fresh.after off).splines[0]?.map (fun s =>
        (s.destroyed, decide (s.kind.minPoints ≤ s.store.size), s.curve.isSome,
          ((fresh.after off).config s.config).isOn .lazyFinalize)) =
        some (false, true, false, false) := by decide +kernel
    simp only [hs, Option.map_some, Option.some.injEq, Prod.mk.injEq, decide_eq_true_eq,
      Option.isSome_eq_false_iff, Option.isNone_iff_eq_none] at fs
    obtain ⟨ha, hn, hc, hl⟩ := fs
    obtain ⟨-, hoff, hreads, -⟩ := evaluate_eq_phases rfl hs (.float 0.5)
    refine ⟨s, hs, ?_⟩
    rw [(hoff hl).1, hreads.stale ⟨ha, hn⟩ 0.5 rfl hc]
    rfl
  · obtain ⟨s, hs⟩ : ∃ s, (fresh.after on).splines[0]? = some s :=
      Option.isSome_iff_exists.1 (by decide +kernel)
    obtain ⟨a, ha⟩ := exists_ok_of_isOk (show ((fresh.after on).call
      (.spline 0 (.evaluate (.float 0.5)))).answer.isOk = true by decide +kernel)
    obtain ⟨v, rfl, hv⟩ := (evaluate_eq_phases rfl hs (.float 0.5)).2.2.2 a ha
    exact ⟨v, ha, by rw [hv]; rfl⟩
  · obtain ⟨s, hs⟩ : ∃ s, (fresh.after bad).splines[0]? = some s :=
      Option.isSome_iff_exists.1 (by decide +kernel)
    have fs : (fresh.after bad).splines[0]?.map (fun s => (s.isFinalized,
        ((fresh.after bad).config s.config).isOn .lazyFinalize)) =
        some (false, true) := by decide +kernel
    simp only [hs, Option.map_some, Option.some.injEq, Prod.mk.injEq] at fs
    have hq : (match ((fresh.after bad).call (.spline 0 .finalize)).answer with
      | .error (.coincident q) => decide (q = 0.0)
      | _ => false) = true := by decide +kernel
    split at hq
    · rename_i q hf
      obtain rfl := of_decide_eq_true hq
      exact ((evaluate_eq_phases rfl hs (.str "x")).1 fs.2).2 _ fs.1 hf
    · cases hq

end CurveKit.Pool
