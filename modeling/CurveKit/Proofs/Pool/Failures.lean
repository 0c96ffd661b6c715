import CurveKit.Proofs.Session.Calls

/-!
# A failed call leaves no trace

Everything is checked before anything is stored, so a call that ends in a fault leaves
the pool as it was: all control points, extension data, owners and configurations. Two
calls have done one thing when they fail. Evaluating may have finalized a stale spline
first, which then has the curve of its control points; closing a handle on a spline
that is destroyed closes the handle. The parts of a spline may be left with a snapshot by a
scheme that has broken down, but with the same lists and the same flag.

Results:
* `state_refresh_stale`: only a stale spline is finalized on the way.
* `state_of_refused`: what a failed call leaves of a spline.
* `Parts.Fits.withstands`: what it leaves of the parts.
* `state_of_error`: what a failed call leaves of the pool.
-/
namespace CurveKit

namespace Spline

/-- Does a call evaluate the curve, and so finalize a stale spline if that is allowed? -/
def Call.evaluates : Call → Bool
  | .evaluate _ => true
  | .range _ => true
  | .uniform _ _ => true
  | _ => false

/-- A stale spline was finalized on the way to its curve: it has the curve of its control points,
and is otherwise the same. -/
inductive Refreshed (config : Config) (s : Spline Float) : Spline Float → Prop
  | rebuilt {c : Curve Float} (stale : s.curve = none) (lazy : config.isOn .lazyFinalize = true)
      (build : s.build = .ok c) : Refreshed config s { s with curve := some c }

variable (config : Config) (s : Spline Float)

/-- Refreshing leaves a spline as it is, or has finalized a stale one. -/
theorem state_refresh_stale :
    (s.refresh config).state = s ∨ Refreshed config s (s.refresh config).state := by
  unfold refresh
  split
  · rename_i h
    simp only [Bool.and_eq_true, Bool.not_eq_true', isFinalized, Option.isSome_eq_false_iff,
      Option.isNone_iff_eq_none] at h
    cases hb : s.build with
    | error f => left; rw [finalize_of_error hb]; rfl
    | ok c => right; rw [finalize_of_build hb]; exact .rebuilt h.1 h.2 hb
  · exact .inl rfl

theorem state_finalize_error {f : Fault Float} (h : s.finalize.answer = .error f) :
    s.finalize.state = s := by
  cases hb : s.build with
  | error g => rw [finalize_of_error hb]; rfl
  | ok c => rw [finalize_of_build hb] at h; cases h

/-- What a call that evaluates leaves: the spline as it was, or finalized on the way. -/
theorem state_of_evaluates {d : Call} (hd : d.evaluates = true) :
    (s.call config d).state = s ∨ Refreshed config s (s.call config d).state := by
  have refreshed {t : Spline Float} (h : t = s ∨ t = (s.refresh config).state) :
      t = s ∨ Refreshed config s t := by
    rcases h with h | h
    · exact .inl h
    · rw [h]; exact state_refresh_stale config s
  cases d with
  | evaluate parameter =>
    rw [call, Run.state_map, state_evaluate]
    exact state_refresh_stale config s
  | range parameters =>
    rw [call, Run.state_map, evaluateRange]
    split
    · exact .inl rfl
    · rw [evaluateGrid, Run.state_map]
      exact refreshed (state_evaluateAll config s _)
  | uniform samples margin =>
    rw [call, Run.state_map, sampleUniform]
    split
    · exact .inl rfl
    · exact refreshed (state_sample config s _ _)
  | _ => cases hd

/-- **One spline.** A call that fails leaves the spline as it was, but evaluating may have
finalized it on the way. -/
theorem state_of_refused {d : Call} {f : Fault Float} (h : (s.call config d).answer = .error f) :
    (s.call config d).state = s ∨
      d.evaluates = true ∧ Refreshed config s (s.call config d).state := by
  by_cases hd : d.evaluates = true
  · exact (state_of_evaluates config s hd).imp_right fun hr => ⟨hd, hr⟩
  left
  cases d with
  | insert parameter value extension =>
    rw [call_insert_error h]
    rfl
  | finalize =>
    exact state_finalize_error s (map_eq_error.1 h)
  | invalidate => cases h
  | get parameter => rfl
  | _ => exact absurd rfl hd

end Spline

/-- What a call that fails does to the parts of a spline: they answer with the fault and keep all
that is stored, and the flag too, unless they were stale and were finalized on the way to their
curve. Then they have been computed of their lists. -/
structure Parts.Withstands (config : Config) (p : Parts Float) (d : Spline.Call)
    (f : Fault Float) : Prop where
  answer : (p.call config d).answer = .error f
  stored : (p.call config d).state.invalidate = p.invalidate
  flag : (p.call config d).state.stale = p.stale ∨
    d.evaluates = true ∧ p.stale = true ∧ (p.call config d).state.stale = false ∧
      (p.call config d).state.Cached

/-- Parts that fit a spline withstand what the spline does. -/
theorem Parts.Fits.withstands {p : Parts Float} {s : Spline Float} {config : Config}
    {d : Spline.Call} {f : Fault Float} (h : p.Fits s) (hf : (s.call config d).answer = .error f) :
    p.Withstands config d f := by
  obtain ⟨hanswer, -, hfits⟩ := h.agree_call config d
  rcases Spline.state_of_refused config s hf with ht | ⟨hd, ht⟩
  · rw [ht] at hfits
    exact ⟨hanswer.trans hf, h.stored_eq hfits rfl rfl rfl rfl rfl rfl,
      .inl (hfits.stale.trans h.stale.symm)⟩
  · generalize (s.call config d).state = t at ht hfits
    obtain ⟨hstale, -, -⟩ := ht
    have hold : p.stale = true := by rw [h.stale, hstale]; rfl
    exact ⟨hanswer.trans hf, h.stored_eq hfits rfl rfl rfl rfl rfl rfl,
      .inr ⟨hd, hold, hfits.stale, (hfits.cached _ rfl).1⟩⟩

namespace Pool

variable {p : Pool Float} {c : Call} {f : Fault Float}

/-- What a failed call leaves of the pool. -/
inductive Refused (p : Pool Float) (c : Call) : Pool Float → Prop
  | untouched : Refused p c p
  /-- A stale spline was finalized on the way to its curve. -/
  | refreshed {i : SplineId} {d : Spline.Call} {s t : Spline Float} (call : c = .spline i d)
      (evaluates : d.evaluates = true) (spline : p.splines[i]? = some s)
      (refreshed : Spline.Refreshed (p.config s.config) s t) :
      Refused p c { p with splines := p.splines.set i t }
  /-- A handle on a spline that is destroyed was closed. -/
  | closed {h : HandleId} (call : c = .close h) :
      Refused p c { p with handles := p.handles.set h none }

theorem state_acquire_error (p : Pool Float) {i : SplineId} (h : (p.acquire i).answer = .error f) :
    (p.acquire i).state = p := by
  cases hs : p.splines[i]? with
  | none => rw [(owners_of_none p hs).1]; rfl
  | some s =>
    cases hd : s.destroyed with
    | true => rw [acquire_dead p hs hd]; rfl
    | false => rw [acquire_live p hs hd] at h; cases h

theorem state_release_error (p : Pool Float) {i : SplineId} (h : (p.release i).answer = .error f) :
    (p.release i).state = p := by
  cases hs : p.splines[i]? with
  | none => rw [(owners_of_none p hs).2.1]; rfl
  | some s =>
    cases hd : s.destroyed with
    | true => rw [release_dead p hs hd]; rfl
    | false =>
      by_cases hn : 1 < s.owners
      · rw [release_shared p hs hd hn] at h; cases h
      · rw [release_last p hs hd (by omega)] at h; cases h

theorem state_openHandle_error (p : Pool Float) {i : SplineId}
    (h : (p.openHandle (some i) false).answer = .error f) :
    (p.openHandle (some i) false).state = p := by
  rw [openHandle_false] at h ⊢
  cases ha : (p.acquire i).answer with
  | error g => rw [Run.andThen_error ha]; exact state_acquire_error p ha
  | ok a => rw [Run.andThen_ok ha] at h; cases h

/-- A call on a spline that fails leaves the pool as it was, or a spline finalized. -/
theorem refused_spline {i : SplineId} {d : Spline.Call}
    (h : (p.call (.spline i d)).answer = .error f) :
    Refused p (.spline i d) (p.call (.spline i d)).state := by
  cases hs : p.splines[i]? with
  | none =>
    have hu : p.call (.spline i d) = .fail p .unbound :=
      on_of_none p hs fun config s => s.call config d
    rw [hu]
    exact .untouched
  | some s =>
    rw [call_spline p hs] at h ⊢
    rcases Spline.state_of_refused _ s h with ht | ⟨hd, ht⟩
    · rw [ht, set_self hs]
      exact .untouched
    · exact .refreshed rfl hd hs ht

/-- **Failures.** A call that fails leaves the pool exactly as it was, except that evaluating may
have finalized a stale spline, which then has the curve of its control points, and that a handle
on a destroyed spline is closed. -/
theorem state_of_error (p : Pool Float) (c : Call) (h : (p.call c).answer = .error f) :
    Refused p c (p.call c).state := by
  cases c with
  | make kind config =>
    rcases p.make_eq kind config with ⟨g, hm⟩ | hm
    · simp only [call, Run.state_map, hm]; exact .untouched
    · simp only [call, Run.map, hm] at h; cases h
  | create kind config =>
    rcases p.create_eq kind config with ⟨g, hm⟩ | hm
    · simp only [call, Run.state_map, hm]; exact .untouched
    · simp only [call, Run.map, hm] at h; cases h
  | copy i =>
    rcases p.clone_eq i with ⟨g, hm⟩ | ⟨s, -, -, hm⟩
    · simp only [call, Run.state_map, hm]; exact .untouched
    · simp only [call, Run.map, hm] at h; cases h
  | spline i d => exact refused_spline h
  | acquire i =>
    simp only [call, Run.state_map, state_acquire_error p (map_eq_error.1 h)]
    exact .untouched
  | release i =>
    simp only [call, Run.state_map, state_release_error p (map_eq_error.1 h)]
    exact .untouched
  | destroy i =>
    cases hs : p.splines[i]? with
    | none => simp only [call, Run.state_map, (owners_of_none p hs).2.2]; exact .untouched
    | some s =>
      cases hd : s.destroyed with
      | true => simp only [call, Run.map, destroy_dead p hs hd] at h; cases h
      | false => simp only [call, Run.map, destroy_live p hs hd] at h; cases h
  | openHandle target adopt =>
    cases target with
    | none => cases h
    | some i =>
      cases adopt with
      | true => cases h
      | false =>
        simp only [call, Run.state_map, state_openHandle_error p (map_eq_error.1 h)]
        exact .untouched
  | share k =>
    cases hh : p.held k with
    | error g => simp only [call, Run.state_map, share_of_not_held hh]; exact .untouched
    | ok i =>
      simp only [call, Run.map, share_of_held hh] at h ⊢
      rw [state_openHandle_error p (map_eq_error.1 h)]
      exact .untouched
  | copyHandle k =>
    cases hh : p.held k with
    | error g => simp only [call, Run.state_map, cloneHandle_of_not_held hh]; exact .untouched
    | ok i =>
      rcases p.clone_eq i with ⟨g, hc⟩ | ⟨s, -, -, hc⟩
      · simp only [call, Run.state_map, cloneHandle_of_held hh, hc]; exact .untouched
      · simp only [call, Run.map, cloneHandle_of_held hh, hc] at h; cases h
  | close k =>
    cases hh : p.held k with
    | error g => simp only [call, Run.state_map, (close_of_not_held hh).1]; exact .untouched
    | ok i =>
      simp only [call, Run.map, close_of_held hh] at h ⊢
      rw [state_release_error p (map_eq_error.1 h)]
      exact .closed rfl
  | setDefault config =>
    simp only [call, Run.map, setDefault] at h ⊢
    split at h
    · exact .untouched
    · cases h
  | editConfig i key d =>
    simp only [call] at h ⊢
    split at h
    · exact .untouched
    · cases h

/-- **Runs.** Take the pool after any calls or in any session, edits of configurations among them,
and a call that fails, other than closing a handle. The pool is exactly as before the call, or the
call evaluates a spline that was stale and may be finalized lazily. Then the only difference is
that this spline has a curve, the one that its control points give. If the call is one on a spline,
there are parts that went through all calls on that, and all of them answer with the same fault and
keep their lists, their width, their owners and their flag, apart from that one case. -/
theorem state_of_failed_call
    (hp : (∃ cs, p = fresh.after cs) ∨ ∃ steps, p = (Session.start.run steps).1.pool)
    (hc : ∀ k, c ≠ .close k) (h : (p.call c).answer = .error f) :
    ((p.call c).state = p ∨
      ∃ i d s curve, c = .spline i d ∧ d.evaluates = true ∧
        p.splines[i]? = some s ∧ s.curve = none ∧
        (p.config s.config).isOn .lazyFinalize = true ∧
        s.build = .ok curve ∧
        curve.parameters = s.store.parameters.toArray ∧
        curve.rows = s.store.contents.map (·.value) ∧
        (∀ p ∈ curve.components, Curve.ruleOf s.kind s.store s.globalShape p.values = .ok p.rule) ∧
        (p.call c).state = { p with
          splines := p.splines.set i { s with curve := some curve } }) ∧
    ∀ i d s, c = .spline i d → p.splines[i]? = some s → (∃ a : Parts Float, a.InStep s) ∧
      ∀ a : Parts Float, a.InStep s → a.Withstands (p.config s.config) d f := by
  obtain ⟨cs, rfl⟩ : ∃ cs, p = fresh.after cs := by
    rcases hp with hp | ⟨steps, rfl⟩
    · exact hp
    · exact Session.start.reaches_run steps
  constructor
  · have hr := state_of_error (fresh.after cs) c h
    generalize ((fresh.after cs).call c).state = q at hr ⊢
    cases hr with
    | untouched => exact .inl rfl
    | closed he => exact absurd he (hc _)
    | @refreshed i d s t he hd hs ht =>
      right
      obtain ⟨hstale, hlazy, hb⟩ := ht
      have hcoh : s.Coherent := invariant_after Spline.coherent_invariant cs i s hs
      obtain ⟨hpar, hrows, -, hrules⟩ := hcoh.curve_of_build hb
      exact ⟨i, d, s, _, he, hd, hs, hstale, hlazy, hb, hpar, hrows, hrules, rfl⟩
  · rintro i d s rfl hs
    rw [call_spline _ hs] at h
    exact ⟨invariant_after Parts.inStep_invariant cs i s hs, fun a ha => ha.fits.withstands h⟩

/-- A batch that breaks off at an infinite parameter has finalized the spline, although its
configuration was edited into nonsense. -/
theorem state_of_failed_call_range :
    let step (action : Action) : Step := { spline := some "s", handle := none, action }
    let steps : List Step := [step (.create (.str "linear") none false),
      step (.insert (.float 1.0) (.float 3.0)), step (.insert (.float 0.0) (.float 2.0)),
      step (.editConfig (.str "max_terms") (.str "wide"))]
    let p : Pool Float := (Session.start.run steps).1.pool
    let d : Spline.Call := .range (.list [.float 0.5, .float (1.0 / 0.0)])
    ∃ (s : Spline Float) (curve : Curve Float) (f : Fault Float) (a : Parts Float),
      p.splines[0]? = some s ∧ s.curve = none ∧
      curve.rows = s.store.contents.map (·.value) ∧
      s.store.contents.map (·.value) = [[2.0], [3.0]] ∧
      (p.call (.spline 0 d)).answer = .error f ∧
      (p.call (.spline 0 d)).state = { p with
        splines := p.splines.set 0 { s with curve := some curve } } ∧
      a.InStep s ∧ a.Withstands (p.config s.config) d f := by
  intro step steps p d
  obtain ⟨f, ha⟩ : ∃ f, (p.call (.spline 0 d)).answer = .error f := by
    have hf : (p.call (.spline 0 d)).answer.isOk = false := by decide +kernel
    cases ha : (p.call (.spline 0 d)).answer with
    | error f => exact ⟨f, rfl⟩
    | ok a => rw [ha] at hf; cases hf
  have hv : p.splines[0]?.map (fun s => s.store.contents.map (·.value)) =
      some [[2.0], [3.0]] := by decide +kernel
  obtain ⟨hpool, hparts⟩ := state_of_failed_call (.inr ⟨steps, rfl⟩) (fun _ h => by cases h) ha
  rcases hpool with h | ⟨i, e, s, curve, hcall, -, hs, hstale, -, -, -, hrows, -, hst⟩
  · have hold : p.splines.map (·.isFinalized) = [false] := by decide +kernel
    have hnew : (p.call (.spline 0 d)).state.splines.map (·.isFinalized) = [true] := by
      decide +kernel
    rw [h, hold] at hnew
    cases hnew
  · obtain rfl : 0 = i := (Call.spline.inj hcall).1
    rw [hs] at hv
    obtain ⟨⟨a, hstep⟩, hall⟩ := hparts 0 d s rfl hs
    exact ⟨s, curve, f, a, hs, hstale, hrows, Option.some.inj hv, ha, hst, hstep, hall a hstep⟩

end Pool

end CurveKit
