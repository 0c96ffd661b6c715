import CurveKit.Proofs.Pool.Effects
import CurveKit.Proofs.Spline.Parts
import Mathlib.Data.List.Induction

/-!
# Invariants along runs, and curves in particular

What new splines have, and what no call on a spline, no owner, no teardown and no
copying takes away, is true of every spline after any calls on a pool. The curve of a
spline is an example: it is always the curve of the control points that the spline has.

Results:
* `invariant_call`, `invariant_after`: an invariant of splines holds along every run.
* `curve_after`: what that says about curves, and about finalizing once more.
-/
namespace CurveKit.Pool

open Spline (Invariant Coherent)

section Invariants

variable {P : Spline Float → Prop} {p : Pool Float} {i : SplineId} {s t : Spline Float}

theorem invariant_effect (hP : Invariant P) {c : Call} (hs : P s) (e : Effect p c i s t) : P t := by
  cases e with
  | called d _ => exact hP.call _ s d hs
  | acquired _ _ _ => exact hP.owners s _ hs
  | released _ _ _ _ => exact hP.owners s _ hs
  | ended _ _ _ _ => exact hP.teardown s hs
  | refused _ _ _ => exact hs
  | destroyed _ _ => exact hP.teardown s hs
  | destroyedAgain _ _ => exact hs
  | untouched _ _ _ _ => exact hs

/-- **One call.** An invariant of all splines is one of all splines after a call. -/
theorem invariant_call (hP : Invariant P) (h : ∀ (i : SplineId) s, p.splines[i]? = some s → P s)
    (c : Call) (ht : (p.call c).state.splines[i]? = some t) : P t := by
  cases hs : p.splines[i]? with
  | some s =>
    obtain ⟨u, hu, e⟩ := effect_call c hs
    rw [hu] at ht
    cases ht
    exact invariant_effect hP (h i s hs) e
  | none =>
    obtain ⟨-, -, _, e, -⟩ := p.made_call hs ht
    cases e with
    | made _ => exact hP.empty _ _
    | created _ => exact hP.owners _ _ (hP.empty _ _)
    | copied _ source _ => exact hP.duplicate _ _ (h _ _ source)

/-- **Runs.** An invariant holds of all splines after any calls. -/
theorem invariant_after (hP : Invariant P) (cs : List Call) :
    ∀ (i : SplineId) s, (fresh.after cs).splines[i]? = some s → P s := by
  induction cs using List.reverseRecOn with
  | nil => intro i s h; cases h
  | append_singleton cs c ih =>
    intro i s h
    rw [after_append] at h
    exact invariant_call hP ih c h

end Invariants

section Curves

variable (p : Pool Float) {i : SplineId} {s : Spline Float}

/-- Finalizing a spline that has the curve of its control points changes nothing at all. -/
theorem finalize_self (hs : p.splines[i]? = some s) {c : Curve Float} (hc : s.curve = some c)
    (hb : s.build = .ok c) :
    p.call (.spline i .finalize) = ⟨.ok (.flag true), p, s.finalizeEvents⟩ := by
  have hr := Spline.finalize_self hc hb
  simp only [call, on_of_some p hs, Spline.call, hr, Run.map, set_self hs, Except.map]

theorem finalize_error (hs : p.splines[i]? = some s) {f : Fault Float}
    (h : (p.call (.spline i .finalize)).answer = .error f) :
    s.build = .error f ∧ (p.call (.spline i .finalize)).state = p := by
  cases hb : s.build with
  | ok c =>
    simp [call, on_of_some p hs, Spline.call, Spline.finalize_of_build hb, Run.map, Except.map] at h
  | error g =>
    have hr := Spline.finalize_of_error hb
    simp only [call, on_of_some p hs, Spline.call, hr, Run.map, Run.fail, Except.map,
      Except.error.injEq] at h
    refine ⟨by rw [h], ?_⟩
    simp [call, on_of_some p hs, Spline.call, hr, set_self hs]

theorem curve_of_finalize (hs : p.splines[i]? = some s) {a : Answer}
    (h : (p.call (.spline i .finalize)).answer = .ok a) :
    ∃ c, (p.call (.spline i .finalize)).state.splines[i]? = some { s with curve := some c } ∧
      s.build = .ok c := by
  have hlt := (List.getElem?_eq_some_iff.1 hs).1
  cases hb : s.build with
  | error f =>
    simp [call, on_of_some p hs, Spline.call, Spline.finalize_of_error hb, Run.map, Run.fail,
      Except.map] at h
  | ok c =>
    refine ⟨c, ?_, rfl⟩
    simp [call_spline p hs, Spline.call, Spline.finalize_of_build hb, Run.map,
      List.getElem?_set_self hlt]

theorem curve_of_insert (hs : p.splines[i]? = some s) {parameter value : Datum}
    {e : Except (Fault Float) (Extension Float)} {a : Answer}
    (h : (p.call (.spline i (.insert parameter value e))).answer = .ok a) :
    ∃ t, (p.call (.spline i (.insert parameter value e))).state.splines[i]? = some t ∧
      t.store.size = s.store.size + 1 ∧ t.curve = none := by
  have hlt := (List.getElem?_eq_some_iff.1 hs).1
  rw [call_spline p hs] at h ⊢
  obtain ⟨-, t, v, bend, events, -, -, -, -, -, -, -, hst⟩ := Spline.call_insert_ok h
  refine ⟨_, List.getElem?_set_self hlt, ?_⟩
  rw [hst]
  exact ⟨Spline.size_place s t v bend, rfl⟩

end Curves

/-- **Curves.** After any calls the curve of a spline is the one that its control points give
now: it has their parameters and values, and every component has the rule that the scheme
computes for them and their extension data. Finalizing once more succeeds and changes nothing.
A spline has no curve after an accepted control point or a teardown, and none if finalizing it
fails. The spline has parts that went through the same calls, and in all such parts the flag tells
if there is a curve; if there is one, the snapshot is one of the lists as they are, the cache is
what the scheme computes of that, and finalizing leaves every part as it is. -/
theorem curve_after {cs : List Call} {i : SplineId} {s : Spline Float}
    (hs : (fresh.after cs).splines[i]? = some s) :
    (∀ c, s.curve = some c →
      c.parameters = s.store.parameters.toArray ∧
      c.rows = s.store.contents.map (·.value) ∧
      c.components.length = s.terms ∧
      (∀ p ∈ c.components, Curve.ruleOf s.kind s.store s.globalShape p.values = .ok p.rule) ∧
      s.build = .ok c ∧
      (fresh.after cs).call (.spline i .finalize) =
        ⟨.ok (.flag true), fresh.after cs, s.finalizeEvents⟩) ∧
    (∀ parameter value e a,
      ((fresh.after cs).call (.spline i (.insert parameter value e))).answer = .ok a →
      ∃ t, ((fresh.after cs).call (.spline i (.insert parameter value e))).state.splines[i]? =
        some t ∧ t.store.size = s.store.size + 1 ∧ t.curve = none) ∧
    (s.destroyed = true → s.curve = none) ∧
    (∀ f, ((fresh.after cs).call (.spline i .finalize)).answer = .error f →
      s.curve = none ∧ ((fresh.after cs).call (.spline i .finalize)).state = fresh.after cs) ∧
    (∃ p : Parts Float, p.InStep s) ∧
    ∀ p : Parts Float, p.InStep s → p.stale = s.curve.isNone ∧
      (p.stale = false → p.Cached ∧ p.finalize = ⟨.ok (), p, s.finalizeEvents⟩) := by
  have h : s.Coherent := invariant_after Spline.coherent_invariant cs i s hs
  refine ⟨fun c hc => ?_, fun parameter value e a ha => curve_of_insert _ hs ha,
    h.curve_of_destroyed, fun f hf => ?_, invariant_after Parts.inStep_invariant cs i s hs,
    fun p hp => ⟨hp.fits.stale, hp.fits.finalize_self⟩⟩
  · have hb := h.curve c hc
    obtain ⟨-, -, -, hp⟩ := Spline.build_eq_ok.1 hb
    obtain ⟨hpar, hlen, hall⟩ := Curve.prepare_eq_ok hp
    refine ⟨hpar, Curve.rows_of_prepare hp fun a ha => (h.width a ha).1, hlen, fun p hm => ?_, hb,
      finalize_self _ hs hc hb⟩
    obtain ⟨k, hk⟩ := List.getElem?_of_mem hm
    exact (hall k p hk).2
  · obtain ⟨hb, hst⟩ := finalize_error _ hs hf
    exact ⟨h.curve_of_error hb, hst⟩

/-- A natural spline through three points that came out of order, evaluated once. -/
theorem curve_after_evaluate :
    let cs : List Call := [.create .natural none,
      .spline 0 (.insert (.float 2.0) (.float 4.0) (.ok .nothing)),
      .spline 0 (.insert (.float 0.0) (.float 1.0) (.ok .nothing)),
      .spline 0 (.insert (.float 1.0) (.float 0.0) (.ok .nothing)),
      .spline 0 (.evaluate (.float 0.5))]
    ∃ s c, (fresh.after cs).splines[0]? = some s ∧ s.curve = some c ∧
      c.rows = s.store.contents.map (·.value) ∧
      s.store.contents.map (·.value) = [[1.0], [0.0], [4.0]] ∧
      (fresh.after cs).call (.spline 0 .finalize) =
        ⟨.ok (.flag true), fresh.after cs, s.finalizeEvents⟩ := by
  intro cs
  obtain ⟨s, hs⟩ : ∃ s, (fresh.after cs).splines[0]? = some s :=
    Option.isSome_iff_exists.1 (by decide +kernel)
  have hc : ((fresh.after cs).splines[0]?.bind (·.curve)).isSome = true := by decide +kernel
  have hv : (fresh.after cs).splines[0]?.map (fun s => s.store.contents.map (·.value)) =
      some [[1.0], [0.0], [4.0]] := by decide +kernel
  rw [hs] at hc hv
  obtain ⟨c, hc⟩ := Option.isSome_iff_exists.1 hc
  obtain ⟨-, hrows, -, -, -, hagain⟩ := (curve_after hs).1 c hc
  exact ⟨s, c, hs, hc, hrows, Option.some.inj hv, hagain⟩

end CurveKit.Pool
