import CurveKit.Proofs.Exact.Piece

/-!
# What is looked at first

Finalizing a spline and reading it begin with the same checks: is the spline live, does it
have points, and does it have enough of them? Only then reading looks at the parameter, and
at last at the curve. Evaluating reads as well, and finalizes first where the curve is
missing and the configuration says so; then it is finalizing that meets the checks.

Results:
* `build_checked`, `reads`: the faults of finalizing and reading, in their order.
* `Coherent.length_of_get`: what is read has the width of the spline.
* `evaluate_eq_get`, `evaluate_of_error`, `evaluate_of_build`: evaluating in terms of the two.
-/
namespace CurveKit.Spline

variable {K : Type} [Scalar K] {s : Spline K} {c : Curve K} {f : Fault K} {config : Config}
  {parameter : Reading K}

/-! ## Life and points -/

/-- A live spline with enough points. -/
structure IsFull (s : Spline K) : Prop where
  alive : s.destroyed = false
  enough : s.kind.minPoints ≤ s.store.size

/-- How something is refused for the life of a spline or the number of its points. -/
structure Checked (s : Spline K) (refused : Fault K → Prop) : Prop where
  released : s.destroyed = true → refused (.released s.kind)
  noPoints : s.destroyed = false → s.store.size = 0 → refused (.noPoints s.kind)
  tooFewPoints : s.destroyed = false → 0 < s.store.size → s.store.size < s.kind.minPoints →
    refused (.tooFewPoints s.kind s.store.size)

/-- Refuses a spline that is destroyed or has too few points. -/
def checkFull (s : Spline K) : Except (Fault K) Unit := do
  s.checkAlive
  s.checkPoints

omit [Scalar K] in
theorem checkFull_eq_ok : s.checkFull = .ok () ↔ s.IsFull := by
  constructor
  · intro h
    obtain ⟨⟨⟩, ha, hp⟩ := bind_eq_ok.1 h
    exact ⟨checkAlive_eq_ok.1 ha, checkPoints_eq_ok.1 hp⟩
  · intro h
    rw [checkFull, checkAlive_eq_ok.2 h.alive, checkPoints_eq_ok.2 h.enough]
    rfl

omit [Scalar K] in
/-- Whatever passes the faults of the checks on is refused for the life of the spline and the number
of its points. -/
theorem checked {refused : Fault K → Prop} (h : ∀ f, s.checkFull = .error f → refused f) :
    s.Checked refused where
  released hd := by
    refine h _ ?_
    rw [checkFull, checkAlive, hd]
    rfl
  noPoints ha h0 := by
    refine h _ ?_
    rw [checkFull, checkAlive_eq_ok.2 ha, checkPoints, h0]
    rfl
  tooFewPoints ha h0 hn := by
    have hne : ¬ (s.store.size == 0) = true := by
      rw [beq_iff_eq]
      omega
    refine h _ ?_
    rw [checkFull, checkAlive_eq_ok.2 ha, checkPoints, if_neg hne, if_pos hn]
    rfl

theorem bind_of_error {ε α β : Type} {x : Except ε α} {e : ε} (h : x = .error e)
    (next : α → Except ε β) : x >>= next = .error e := by
  rw [h]
  rfl

/-! ## Finalizing -/

theorem build_eq_checkFull (s : Spline K) : s.build = s.checkFull >>= fun _ => s.checkApart >>=
    fun _ => (Curve.prepare s.kind s.terms s.store s.globalShape).mapError .breakdown := by
  unfold build checkFull
  cases s.checkAlive with
  | error f => rfl
  | ok _ => rfl

/-- Finalizing begins with the checks. -/
theorem build_checked {refused : Fault K → Prop} (h : ∀ f, s.build = .error f → refused f) :
    s.Checked refused :=
  checked fun f hf => h f (by rw [build_eq_checkFull]; exact bind_of_error hf _)

theorem build_of_isFull (h : s.IsFull) : s.build =
    match firstCoincident? s.store.parameters with
    | some p => .error (.coincident p)
    | none => (Curve.prepare s.kind s.terms s.store s.globalShape).mapError .breakdown := by
  rw [build_eq_checkFull, checkFull_eq_ok.2 h]
  unfold checkApart refuseCoincident
  cases firstCoincident? s.store.parameters <;> rfl

/-! ## Reading -/

/-- How a spline is read: first come the checks, then the parameter, and then the curve. -/
structure Reads (s : Spline K) (config : Config) (parameter : Reading K)
    (answered : Except (Fault K) (List K) → Prop) : Prop
    extends s.Checked fun f => answered (.error f) where
  unreadable : s.IsFull → ∀ f, parameter = .error f → answered (.error f)
  stale : s.IsFull → ∀ t, parameter = .ok t → s.curve = none → answered (.error (.stale s.kind))
  curve : s.IsFull → ∀ t c, parameter = .ok t → s.curve = some c →
    answered (s.read config c t)

theorem get_eq_checkFull (s : Spline K) (config : Config) (parameter : Reading K) :
    s.get config parameter = s.checkFull >>= fun _ => parameter >>= fun t =>
      match s.curve with
      | none => .error (.stale s.kind)
      | some c => s.read config c t := by
  unfold get checkFull
  cases s.checkAlive with
  | error f => rfl
  | ok _ => rfl

/-- Reading begins with the checks, and goes on with the parameter. -/
theorem reads {answered : Except (Fault K) (List K) → Prop}
    (h : answered (s.get config parameter)) : s.Reads config parameter answered where
  toChecked := checked fun f hf => by rwa [get_eq_checkFull, bind_of_error hf] at h
  unreadable hs f hf := by
    rw [get_eq_checkFull, checkFull_eq_ok.2 hs, hf] at h
    exact h
  stale hs t ht hc := by
    rw [get_eq_checkFull, checkFull_eq_ok.2 hs, ht, hc] at h
    exact h
  curve hs t c ht hc := by
    rw [get_eq_checkFull, checkFull_eq_ok.2 hs, ht, hc] at h
    exact h

/-- What is read has the width of the spline. -/
theorem Coherent.length_of_get (h : s.Coherent) {v : List K}
    (hv : s.get config parameter = .ok v) : v.length = s.terms := by
  rw [get_eq_checkFull] at hv
  obtain ⟨⟨⟩, -, hv⟩ := bind_eq_ok.1 hv
  obtain ⟨t, -, hv⟩ := bind_eq_ok.1 hv
  cases hc : s.curve with
  | none => rw [hc] at hv; cases hv
  | some c =>
    rw [hc] at hv
    rw [read_eq_ok hv, eval_of_build (h.curve c hc), List.length_map, List.length_range]

/-! ## Evaluating -/

theorem refresh_of_fresh (h : s.isFinalized = true ∨ config.isOn .lazyFinalize = false) :
    s.refresh config = .done s () := by
  unfold refresh
  rcases h with hf | hl
  · rw [hf]; rfl
  · rw [hl, Bool.and_false]; rfl

/-- Evaluating is reading where nothing is finalized on the way. -/
theorem evaluate_eq_get (h : s.isFinalized = true ∨ config.isOn .lazyFinalize = false) :
    s.evaluate config parameter =
      .ask s ((s.get config parameter).map fun v => (v, s.terms)) := by
  rw [evaluate, refresh_of_fresh h, Run.done_andThen]

theorem refresh_of_stale (hf : s.isFinalized = false) (hl : config.isOn .lazyFinalize = true) :
    s.refresh config = s.finalize := by
  rw [refresh, hf, hl]
  rfl

/-- Where finalizing fails, evaluating fails alike, whatever the parameter is. -/
theorem evaluate_of_error (hf : s.isFinalized = false) (hl : config.isOn .lazyFinalize = true)
    (hb : s.build = .error f) : s.evaluate config parameter = .fail s f := by
  rw [evaluate, refresh_of_stale hf hl, finalize_of_error hb, Run.fail_andThen]

/-- Where it succeeds, evaluating reads what it leaves. -/
theorem evaluate_of_build (hf : s.isFinalized = false) (hl : config.isOn .lazyFinalize = true)
    (hb : s.build = .ok c) : s.evaluate config parameter =
      ⟨(get config { s with curve := some c } parameter).map fun v => (v, s.terms),
        { s with curve := some c }, s.finalizeEvents⟩ := by
  rw [evaluate, refresh_of_stale hf hl, finalize_of_build hb, Run.andThen_ok rfl]
  simp only [Run.ask, List.append_nil]
  rfl

end CurveKit.Spline
