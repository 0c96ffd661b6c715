import CurveKit.Proofs.Pool.Handles

/-!
# Destroyed splines

The last release, a handle that is closed, or a destruction ends a spline for good. Nothing
is left of it but its kind and its place, whoever has a name for it or a handle on it. No
call brings anything back, and every call that needs a live spline is refused before
anything else is looked at.

Questions about its points are another matter: its range, a batch of evaluations and an even
spread of them. They look at the points first, and find none.

Results:
* `gone_of_destroyed`: what is left of a destroyed spline.
* `effect_of_gone`, `gone_after`: no call changes it.
* `call_of_gone`, `close_of_gone`: what is refused, and what becomes of open handles.
* `destroyed_for_good`: all of this after any calls.
* `queries_of_destroyed`: what questions about the points are answered.
-/
namespace CurveKit

/-! ## One spline -/

namespace Spline

section Generic

variable {K : Type} {s : Spline K}

/-- A destroyed spline has no points, no extension data, no owners and no curve. -/
structure Gone (s : Spline K) : Prop where
  destroyed : s.destroyed = true
  store : s.store = .empty
  shared : s.shared = .none
  owners : s.owners = 0
  curve : s.curve = none

theorem gone_teardown (s : Spline K) : s.teardown.Gone := ⟨rfl, rfl, rfl, rfl, rfl⟩

theorem Gone.terms (h : s.Gone) : s.terms = 0 := by
  rw [Spline.terms, h.store]
  rfl

theorem Gone.invalidate (h : s.Gone) : s.invalidate = s := by
  rw [Spline.invalidate, ← h.curve]

theorem Gone.domain (h : s.Gone) : s.domain = .error (.noPoints s.kind) := by
  rw [Spline.domain, h.store]
  rfl

theorem checkAlive_of_destroyed (hd : s.destroyed = true) :
    s.checkAlive = .error (.released s.kind) := by
  simp [checkAlive, hd]

variable [Scalar K]

theorem insert_of_destroyed (hd : s.destroyed = true) (clamp : Bool) (parameter : Reading K)
    (value : Except (Fault K) (List K)) (e : Extension K) :
    s.insert clamp parameter value e = .fail s (.released s.kind) := by
  rw [insert, checkAlive_of_destroyed hd]
  rfl

theorem get_of_destroyed (hd : s.destroyed = true) (config : Config) (parameter : Reading K) :
    s.get config parameter = .error (.released s.kind) := by
  rw [get, checkAlive_of_destroyed hd]
  rfl

theorem finalize_of_destroyed (hd : s.destroyed = true) :
    s.finalize = .fail s (.released s.kind) :=
  finalize_of_error (build_of_destroyed hd)

/-- Evaluating is refused whether stale splines are finalized on the way or not. -/
theorem evaluate_of_destroyed (hd : s.destroyed = true) (config : Config)
    (parameter : Reading K) : s.evaluate config parameter = .fail s (.released s.kind) := by
  unfold evaluate refresh
  split
  · rw [finalize_of_destroyed hd]
    rfl
  · rw [Run.done_andThen, get_of_destroyed hd]
    rfl

/-- A batch without parameters is answered; any other one is refused at its first parameter. -/
theorem Gone.evaluateGrid (h : s.Gone) (config : Config) (ts : List K) :
    s.evaluateGrid config ts =
      if ts = [] then .done s { columns := 0, rows := [] } else .fail s (.released s.kind) := by
  rw [Spline.evaluateGrid, h.terms]
  cases ts with
  | nil => rfl
  | cons t ts =>
    rw [evaluateAll_cons, evaluate_of_destroyed h.destroyed]
    rfl

theorem Gone.sample (h : s.Gone) (config : Config) (samples : Except (Fault K) Nat)
    (margin : Reading K) : s.sample config samples margin = .fail s (.noPoints s.kind) := by
  rw [Spline.sample, h.domain]
  rfl

end Generic

/-- Does a call need a live spline? Where the extension data could not be read, that comes before
the spline. -/
def Call.needsLife : Call → Bool
  | .insert _ _ extension => extension.isOk
  | .finalize => true
  | .get _ => true
  | .evaluate _ => true
  | _ => false

variable {s : Spline Float} (config : Config)

theorem call_of_destroyed (hd : s.destroyed = true) {d : Call} (hn : d.needsLife = true) :
    s.call config d = .fail s (.released s.kind) := by
  cases d with
  | insert parameter value extension =>
    obtain ⟨e, rfl⟩ := exists_ok_of_isOk hn
    rw [call, insertData, insert_of_destroyed hd]
    rfl
  | finalize =>
    rw [call, finalize_of_destroyed hd]
    rfl
  | get parameter =>
    rw [call, get_of_destroyed hd]
    rfl
  | evaluate parameter =>
    rw [call, evaluate_of_destroyed hd]
    rfl
  | _ => cases hn

/-- No call changes what is left of a spline. -/
theorem Gone.state_call (h : s.Gone) (d : Call) : (s.call config d).state = s := by
  have hc := change_call config s d
  generalize (s.call config d).state = t at hc
  cases hc with
  | recurved hr =>
    cases hr with
    | kept => rfl
    | rebuilt hb => rw [build_of_destroyed h.destroyed] at hb; cases hb
    | invalidated => exact h.invalidate
  | placed _ _ accepted => rw [insert_of_destroyed h.destroyed] at accepted; cases accepted

theorem Gone.snapshot (h : s.Gone) : s.snapshot =
    { points := 0, terms := 0, owners := 0, finalized := false, destroyed := true } := by
  simp [Spline.snapshot, isFinalized, Store.empty, Store.size, h.terms, h.store, h.owners, h.curve,
    h.destroyed]

theorem Gone.bends (h : s.Gone) : s.bends = (Spline.empty s.kind s.config).bends := by
  rw [Spline.bends, Spline.bends, Spline.globalShape, h.store, h.shared]
  rfl

end Spline

namespace Pool

open Spline (Gone)

/-! ## One call -/

/-- Does a call need the spline that it is about to be live? -/
def Call.needsLife : Call → Bool
  | .spline _ d => d.needsLife
  | .openHandle _ adopt => !adopt
  | .acquire _ => true
  | .release _ => true
  | .copy _ => true
  | .share _ => true
  | .copyHandle _ => true
  | _ => false

section Steps

variable {p : Pool Float} {c : Call} {j : SplineId} {s t : Spline Float}

/-- Nothing that happens to a spline changes what is left of it. -/
theorem effect_of_gone (h : s.Gone) (e : Effect p c j s t) : t = s := by
  have dead {P : Prop} (alive : s.destroyed = false) : P := by
    rw [h.destroyed] at alive; cases alive
  cases e with
  | called d _ => exact h.state_call _ d
  | acquired _ alive _ => exact dead alive
  | released _ alive _ _ => exact dead alive
  | ended _ alive _ _ => exact dead alive
  | refused _ _ _ => rfl
  | destroyed _ alive => exact dead alive
  | destroyedAgain _ _ => rfl
  | untouched _ _ _ _ => rfl

/-- A destroyed spline had nothing before, or has lost everything now. -/
theorem gone_effect (h : s.destroyed = true → s.Gone) (e : Effect p c j s t)
    (hd : t.destroyed = true) : t.Gone := by
  cases hs : s.destroyed with
  | true =>
    obtain rfl : t = s := effect_of_gone (h hs) e
    exact h hs
  | false =>
    have live {P : Prop} (dead : s.destroyed = true) : P := by rw [hs] at dead; cases dead
    cases e with
    | called d _ => exact live ((s.change_call _ d).same.2.2.2 ▸ hd)
    | acquired _ _ _ => exact live hd
    | released _ _ _ _ => exact live hd
    | ended _ _ _ _ => exact Spline.gone_teardown s
    | refused _ dead _ => exact live dead
    | destroyed _ _ => exact Spline.gone_teardown s
    | destroyedAgain _ dead => exact live dead
    | untouched _ _ _ _ => exact live hd

theorem alive_of_made {new : List Config} (h : Made p c t new) : t.destroyed = false := by
  cases h with
  | made _ => rfl
  | created _ => rfl
  | copied _ _ alive => exact alive

/-- The last release, a closing handle and a destruction take everything from a spline. -/
theorem state_of_ends (hs : p.splines[j]? = some s) (h : c.Ends p j s) :
    (p.call c).state.splines[j]? = some s.teardown := by
  have hlt := (List.getElem?_eq_some_iff.1 hs).1
  obtain ⟨alive, rfl | ⟨hr, last⟩⟩ := h
  · rw [call, Run.state_map, destroy_live p hs alive]
    exact List.getElem?_set_self hlt
  · rw [(call_of_released hr).1, release_last p hs alive last]
    exact List.getElem?_set_self hlt

/-- Every call that needs a live spline is refused, and leaves everything as it is. -/
theorem call_of_gone (hs : p.splines[j]? = some s) (hd : s.destroyed = true)
    (hc : c.subject p = some j) (hn : c.needsLife = true) :
    p.call c = .fail p (.released s.kind) := by
  have held {h : HandleId} (hh : (p.held h).toOption = some j) : p.held h = .ok j :=
    held_of_handle p ((held_toOption p).1 hh)
  have opened : p.openHandle (some j) false = .fail p (.released s.kind) := by
    rw [openHandle_false, acquire_dead p hs hd]
    rfl
  cases c with
  | spline i d =>
    cases hc
    rw [call_spline p hs, Spline.call_of_destroyed _ hd hn, Run.fail]
    simp only [set_self hs]
    rfl
  | acquire i =>
    cases hc
    rw [call, acquire_dead p hs hd]
    rfl
  | release i =>
    cases hc
    rw [call, release_dead p hs hd]
    rfl
  | copy i =>
    cases hc
    rw [call, clone_dead p hs hd]
    rfl
  | openHandle target adopt =>
    cases hc
    cases adopt with
    | true => cases hn
    | false =>
      rw [call, opened]
      rfl
  | share h =>
    rw [call, share_of_held (held hc), opened]
    rfl
  | copyHandle h =>
    rw [call, cloneHandle_of_held (held hc), clone_dead p hs hd]
    rfl
  | _ => cases hn

/-- Closing a handle that is still open on a destroyed spline is refused, and closes it. -/
theorem close_of_gone (hs : p.splines[j]? = some s) (hd : s.destroyed = true) {h : HandleId}
    (hh : p.held h = .ok j) : p.call (.close h) =
      ⟨.error (.released s.kind), { p with handles := p.handles.set h none }, []⟩ := by
  rw [call, close_of_held hh, release_dead p hs hd]
  rfl

theorem call_close_of_closed {h : HandleId} (hh : p.handles[h]? = some none) :
    p.call (.close h) = .done p (.flag false) := by
  rw [call, close, hh]
  rfl

end Steps

/-! ## Runs -/

section Runs

variable {j : SplineId} {s : Spline Float}

/-- Nothing is left of a spline that was destroyed in any calls. -/
theorem gone_of_destroyed {cs : List Call} (hs : (fresh.after cs).splines[j]? = some s)
    (hd : s.destroyed = true) : s.Gone := by
  induction cs using List.reverseRecOn generalizing j s with
  | nil => cases hs
  | append_singleton cs c ih =>
    rw [after_append] at hs
    cases hold : (fresh.after cs).splines[j]? with
    | none =>
      obtain ⟨-, -, new, made, -⟩ := (fresh.after cs).made_call hold hs
      rw [alive_of_made made] at hd
      cases hd
    | some u =>
      obtain ⟨t, ht, e⟩ := effect_call c hold
      obtain rfl : t = s := Option.some.inj (ht.symm.trans hs)
      exact gone_effect (ih hold) e hd

/-- What is left of a spline stays as it is, whatever calls follow. -/
theorem gone_after {p : Pool Float} (hs : p.splines[j]? = some s) (h : s.Gone) (ds : List Call) :
    (p.after ds).splines[j]? = some s := by
  induction ds generalizing p with
  | nil => exact hs
  | cons d ds ih =>
    obtain ⟨t, ht, e⟩ := effect_call d hs
    rw [effect_of_gone h e] at ht
    exact ih ht

theorem closed_after {p : Pool Float} {h : HandleId} (hh : p.handles[h]? = some none)
    (ds : List Call) : (p.after ds).handles[h]? = some none :=
  (handles_after ds hh).elim id id

end Runs

/-- **Destruction.** Take a spline after any calls. The last release, a handle that is closed last
and a destruction take everything from it. Once it is destroyed, it stays exactly as it is in all
further calls: without points, terms, extension data, owners and curve. Every call that needs a
live spline is refused with its release and leaves everything as it is; destroying it again only
leaves a warning. Closing a handle that is still open on it is refused in the same way; then that
handle is closed for good, and closing it again is answered with false. -/
theorem destroyed_for_good {cs : List Call} {j : SplineId} {s : Spline Float}
    (hs : (fresh.after cs).splines[j]? = some s) :
    (∀ c, c.Ends (fresh.after cs) j s →
      (fresh.after (cs ++ [c])).splines[j]? = some s.teardown ∧ s.teardown.destroyed = true) ∧
    (s.destroyed = true →
      s.Gone ∧ s.terms = 0 ∧ s.bends = (Spline.empty s.kind s.config).bends ∧
      s.snapshot =
        { points := 0, terms := 0, owners := 0, finalized := false, destroyed := true } ∧
      ∀ ds p, p = fresh.after (cs ++ ds) →
        p.splines[j]? = some s ∧
        (∀ c, c.subject p = some j → c.needsLife = true → p.call c = .fail p (.released s.kind)) ∧
        p.call (.destroy j) = ⟨.ok .nothing, p, [.destroyedAgain s.kind]⟩ ∧
        (Event.destroyedAgain s.kind : Event Float).level = .warning ∧
        ∀ h, p.held h = .ok j →
          p.call (.close h) =
            ⟨.error (.released s.kind), { p with handles := p.handles.set h none }, []⟩ ∧
          ∀ es q, q = p.after (.close h :: es) →
            q.held h = .error .closed ∧ q.call (.close h) = .done q (.flag false)) := by
  refine ⟨fun c hc => ⟨?_, rfl⟩, fun hd => ?_⟩
  · rw [after_append]
    exact state_of_ends hs hc
  have hgone := gone_of_destroyed hs hd
  refine ⟨hgone, hgone.terms, hgone.bends, hgone.snapshot, ?_⟩
  rintro ds p rfl
  have hafter : (fresh.after (cs ++ ds)).splines[j]? = some s := by
    rw [after_append]
    exact gone_after hs hgone ds
  refine ⟨hafter, fun c hc hn => call_of_gone hafter hd hc hn, ?_, rfl, fun h hh => ?_⟩
  · rw [call, destroy_dead _ hafter hd]
    rfl
  · refine ⟨close_of_gone hafter hd hh, ?_⟩
    rintro es q rfl
    have hlt := (List.getElem?_eq_some_iff.1 (handle_of_held _ hh)).1
    have hclosed : ((fresh.after (cs ++ ds)).after (.close h :: es)).handles[h]? = some none :=
      closed_after (handle_close hlt) es
    exact ⟨by rw [held, hclosed], call_close_of_closed hclosed⟩

/-- A spline that is destroyed although two handles are open on it, and what is called afterwards:
its curve is given up again, its configuration is edited, and one of the handles is closed. -/
theorem destroyed_for_good_shared :
    let cs : List Call := [.create .basicX none,
      .spline 0 (.insert (.float 1.0) (.float 3.0) (.ok (.shape 0.5))),
      .openHandle (some 0) true, .share 0, .destroy 0]
    let ds : List Call := [.spline 0 .invalidate, .editConfig 0 "lazy_finalize" (.bool false),
      .close 0]
    ∃ s, (fresh.after cs).splines[0]? = some s ∧ s.destroyed = true ∧
      (fresh.after (cs ++ ds)).splines[0]? = some s ∧ s.snapshot =
        { points := 0, terms := 0, owners := 0, finalized := false, destroyed := true } ∧
      (fresh.after (cs ++ ds)).call (.spline 0 (.evaluate (.str "x"))) =
        .fail (fresh.after (cs ++ ds)) (.released s.kind) ∧
      (fresh.after (cs ++ ds)).held 1 = .ok 0 ∧
      ((fresh.after (cs ++ ds)).call (.close 1)).answer = .error (.released s.kind) ∧
      (((fresh.after (cs ++ ds)).after [.close 1]).call (.close 1)).answer = .ok (.flag false) := by
  intro cs ds
  obtain ⟨s, hs⟩ : ∃ s, (fresh.after cs).splines[0]? = some s :=
    Option.isSome_iff_exists.1 (by decide +kernel)
  have hd : s.destroyed = true := by
    have h : (fresh.after cs).splines[0]?.map (·.destroyed) = some true := by decide +kernel
    simpa [hs] using h
  have hh : (fresh.after (cs ++ ds)).held 1 = .ok 0 :=
    held_of_handle _ (by decide +kernel)
  obtain ⟨-, -, -, hsnapshot, hlater⟩ := (destroyed_for_good hs).2 hd
  obtain ⟨hsame, hrefused, -, -, hclose⟩ := hlater ds _ rfl
  obtain ⟨hfirst, hsecond⟩ := hclose 1 hh
  refine ⟨s, hs, hd, hsame, hsnapshot, hrefused _ rfl rfl, hh, ?_, ?_⟩
  · rw [hfirst]
  · rw [(hsecond [] _ rfl).2]
    rfl

/-! ## Questions about the points -/

theorem range_of_gone {p : Pool Float} {j : SplineId} {s : Spline Float}
    (hs : p.splines[j]? = some s) (h : s.Gone) {d : Datum} {ts : List Float}
    (hts : d.parameters = .ok ts) :
    p.call (.spline j (.range d)) =
      if ts = [] then .done p (.grid { columns := 0, rows := [] })
      else .fail p (.released s.kind) := by
  rw [call_spline p hs, Spline.call, Spline.evaluateRange, hts]
  dsimp only
  rw [h.evaluateGrid]
  split
  · simp only [Run.done, Run.map, set_self hs]
    rfl
  · simp only [Run.fail, Run.map, set_self hs]
    rfl

theorem uniform_of_gone {p : Pool Float} {j : SplineId} {s : Spline Float}
    (hs : p.splines[j]? = some s) (h : s.Gone) {samples margin : Datum}
    (hn : samples.checkSamples = .ok ()) :
    p.call (.spline j (.uniform samples margin)) = .fail p (.noPoints s.kind) := by
  rw [call_spline p hs, Spline.call, Spline.sampleUniform, hn]
  dsimp only
  rw [h.sample]
  simp only [Run.fail, Run.map, set_self hs]
  rfl

/-- **Queries.** A destroyed spline is asked about its points, after whatever calls. It has no range
and no even spread of evaluations, because it has no points; a batch without parameters gives a grid
without rows and columns. Only a batch that has parameters is refused with the release. -/
theorem queries_of_destroyed {cs : List Call} {j : SplineId} {s : Spline Float}
    (hs : (fresh.after cs).splines[j]? = some s) (hd : s.destroyed = true) :
    s.domain = .error (.noPoints s.kind) ∧
    (∀ d ts, d.parameters = .ok ts → (fresh.after cs).call (.spline j (.range d)) =
      if ts = [] then .done (fresh.after cs) (.grid { columns := 0, rows := [] })
      else .fail (fresh.after cs) (.released s.kind)) ∧
    ∀ samples margin, samples.checkSamples = .ok () →
      (fresh.after cs).call (.spline j (.uniform samples margin)) =
        .fail (fresh.after cs) (.noPoints s.kind) := by
  have hgone := gone_of_destroyed hs hd
  exact ⟨hgone.domain, fun _ _ => range_of_gone hs hgone, fun _ _ => uniform_of_gone hs hgone⟩

/-- A line through two points that its only owner has let go of. -/
theorem queries_of_destroyed_line :
    let cs : List Call := [.create .linear none,
      .spline 0 (.insert (.float 0.0) (.float 1.0) (.ok .nothing)),
      .spline 0 (.insert (.float 1.0) (.float 3.0) (.ok .nothing)), .release 0]
    ∃ s, (fresh.after cs).splines[0]? = some s ∧ s.destroyed = true ∧
      s.domain = .error (.noPoints s.kind) ∧
      (fresh.after cs).call (.spline 0 (.range (.list []))) =
        .done (fresh.after cs) (.grid { columns := 0, rows := [] }) ∧
      (fresh.after cs).call (.spline 0 (.range (.list [.float 0.5]))) =
        .fail (fresh.after cs) (.released s.kind) ∧
      (fresh.after cs).call (.spline 0 (.uniform (.int 2) (.float 0.0))) =
        .fail (fresh.after cs) (.noPoints s.kind) := by
  intro cs
  obtain ⟨s, hs⟩ : ∃ s, (fresh.after cs).splines[0]? = some s :=
    Option.isSome_iff_exists.1 (by decide +kernel)
  have hd : s.destroyed = true := by
    have h : (fresh.after cs).splines[0]?.map (·.destroyed) = some true := by decide +kernel
    simpa [hs] using h
  obtain ⟨hdomain, hrange, huniform⟩ := queries_of_destroyed hs hd
  exact ⟨s, hs, hd, hdomain, hrange _ [] rfl, hrange _ [0.5] rfl, huniform _ _ rfl⟩

/-- On the same line the release stays unmentioned: not in the range, not in a batch without
parameters, and not in an even spread. -/
theorem release_not_reported :
    let p : Pool Float := fresh.after [.create .linear none,
      .spline 0 (.insert (.float 0.0) (.float 1.0) (.ok .nothing)),
      .spline 0 (.insert (.float 1.0) (.float 3.0) (.ok .nothing)), .release 0]
    ∃ s, p.splines[0]? = some s ∧ s.destroyed = true ∧
      s.domain ≠ .error (.released s.kind) ∧
      (p.call (.spline 0 (.range (.list [])))).answer ≠ .error (.released s.kind) ∧
      (p.call (.spline 0 (.uniform (.int 2) (.float 0.0)))).answer ≠
        .error (.released s.kind) := by
  intro p
  obtain ⟨s, hs⟩ : ∃ s, p.splines[0]? = some s :=
    Option.isSome_iff_exists.1 (by decide +kernel)
  have hd : s.destroyed = true := by
    have h : p.splines[0]?.map (·.destroyed) = some true := by decide +kernel
    simpa [hs] using h
  have hgone : s.Gone := gone_of_destroyed hs hd
  refine ⟨s, hs, hd, ?_, ?_, ?_⟩
  · rw [hgone.domain]
    simp
  · have hnone : (Datum.list []).parameters = .ok [] := rfl
    rw [range_of_gone hs hgone hnone]
    exact fun h => nomatch h
  · rw [uniform_of_gone hs hgone rfl]
    exact fun h => nomatch h

end Pool

end CurveKit
