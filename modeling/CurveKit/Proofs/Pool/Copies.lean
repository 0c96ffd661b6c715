import CurveKit.Proofs.Pool.Handles
import CurveKit.Proofs.Pool.History

/-!
# Copies stand on their own

A copy has the control points and the configuration entries of the spline that was
copied, but shares nothing with it. So whatever is done with one of the two can be left
out without any difference to the other: not to its points, flags and owners, not to
its configuration, and not to any answer of a call about it.

`Alike` compares two pools as far as calls about one spline can see. A call about that
spline keeps them alike and gets the same answer in both; a call about the other one
changes nothing that is compared.

Results:
* `shows_call`, `alike_call`: a call about the compared spline.
* `alike_apart`: a call about another spline, with another configuration.
* `alike_after`: runs with and without the calls about the other spline.
* `copy_independent`: what that says about a spline and its copy.
-/
namespace CurveKit.Pool

/-- Two pools are the same for calls about spline `j`: the spline, its configuration, and the
handles that were on it in an earlier pool `q`. -/
structure Alike (q : Pool Float) (j : SplineId) (p p' : Pool Float) : Prop where
  spline : p'.splines[j]? = p.splines[j]?
  config : ∀ s, p.splines[j]? = some s → p'.config s.config = p.config s.config
  handles : ∀ h : HandleId, q.handles[h]? = some (some j) → p'.handles[h]? = p.handles[h]?

theorem Alike.refl (q : Pool Float) (j : SplineId) (p : Pool Float) : Alike q j p p :=
  ⟨rfl, fun _ _ => rfl, fun _ _ => rfl⟩

theorem Alike.trans {q p p' p'' : Pool Float} {j : SplineId} (h : Alike q j p p')
    (h' : Alike q j p' p'') : Alike q j p p'' where
  spline := h'.spline.trans h.spline
  config s hs := (h'.config s (h.spline.trans hs)).trans (h.config s hs)
  handles k hk := (h'.handles k hk).trans (h.handles k hk)

theorem Alike.symm {q p p' : Pool Float} {j : SplineId} (h : Alike q j p p') : Alike q j p' p where
  spline := h.spline.symm
  config s hs := (h.config s (h.spline.symm.trans hs)).symm
  handles k hk := (h.handles k hk).symm

section Answers

variable {q p p' : Pool Float} {j : SplineId} {c : Call}

/-- What two runs show of a spline: their answers, and the spline afterwards. -/
def Shows {α : Type} (j : SplineId) (r r' : Run Float (Pool Float) α) : Prop :=
  r'.answer = r.answer ∧ r'.state.splines[j]? = r.state.splines[j]?

theorem Shows.map {α β : Type} {r r' : Run Float (Pool Float) α} (h : Shows j r r') (f : α → β) :
    Shows j (r.map f) (r'.map f) :=
  ⟨congrArg (Except.map f) h.1, h.2⟩

theorem shows_on {α : Type} (h : Alike q j p p')
    (operation : Config → Spline Float → Run Float (Spline Float) α) :
    Shows j (p.on j operation) (p'.on j operation) := by
  cases hs : p.splines[j]? with
  | none =>
    rw [on_of_none p hs, on_of_none p' (h.spline.trans hs)]
    exact ⟨rfl, h.spline⟩
  | some s =>
    have hs' := h.spline.trans hs
    rw [on_of_some p hs, on_of_some p' hs', h.config s hs]
    refine ⟨rfl, ?_⟩
    dsimp only
    rw [List.getElem?_set_self (List.getElem?_eq_some_iff.1 hs).1,
      List.getElem?_set_self (List.getElem?_eq_some_iff.1 hs').1]

/-- Opening a handle shows whether the reference to the spline was taken, and not where the handle
stands. -/
theorem shows_openHandle (h : Alike q j p p') :
    Shows j ((p.openHandle (some j) false).map fun _ => Answer.nothing)
      ((p'.openHandle (some j) false).map fun _ => Answer.nothing) := by
  have ha : Shows j (p.acquire j) (p'.acquire j) := shows_on h _
  rw [openHandle_false, openHandle_false]
  cases hp : (p.acquire j).answer with
  | error f =>
    rw [Run.andThen_error hp, Run.andThen_error (ha.1.trans hp)]
    exact ⟨rfl, ha.2⟩
  | ok a =>
    rw [Run.andThen_ok hp, Run.andThen_ok (ha.1.trans hp)]
    exact ⟨rfl, ha.2⟩

/-- Copying shows whether the configuration was valid, and not where the copy stands. -/
theorem shows_clone (h : Alike q j p p') :
    Shows j ((p.clone j).map fun _ => Answer.nothing)
      ((p'.clone j).map fun _ => Answer.nothing) := by
  cases hs : p.splines[j]? with
  | none =>
    rw [clone_of_none p hs, clone_of_none p' (h.spline.trans hs)]
    exact ⟨rfl, h.spline⟩
  | some s =>
    have hs' := h.spline.trans hs
    refine ⟨?_, (getElem?_clone hs' j).trans (getElem?_clone hs j).symm⟩
    cases hd : s.destroyed with
    | true => rw [clone_dead p hs hd, clone_dead p' hs' hd]; rfl
    | false =>
      rw [clone_live p hs hd, clone_live p' hs' hd, h.config s hs]
      cases ((p.config s.config).settings : Except (Fault Float) Settings) with
      | error f => rfl
      | ok settings => rfl

theorem shows_cloneHandle (h : Alike q j p p') {k : HandleId} (hk : p.held k = .ok j)
    (hk' : p'.held k = .ok j) :
    Shows j ((p.cloneHandle k).map fun _ => Answer.nothing)
      ((p'.cloneHandle k).map fun _ => Answer.nothing) := by
  have hc := shows_clone h
  have key (r : Pool Float) (hr : r.held k = .ok j) :
      ((r.cloneHandle k).map fun _ => Answer.nothing).answer =
        ((r.clone j).map fun _ => Answer.nothing).answer := by
    rw [cloneHandle_of_held hr]
    cases ha : (r.clone j).answer with
    | error f => rw [Run.andThen_error ha, Run.map, Run.map, ha]
    | ok i => rw [Run.andThen_ok ha, Run.map, Run.map, ha]; rfl
  refine ⟨by rw [key p hk, key p' hk']; exact hc.1, ?_⟩
  rw [Run.state_map, Run.state_map, splines_cloneHandle hk, splines_cloneHandle hk']
  exact hc.2

theorem held_of_alike (h : Alike q j p p') {k : HandleId} (hk : q.handles[k]? = some (some j)) :
    p'.held k = p.held k := by
  unfold held
  rw [h.handles k hk]

/-- A call about spline `j` gets the same answer in both pools, and makes the same of the spline. -/
theorem shows_call (h : Alike q j p p') (hc : c.subject q = some j)
    (hk : ∀ k i, q.handles[k]? = some (some j) → p.held k = .ok i → i = j) :
    Shows j (p.call c) (p'.call c) := by
  cases c with
  | make kind config => cases hc
  | create kind config => cases hc
  | setDefault config => cases hc
  | copy i => cases hc; exact shows_clone h
  | spline i d => cases hc; exact shows_on h _
  | acquire i => cases hc; exact (shows_on h _).map _
  | release i => cases hc; exact (shows_on h _).map _
  | destroy i => cases hc; exact (shows_on h _).map _
  | openHandle target adopt =>
    cases hc
    cases adopt with
    | true => exact ⟨rfl, h.spline⟩
    | false => exact shows_openHandle h
  | share k =>
    have hq := (held_toOption q).1 hc
    have he := held_of_alike h hq
    simp only [call]
    cases hh : p.held k with
    | error f =>
      rw [share_of_not_held hh, share_of_not_held (he.trans hh)]
      exact ⟨rfl, h.spline⟩
    | ok i =>
      obtain rfl := (hk k i hq hh).symm
      rw [share_of_held hh, share_of_held (he.trans hh)]
      exact shows_openHandle h
  | copyHandle k =>
    have hq := (held_toOption q).1 hc
    have he := held_of_alike h hq
    simp only [call]
    cases hh : p.held k with
    | error f =>
      rw [cloneHandle_of_not_held hh, cloneHandle_of_not_held (he.trans hh)]
      exact ⟨rfl, h.spline⟩
    | ok i =>
      obtain rfl := (hk k i hq hh).symm
      exact shows_cloneHandle h hh (he.trans hh)
  | close k =>
    have hq := (held_toOption q).1 hc
    have he := held_of_alike h hq
    cases hh : p.held k with
    | error f =>
      refine ⟨?_, ?_⟩
      · simp only [call, Run.map, close, h.handles k hq]
        split
        · rfl
        · rfl
        · rename_i i hi
          rw [held_of_handle p hi] at hh
          cases hh
      · simp only [call, Run.state_map, (close_of_not_held hh).1,
          (close_of_not_held (he.trans hh)).1]
        exact h.spline
    | ok i =>
      obtain rfl := (hk k i hq hh).symm
      simp only [call, close_of_held hh, close_of_held (he.trans hh)]
      exact (shows_on h _ : Shows j (p.release j) (p'.release j)).map Answer.flag
  | editConfig i key d =>
    cases hc
    simp only [call]
    cases hs : p.splines[j]? with
    | none => rw [h.spline.trans hs]; exact ⟨rfl, h.spline⟩
    | some s => rw [h.spline.trans hs]; exact ⟨rfl, h.spline⟩

end Answers

/-! ## One call -/

section Steps

variable {q p p' : Pool Float} {i j : SplineId} {s u : Spline Float} {c : Call}

/-- After a call about spline `j` the pools are still the same for calls about it. -/
theorem alike_call (hw : Wired p) (hw' : Wired p') (h : Alike q j p p')
    (hs : p.splines[j]? = some s) (hc : c.subject q = some j)
    (hk : ∀ k i, q.handles[k]? = some (some j) → p.held k = .ok i → i = j)
    (hl : ∀ k : HandleId, q.handles[k]? = some (some j) →
      k < p.handles.length ∧ k < p'.handles.length) :
    Alike q j (p.call c).state (p'.call c).state where
  spline := (shows_call h hc hk).2
  config t ht := by
    have hs' := h.spline.trans hs
    obtain ⟨u, hu, e⟩ := effect_call c hs
    rw [hu] at ht
    cases ht
    rw [config_of_effect e]
    cases hed : c.edits with
    | false =>
      rw [config_call hw hs (touches_of_not_edits hed p j),
        config_call hw' hs' (touches_of_not_edits hed p' j)]
      exact h.config s hs
    | true =>
      cases c with
      | editConfig i key d =>
        cases hc
        simp only [call, hs, hs']
        show (p'.editConfig s.config key d).config s.config =
          (p.editConfig s.config key d).config s.config
        rw [config_editConfig_self p (hw.splines j s hs),
          config_editConfig_self p' (hw'.splines j s hs'), h.config s hs]
      | _ => cases hed
  handles k hq := by
    obtain ⟨hlt, hlt'⟩ := hl k hq
    by_cases he : c = .close k
    · rw [he, handle_close hlt, handle_close hlt']
    · rw [handle_call_of_ne hlt he, handle_call_of_ne hlt' he]
      exact h.handles k hq

/-- A call about spline `i` takes a reference to no other spline, and gives none back to one. -/
theorem eq_of_subject (hc : c.subject q = some i)
    (hk : ∀ k l, q.handles[k]? = some (some i) → p.held k = .ok l → l = i)
    (hr : c.acquired p = some j ∨ c.released p = some j) : i = j := by
  have handle (k : HandleId) (hq : (q.held k).toOption = some i)
      (hp : (p.held k).toOption = some j) : i = j :=
    (hk k j ((held_toOption q).1 hq) (held_of_handle p ((held_toOption p).1 hp))).symm
  cases c with
  | acquire l => cases hc; simpa [Call.acquired, Call.released] using hr
  | release l => cases hc; simpa [Call.acquired, Call.released] using hr
  | openHandle target adopt =>
    cases hc
    cases adopt with
    | false => simpa [Call.acquired, Call.released] using hr
    | true => simp [Call.acquired, Call.released] at hr
  | share k => exact handle k hc (by simpa [Call.acquired, Call.released] using hr)
  | close k => exact handle k hc (by simpa [Call.acquired, Call.released] using hr)
  | _ => simp [Call.acquired, Call.released] at hr

/-- A call about spline `i` makes no difference to calls about spline `j`, if the two hold
different configurations. -/
theorem alike_apart (hw : Wired p) (hs : p.splines[j]? = some s) (hc : c.subject q = some i)
    (hij : i ≠ j) (hne : ∀ u, p.splines[i]? = some u → u.config ≠ s.config)
    (hk : ∀ k l, q.handles[k]? = some (some i) → p.held k = .ok l → l = i)
    (hl : ∀ k : HandleId, q.handles[k]? = some (some j) → k < p.handles.length) :
    Alike q j p (p.call c).state where
  spline := by
    rw [hs]
    refine splines_untouched hs ?_ (fun h => hij (eq_of_subject hc hk (.inl h)))
      (fun h => hij (eq_of_subject hc hk (.inr h))) ?_
    · rintro d rfl
      exact hij (Option.some.inj hc).symm
    · rintro rfl
      exact hij (Option.some.inj hc).symm
  config t ht := by
    rw [hs] at ht
    cases ht
    refine config_call hw hs ?_
    cases c with
    | editConfig l key d =>
      cases hc
      cases hu : p.splines[i]? with
      | none => simp [Call.touches, hu]
      | some u => simp [Call.touches, hu, hs, hne u hu]
    | _ => rfl
  handles k hq := by
    refine handle_call_of_ne (hl k hq) ?_
    rintro rfl
    have hi : q.handles[k]? = some (some i) := (held_toOption q).1 hc
    rw [hq] at hi
    exact hij (Option.some.inj (Option.some.inj hi)).symm

end Steps

/-! ## Runs -/

theorem handle_after {q : Pool Float} (ds : List Call) {k : HandleId} {j : SplineId}
    (hq : q.handles[k]? = some (some j)) : k < (q.after ds).handles.length := by
  rcases handles_after ds hq with h | h
  · exact (List.getElem?_eq_some_iff.1 h).1
  · exact (List.getElem?_eq_some_iff.1 h).1

/-- **Runs.** Take calls about two splines with different configurations, through names or
through handles that were there at the start. Leaving out the calls about one of them makes no
difference to the other. -/
theorem alike_after {q : Pool Float} (hw : Wired q) {i j : SplineId} {s u : Spline Float}
    (hu : q.splines[i]? = some u) (hs : q.splines[j]? = some s) (hij : i ≠ j)
    (hne : u.config ≠ s.config) {ds : List Call}
    (hds : ∀ d ∈ ds, d.subject q = some i ∨ d.subject q = some j) :
    Alike q j (q.after ds) (q.after (ds.filter fun d => d.subject q != some i)) := by
  induction ds using List.reverseRecOn with
  | nil => exact .refl q j q
  | append_singleton ds d ih =>
    have ih := ih fun e he => hds e (by simp [he])
    rw [List.filter_append, after_append, after_append]
    generalize hes : ds.filter (fun d => d.subject q != some i) = es at ih ⊢
    obtain ⟨t, ht, htc⟩ := holds_after hs ds
    rcases hds d (by simp) with hd | hd
    · -- The call is about the other spline, and left out.
      have hdrop : [d].filter (fun d => d.subject q != some i) = [] := by simp [hd]
      rw [hdrop, after_nil]
      refine .trans (.symm ?_) ih
      refine alike_apart (hw.after ds) ht hd hij (fun v hv => ?_) (fun k l hq => held_after hq)
        fun k hq => handle_after ds hq
      obtain ⟨w, hw', hwc⟩ := holds_after hu ds
      rw [hw'] at hv
      cases hv
      rw [hwc, htc]
      exact hne
    · -- The call is about spline `j`, and done in both runs.
      have hkeep : [d].filter (fun d => d.subject q != some i) = [d] := by
        simp [hd, Ne.symm hij]
      rw [hkeep, after_cons, after_nil, after_cons, after_nil]
      exact alike_call (hw.after ds) (hw.after es) ih ht hd (fun k l hq => held_after hq)
        fun k hq => ⟨handle_after ds hq, handle_after es hq⟩

/-- Leaving out the calls about spline `i` makes no difference to spline `j`: not to the spline,
not to its configuration, and not to the answer of any call about it. -/
structure Spared (q : Pool Float) (i j : SplineId) (ds : List Call) : Prop where
  spline : (q.after (ds.filter fun d => d.subject q != some i)).splines[j]? =
    (q.after ds).splines[j]?
  config : ∀ t, (q.after ds).splines[j]? = some t →
    (q.after (ds.filter fun d => d.subject q != some i)).config t.config =
      (q.after ds).config t.config
  answers : ∀ c : Call, c.subject q = some j →
    ((q.after (ds.filter fun d => d.subject q != some i)).call c).answer =
      ((q.after ds).call c).answer

theorem spared {q : Pool Float} (hw : Wired q) {i j : SplineId} {s u : Spline Float}
    (hu : q.splines[i]? = some u) (hs : q.splines[j]? = some s) (hij : i ≠ j)
    (hne : u.config ≠ s.config) {ds : List Call}
    (hds : ∀ d ∈ ds, d.subject q = some i ∨ d.subject q = some j) : Spared q i j ds := by
  have h := alike_after hw hu hs hij hne hds
  exact ⟨h.spline, h.config, fun c hc => (shows_call h hc fun k l hq => held_after hq).1⟩

/-! ## Copies -/

/-- A spline and its copy: the same control points with their extension data, one owner, and no
curve yet. -/
structure IsCopy (s t : Spline Float) : Prop where
  kind : t.kind = s.kind
  points : t.plainPoints = s.plainPoints
  terms : t.terms = s.terms
  extensions : t.bends = s.bends
  owners : t.owners = 1
  stale : t.isFinalized = false
  alive : t.destroyed = false

theorem isCopy_duplicate {s : Spline Float} (ha : s.destroyed = false) (config : ConfigId) :
    IsCopy s (s.duplicate config) :=
  ⟨rfl, rfl, rfl, rfl, rfl, rfl, ha⟩

/-- Copying a live spline with a valid configuration leaves it as it is, and puts the copy behind
all others, with a configuration of its own that says the same. -/
theorem copy_live {p : Pool Float} {i : SplineId} {s : Spline Float} {settings : Settings}
    (hs : p.splines[i]? = some s) (ha : s.destroyed = false)
    (hv : ((p.config s.config).settings : Except (Fault Float) Settings) = .ok settings) :
    (p.clone i).answer = .ok p.splines.length ∧
      (p.call (.copy i)).state.splines[i]? = some s ∧
      (p.call (.copy i)).state.splines[p.splines.length]? = some (s.duplicate p.configs.length) ∧
      (p.call (.copy i)).state.config p.configs.length = p.config s.config := by
  have hclone := clone_live p hs ha
  rw [hv] at hclone
  have hlt := (List.getElem?_eq_some_iff.1 hs).1
  simp only [call, Run.state_map, hclone]
  exact ⟨trivial, (List.getElem?_append_left hlt).trans hs, List.getElem?_concat_length,
    by simp [config]⟩

/-- Live splines with the same control points and configurations that say the same are evaluated
alike. -/
theorem evaluate_eq_of_same {p q : Pool Float} {i j : SplineId} {s t : Spline Float}
    (hs : p.splines[i]? = some s) (ht : q.splines[j]? = some t) (cs : s.Coherent)
    (ct : t.Coherent) (hc : q.config t.config = p.config s.config)
    (hlazy : (p.config s.config).isOn .lazyFinalize = true) (hk : t.kind = s.kind)
    (hstore : t.store = s.store) (hg : t.shared = s.shared)
    (hd : t.destroyed = s.destroyed) (query : Datum) :
    (q.call (.spline j (.evaluate query))).answer =
      (p.call (.spline i (.evaluate query))).answer := by
  rw [answer_evaluate p hs, answer_evaluate q ht, hc,
    Spline.evaluate_congr cs ct hlazy (fun _ => rfl) hk hstore hg hd]

/-- **Copies.** A live spline with a valid configuration can be copied. The copy is a new spline
with the same control points, one owner and no curve; it holds a configuration of its own that
says the same, and evaluating it lazily gives the same answers. From then on the two have nothing
to do with each other: whatever calls about them follow, leaving out those about the one makes no
difference to the other. -/
theorem copy_independent {cs : List Call} {i : SplineId} {s : Spline Float} {settings : Settings}
    (hs : (fresh.after cs).splines[i]? = some s) (ha : s.destroyed = false)
    (hv : (((fresh.after cs).config s.config).settings : Except (Fault Float) Settings) =
      .ok settings) :
    ∃ j t, ((fresh.after cs).clone i).answer = .ok j ∧ (fresh.after cs).splines[j]? = none ∧
      (fresh.after (cs ++ [.copy i])).splines[i]? = some s ∧
      (fresh.after (cs ++ [.copy i])).splines[j]? = some t ∧ IsCopy s t ∧
      (fresh.after (cs ++ [.copy i])).config t.config = (fresh.after cs).config s.config ∧
      (((fresh.after cs).config s.config).isOn .lazyFinalize = true → ∀ query,
        ((fresh.after (cs ++ [.copy i])).call (.spline j (.evaluate query))).answer =
          ((fresh.after cs).call (.spline i (.evaluate query))).answer) ∧
      ∀ ds : List Call,
        (∀ d ∈ ds, d.subject (fresh.after (cs ++ [.copy i])) = some i ∨
          d.subject (fresh.after (cs ++ [.copy i])) = some j) →
        Spared (fresh.after (cs ++ [.copy i])) i j ds ∧
          Spared (fresh.after (cs ++ [.copy i])) j i ds := by
  have hw : Wired (fresh.after cs) := wired_after cs
  obtain ⟨hok, hold, hnew, hconf⟩ := copy_live hs ha hv
  have hq : fresh.after (cs ++ [.copy i]) = ((fresh.after cs).call (.copy i)).state :=
    after_append fresh cs [.copy i]
  have hw' : Wired (fresh.after (cs ++ [.copy i])) := wired_after _
  have coh : s.Coherent := invariant_after Spline.coherent_invariant cs i s hs
  have coh' := invariant_after Spline.coherent_invariant (cs ++ [.copy i]) _ _ (hq ▸ hnew)
  rw [← hq] at hold hnew hconf
  have hlt : i < (fresh.after cs).splines.length := (List.getElem?_eq_some_iff.1 hs).1
  have hne : s.config ≠ (fresh.after cs).configs.length := Nat.ne_of_lt (hw.splines i s hs)
  generalize fresh.after (cs ++ [.copy i]) = q at hold hnew hconf hw' ⊢
  refine ⟨_, _, hok, List.getElem?_eq_none_iff.2 (Nat.le_refl _), hold, hnew,
    isCopy_duplicate ha _, hconf, fun hlazy query => ?_, fun ds hds => ⟨?_, ?_⟩⟩
  · exact evaluate_eq_of_same hs hnew coh coh' hconf hlazy rfl rfl rfl rfl query
  · exact spared hw' hold hnew (Nat.ne_of_lt hlt) hne hds
  · exact spared hw' hnew hold (Nat.ne_of_gt hlt) hne.symm fun d hd => (hds d hd).symm

/-- A finalized spline that holds the default configuration, and its copy. The default is edited,
the copy gets another point, and the spline is destroyed; the copy can still be evaluated. -/
theorem copy_independent_default :
    let point (i : SplineId) (p v : Float) : Call :=
      .spline i (.insert (.float p) (.float v) (.ok (.shape 0.5)))
    let cs : List Call := [.create .basicX none, point 0 1.0 3.0, point 0 0.0 1.0,
      .spline 0 .finalize]
    let ds : List Call := [.editConfig 0 "lazy_finalize" (.bool false), point 1 2.0 0.0,
      .spline 0 .invalidate, .spline 1 (.evaluate (.float 0.5)), .release 0]
    Spared (fresh.after (cs ++ [.copy 0])) 0 1 ds ∧ Spared (fresh.after (cs ++ [.copy 0])) 1 0 ds ∧
      ((fresh.after (cs ++ [.copy 0] ++ ds)).splines.map fun s => (s.destroyed, s.isFinalized)) =
        [(true, false), (false, true)] := by
  intro point cs ds
  obtain ⟨s, hs⟩ : ∃ s, (fresh.after cs).splines[0]? = some s :=
    Option.isSome_iff_exists.1 (by decide +kernel)
  have fs : (fresh.after cs).splines[0]?.map (fun s => (s.destroyed, s.config)) =
      some (false, 0) := by decide +kernel
  simp only [hs, Option.map_some, Option.some.injEq, Prod.mk.injEq] at fs
  have hv : (((fresh.after cs).config s.config).settings : Except (Fault Float) Settings) =
      .ok { maxTerms := 5, lazyFinalize := true, clampShapes := true, extrapolate := true } := by
    rw [fs.2]
    rfl
  obtain ⟨j, t, hj, -, -, -, -, -, -, hfree⟩ := copy_independent hs fs.1 hv
  have hone : ((fresh.after cs).clone 0).answer.toOption = some 1 := by decide +kernel
  rw [hj] at hone
  obtain rfl : j = 1 := Option.some.inj hone
  obtain ⟨h0, h1⟩ := hfree ds (by decide +kernel)
  exact ⟨h0, h1, by decide +kernel⟩

end CurveKit.Pool
