import CurveKit.Proofs.Pool.Calls

/-!
# What a call on a pool does to its splines and handles

A call takes a reference to a spline, gives one back, destroys a spline, works on
one, makes a new one behind all others, or leaves the splines alone. Everything
that holds along a run of calls is read off these cases.

Results:
* `effect_call`: what a call does to a spline that is there.
* `made_call`: what a call makes, if it makes a spline.
* `handles_call`: which handles a call opens or closes.
-/
namespace CurveKit.Pool

namespace Call

/-- The spline that a call takes a reference to. -/
def acquired (p : Pool Float) : Call → Option SplineId
  | .acquire i => some i
  | .openHandle (some i) false => some i
  | .share h => (p.held h).toOption
  | _ => none

/-- The spline that a call gives a reference back to. -/
def released (p : Pool Float) : Call → Option SplineId
  | .release i => some i
  | .close h => (p.held h).toOption
  | _ => none

/-- The spline that a call copies. -/
def copied (p : Pool Float) : Call → Option SplineId
  | .copy i => some i
  | .copyHandle h => (p.held h).toOption
  | _ => none

def succeeds (p : Pool Float) (c : Call) : Bool := (p.call c).answer.isOk

end Call

/-- What a call can make of spline `j`, which is `s` before it. -/
inductive Effect (p : Pool Float) (c : Call) (j : SplineId) (s : Spline Float) :
    Spline Float → Prop
  | called (d : Spline.Call) (call : c = .spline j d) :
      Effect p c j s (s.call (p.config s.config) d).state
  | acquired (target : c.acquired p = some j) (alive : s.destroyed = false)
      (answer : c.succeeds p = true) : Effect p c j s { s with owners := s.owners + 1 }
  | released (target : c.released p = some j) (alive : s.destroyed = false) (shared : 1 < s.owners)
      (answer : (p.call c).answer = .ok (.flag false)) :
      Effect p c j s { s with owners := s.owners - 1 }
  | ended (target : c.released p = some j) (alive : s.destroyed = false) (last : s.owners ≤ 1)
      (answer : (p.call c).answer = .ok (.flag true)) : Effect p c j s s.teardown
  | refused (target : c.acquired p = some j ∨ c.released p = some j) (dead : s.destroyed = true)
      (answer : c.succeeds p = false) : Effect p c j s s
  | destroyed (target : c = .destroy j) (alive : s.destroyed = false) : Effect p c j s s.teardown
  | destroyedAgain (target : c = .destroy j) (dead : s.destroyed = true) : Effect p c j s s
  | untouched (call : ∀ d, c ≠ .spline j d) (acquired : c.acquired p ≠ some j)
      (released : c.released p ≠ some j) (destroy : c ≠ .destroy j) : Effect p c j s s

/-- What a call can make behind the splines that are there, and behind the configurations. -/
inductive Made (p : Pool Float) (c : Call) : Spline Float → List Config → Prop
  | made {kind : Kind} {config : Option Config} (call : c = .make kind config) :
      Made p c (.empty kind (config.elim p.default fun _ => p.configs.length)) config.toList
  | created {kind : Kind} {config : Option Config} (call : c = .create kind config) :
      Made p c
        { Spline.empty kind (config.elim p.default fun _ => p.configs.length) with owners := 1 }
        config.toList
  | copied {i : SplineId} {s : Spline Float} (call : c.copied p = some i)
      (source : p.splines[i]? = some s) (alive : s.destroyed = false) :
      Made p c (s.duplicate p.configs.length) [p.config s.config]

section Handles

variable (p : Pool Float) {h : HandleId} {i : SplineId}

theorem handle_of_held (hh : p.held h = .ok i) : p.handles[h]? = some (some i) := by
  unfold held at hh
  split at hh
  · cases hh
    assumption
  · cases hh
  · cases hh

theorem held_of_handle (hh : p.handles[h]? = some (some i)) : p.held h = .ok i := by
  simp [held, hh]

theorem held_toOption : (p.held h).toOption = some i ↔ p.handles[h]? = some (some i) := by
  constructor
  · intro hh
    cases hp : p.held h with
    | error f => simp [hp, Except.toOption] at hh
    | ok j =>
      simp only [hp, Except.toOption, Option.some.injEq] at hh
      exact hh ▸ handle_of_held p hp
  · intro hh
    rw [held_of_handle p hh]
    rfl

end Handles

theorem release_handles (p : Pool Float) (hs : List (Option SplineId)) (i : SplineId) :
    { p with handles := hs }.release i =
      { p.release i with state := { (p.release i).state with handles := hs } } := by
  unfold release on
  dsimp only
  cases p.splines[i]? with
  | none => rfl
  | some s => rfl

/-! ## Taking references and giving them back -/

section Targets

variable {p : Pool Float} {c : Call} {i j : SplineId}

theorem openHandle_false (p : Pool Float) (i : SplineId) :
    p.openHandle (some i) false = (p.acquire i).andThen fun _ q =>
      .done { q with handles := q.handles ++ [some i] } q.handles.length := rfl

theorem openHandle_acquires (p : Pool Float) (i : SplineId) :
    (p.openHandle (some i) false).state.splines = (p.acquire i).state.splines ∧
      (p.openHandle (some i) false).answer.isOk = (p.acquire i).answer.isOk := by
  rw [openHandle_false]
  cases h : (p.acquire i).answer with
  | error f => rw [Run.andThen_error h]; exact ⟨rfl, rfl⟩
  | ok a => rw [Run.andThen_ok h]; exact ⟨rfl, rfl⟩

theorem share_of_held {h : HandleId} (hh : p.held h = .ok i) :
    p.share h = p.openHandle (some i) false := by
  simp [share, hh, Run.ask, Run.andThen]

theorem share_of_not_held {h : HandleId} {f : Fault Float} (hh : p.held h = .error f) :
    p.share h = .fail p f := by
  simp [share, hh, Run.ask, Run.andThen, Run.fail]

theorem close_of_held {h : HandleId} (hh : p.held h = .ok i) :
    p.close h = { p.release i with
      state := { (p.release i).state with handles := p.handles.set h none } } := by
  simp [close, handle_of_held p hh, release_handles]

theorem close_of_not_held {h : HandleId} {f : Fault Float} (hh : p.held h = .error f) :
    (p.close h).state = p ∧ (p.close h).events = [] := by
  unfold held at hh
  unfold close
  split at hh
  · cases hh
  · rename_i hn; rw [hn]; exact ⟨rfl, rfl⟩
  · rename_i hn; rw [hn]; exact ⟨rfl, rfl⟩

theorem isOk_map {ε α β : Type} (x : Except ε α) (f : α → β) : (x.map f).isOk = x.isOk := by
  cases x <;> rfl

/-- All calls that take a reference do what `acquire` does. -/
theorem call_of_acquired (h : c.acquired p = some i) :
    (p.call c).state.splines = (p.acquire i).state.splines ∧
      c.succeeds p = (p.acquire i).answer.isOk := by
  cases c with
  | acquire k =>
    cases h
    exact ⟨rfl, isOk_map _ _⟩
  | openHandle target adopt =>
    cases target with
    | none => cases h
    | some k =>
      cases adopt with
      | true => cases h
      | false =>
        cases h
        exact ⟨(openHandle_acquires p i).1, (isOk_map _ _).trans (openHandle_acquires p i).2⟩
  | share k =>
    have hh : p.held k = .ok i := held_of_handle p ((held_toOption p).1 h)
    simp only [call, Call.succeeds, share_of_held hh, Run.state_map]
    exact ⟨(openHandle_acquires p i).1, (isOk_map _ _).trans (openHandle_acquires p i).2⟩
  | _ => cases h

theorem call_of_released (h : c.released p = some i) :
    (p.call c).state.splines = (p.release i).state.splines ∧
      (p.call c).answer = (p.release i).answer.map .flag ∧
      (p.call c).events = (p.release i).events := by
  cases c with
  | release k =>
    cases h
    exact ⟨rfl, rfl, rfl⟩
  | close k =>
    have hh : p.held k = .ok i := held_of_handle p ((held_toOption p).1 h)
    rw [call, close_of_held hh]
    exact ⟨rfl, rfl, rfl⟩
  | _ => cases h

theorem released_of_acquired (h : c.acquired p = some i) : c.released p = none := by
  cases c with
  | release k => cases h
  | close k => cases h
  | _ => rfl

theorem ne_destroy_of_acquired (h : c.acquired p = some i) (k : SplineId) : c ≠ .destroy k := by
  rintro rfl
  cases h

theorem ne_destroy_of_released (h : c.released p = some i) (k : SplineId) : c ≠ .destroy k := by
  rintro rfl
  cases h

end Targets

/-! ## Splines that are there -/

section Effects

variable {p : Pool Float} {c : Call} {i j : SplineId} {s : Spline Float}

theorem effect_of_acquired (hs : p.splines[j]? = some s) (ht : c.acquired p = some i) :
    ∃ t, (p.call c).state.splines[j]? = some t ∧ Effect p c j s t := by
  obtain ⟨hq, ha⟩ := call_of_acquired ht
  have untouched : i ≠ j → Effect p c j s s := fun hij =>
    .untouched (by rintro d rfl; cases ht) (by simpa [ht] using hij)
      (by simp [released_of_acquired ht]) (ne_destroy_of_acquired ht j)
  cases hi : p.splines[i]? with
  | none =>
    refine ⟨s, by rw [hq, (owners_of_none p hi).1]; exact hs, untouched ?_⟩
    rintro rfl
    rw [hs] at hi; cases hi
  | some u =>
    cases hu : u.destroyed with
    | true =>
      refine ⟨s, by rw [hq, acquire_dead p hi hu]; exact hs, ?_⟩
      by_cases hij : i = j
      · subst hij
        rw [hs] at hi; cases hi
        exact .refused (.inl ht) hu (by rw [ha, acquire_dead p hs hu]; rfl)
      · exact untouched hij
    | false =>
      rw [hq, acquire_live p hi hu]
      by_cases hij : i = j
      · subst hij
        rw [hs] at hi; cases hi
        refine ⟨_, List.getElem?_set_self (List.getElem?_eq_some_iff.1 hs).1, .acquired ht hu ?_⟩
        rw [ha, acquire_live p hs hu]; rfl
      · exact ⟨s, by rw [List.getElem?_set_ne hij]; exact hs, untouched hij⟩

theorem effect_of_released (hs : p.splines[j]? = some s) (ht : c.released p = some i) :
    ∃ t, (p.call c).state.splines[j]? = some t ∧ Effect p c j s t := by
  obtain ⟨hq, ha, -⟩ := call_of_released ht
  have untouched : i ≠ j → Effect p c j s s := fun hij =>
    .untouched (by rintro d rfl; cases ht)
      (fun h => by rw [released_of_acquired h] at ht; cases ht) (by simpa [ht] using hij)
      (ne_destroy_of_released ht j)
  cases hi : p.splines[i]? with
  | none =>
    refine ⟨s, by rw [hq, (owners_of_none p hi).2.1]; exact hs, untouched ?_⟩
    rintro rfl
    rw [hs] at hi; cases hi
  | some u =>
    by_cases hij : i = j
    · subst hij
      rw [hs] at hi; cases hi
      have hlt := (List.getElem?_eq_some_iff.1 hs).1
      cases hu : s.destroyed with
      | true =>
        refine ⟨s, by rw [hq, release_dead p hs hu]; exact hs, .refused (.inr ht) hu ?_⟩
        rw [Call.succeeds, ha, release_dead p hs hu]; rfl
      | false =>
        by_cases hn : 1 < s.owners
        · rw [release_shared p hs hu hn] at ha hq
          exact ⟨_, by rw [hq]; exact List.getElem?_set_self hlt, .released ht hu hn ha⟩
        · rw [release_last p hs hu (by omega)] at ha hq
          exact ⟨_, by rw [hq]; exact List.getElem?_set_self hlt, .ended ht hu (by omega) ha⟩
    · refine ⟨s, ?_, untouched hij⟩
      have hne : ∀ t, (p.splines.set i t)[j]? = some s := fun t => by
        rw [List.getElem?_set_ne hij]; exact hs
      cases hu : u.destroyed with
      | true => rw [hq, release_dead p hi hu]; exact hs
      | false =>
        by_cases hn : 1 < u.owners
        · rw [hq, release_shared p hi hu hn]; exact hne _
        · rw [hq, release_last p hi hu (by omega)]; exact hne _

theorem getElem?_clone (hs : p.splines[j]? = some s) (i : SplineId) :
    (p.clone i).state.splines[j]? = some s := by
  rcases p.clone_eq i with ⟨f, h⟩ | ⟨u, -, -, h⟩
  · rw [h]; exact hs
  · rw [h]; exact (List.getElem?_append_left (List.getElem?_eq_some_iff.1 hs).1).trans hs

theorem cloneHandle_of_held {h : HandleId} (hh : p.held h = .ok i) :
    p.cloneHandle h = (p.clone i).andThen fun j r => r.openHandle (some j) true := by
  unfold cloneHandle
  rw [hh]
  rfl

theorem cloneHandle_of_not_held {h : HandleId} {f : Fault Float} (hh : p.held h = .error f) :
    p.cloneHandle h = .fail p f := by
  simp [cloneHandle, hh, Run.ask, Run.andThen, Run.fail]

theorem splines_cloneHandle {h : HandleId} (hh : p.held h = .ok i) :
    (p.cloneHandle h).state.splines = (p.clone i).state.splines := by
  rw [cloneHandle_of_held hh]
  rcases Run.state_andThen (p.clone i) fun j r => r.openHandle (some j) true with h | ⟨a, -, h⟩
  · rw [h]
  · rw [h]; rfl

/-- **One call.** What a call does to a spline that is there. -/
theorem effect_call (c : Call) (hs : p.splines[j]? = some s) :
    ∃ t, (p.call c).state.splines[j]? = some t ∧ Effect p c j s t := by
  have hlt := (List.getElem?_eq_some_iff.1 hs).1
  cases ht : c.acquired p with
  | some i => exact effect_of_acquired hs ht
  | none => ?_
  cases hr : c.released p with
  | some i => exact effect_of_released hs hr
  | none => ?_
  -- No reference is taken or given back; `stays` is for calls that leave spline `j` alone.
  have stays (hc : ∀ d, c ≠ .spline j d) (hd : c ≠ .destroy j)
      (h : (p.call c).state.splines[j]? = some s) :
      ∃ t, (p.call c).state.splines[j]? = some t ∧ Effect p c j s t :=
    ⟨s, h, .untouched hc (by simp [ht]) (by simp [hr]) hd⟩
  cases c with
  | make kind config =>
    refine stays nofun nofun ?_
    rcases p.make_eq kind config with ⟨f, h⟩ | h
    · simpa [call, h] using hs
    · simpa [call, h, List.getElem?_append_left hlt] using hs
  | create kind config =>
    refine stays nofun nofun ?_
    rcases p.create_eq kind config with ⟨f, h⟩ | h
    · simpa [call, h] using hs
    · simpa [call, h, List.getElem?_append_left hlt] using hs
  | copy i => exact stays nofun nofun (getElem?_clone hs i)
  | spline i d =>
    cases hi : p.splines[i]? with
    | none =>
      refine stays ?_ nofun (by simpa [call, on_of_none p hi] using hs)
      rintro d' ⟨⟩
      rw [hs] at hi; cases hi
    | some u =>
      by_cases hij : i = j
      · subst hij
        rw [hs] at hi; cases hi
        exact ⟨_, by simp [call, on_of_some p hs, hlt], .called d rfl⟩
      · refine stays ?_ nofun (by simpa [call, on_of_some p hi, hij] using hs)
        rintro d' ⟨⟩
        exact hij rfl
  | destroy i =>
    cases hi : p.splines[i]? with
    | none =>
      refine stays nofun ?_ (by simpa [call, (owners_of_none p hi).2.2] using hs)
      rintro ⟨⟩
      rw [hs] at hi; cases hi
    | some u =>
      by_cases hij : i = j
      · subst hij
        rw [hs] at hi; cases hi
        cases hu : s.destroyed with
        | true => exact ⟨s, by simpa [call, destroy_dead p hs hu] using hs, .destroyedAgain rfl hu⟩
        | false => exact ⟨_, by simp [call, destroy_live p hs hu, hlt], .destroyed rfl hu⟩
      · refine stays nofun (by simpa using hij) ?_
        cases hu : u.destroyed with
        | true => simpa [call, destroy_dead p hi hu] using hs
        | false => simpa [call, destroy_live p hi hu, hij] using hs
  | openHandle target adopt =>
    cases target with
    | none => exact stays nofun nofun hs
    | some i =>
      cases adopt with
      | true => exact stays nofun nofun hs
      | false => cases ht
  | acquire i => cases ht
  | release i => cases hr
  | share h =>
    cases hh : p.held h with
    | error f => exact stays nofun nofun (by simpa [call, share_of_not_held hh] using hs)
    | ok i => simp [Call.acquired, hh, Except.toOption] at ht
  | copyHandle h =>
    refine stays nofun nofun ?_
    cases hh : p.held h with
    | error f => simpa [call, cloneHandle_of_not_held hh] using hs
    | ok i =>
      simp only [call, Run.state_map, splines_cloneHandle hh]
      exact getElem?_clone hs i
  | close h =>
    cases hh : p.held h with
    | error f => exact stays nofun nofun (by simpa [call, (close_of_not_held hh).1] using hs)
    | ok i => simp [Call.released, hh, Except.toOption] at hr
  | setDefault config =>
    refine stays nofun nofun ?_
    simp only [call, Run.state_map, setDefault]
    split <;> exact hs
  | editConfig i key d =>
    refine stays nofun nofun ?_
    simp only [call]
    split <;> exact hs

end Effects

/-! ## Splines that are new -/

section Making

variable (p : Pool Float) {c : Call} {j : SplineId} {t : Spline Float}

@[simp] theorem length_on {α : Type} (i : SplineId)
    (operation : Config → Spline Float → Run Float (Spline Float) α) :
    (p.on i operation).state.splines.length = p.splines.length := by
  unfold on
  split
  · rfl
  · exact List.length_set

@[simp] theorem handles_on {α : Type} (i : SplineId)
    (operation : Config → Spline Float → Run Float (Spline Float) α) :
    (p.on i operation).state.handles = p.handles := by
  unfold on
  split <;> rfl

@[simp] theorem length_acquire (i : SplineId) :
    (p.acquire i).state.splines.length = p.splines.length := p.length_on i _

@[simp] theorem length_release (i : SplineId) :
    (p.release i).state.splines.length = p.splines.length := p.length_on i _

theorem succeeds_of_ok {a : Answer} (h : (p.call c).answer = .ok a) : c.succeeds p = true := by
  rw [Call.succeeds, h]
  rfl

/-- A call makes at most one spline, and puts it behind all others. -/
theorem splines_call (c : Call) :
    (p.call c).state.splines.length = p.splines.length ∨
      ∃ t new, Made p c t new ∧ c.succeeds p = true ∧
        (p.call c).state.splines = p.splines ++ [t] ∧
        (p.call c).state.configs = p.configs ++ new := by
  cases c with
  | make kind config =>
    rcases p.make_eq kind config with ⟨f, h⟩ | h
    · exact .inl (by simp [call, h])
    · exact .inr ⟨_, _, .made rfl, p.succeeds_of_ok (by simp [call, Run.map, h, Except.map]; rfl),
        by simp only [call, Run.state_map, h], by simp only [call, Run.state_map, h]⟩
  | create kind config =>
    rcases p.create_eq kind config with ⟨f, h⟩ | h
    · exact .inl (by simp [call, h])
    · exact .inr ⟨_, _, .created rfl,
        p.succeeds_of_ok (by simp [call, Run.map, h, Except.map]; rfl),
        by simp only [call, Run.state_map, h], by simp only [call, Run.state_map, h]⟩
  | copy i =>
    rcases p.clone_eq i with ⟨f, h⟩ | ⟨s, hs, ha, h⟩
    · exact .inl (by simp [call, h])
    · exact .inr ⟨_, _, .copied rfl hs ha,
        p.succeeds_of_ok (by simp [call, Run.map, h, Except.map]; rfl),
        by simp only [call, Run.state_map, h], by simp only [call, Run.state_map, h]⟩
  | copyHandle h =>
    cases hh : p.held h with
    | error f => exact .inl (by simp [call, cloneHandle_of_not_held hh])
    | ok i =>
      rcases p.clone_eq i with ⟨f, hc⟩ | ⟨s, hs, ha, hc⟩
      · exact .inl (by simp [call, splines_cloneHandle hh, hc])
      · refine .inr ⟨_, _, .copied (by simp [Call.copied, hh, Except.toOption]) hs ha,
          p.succeeds_of_ok (a := .nothing) ?_, ?_, ?_⟩
        · simp only [call, Run.map, cloneHandle_of_held hh, hc]
          rfl
        · simp only [call, Run.state_map, splines_cloneHandle hh, hc]
        · simp only [call, Run.state_map, cloneHandle_of_held hh, hc]
          rfl
  | spline i d => exact .inl (p.length_on i _)
  | acquire i => exact .inl (p.length_on i _)
  | release i => exact .inl (p.length_on i _)
  | destroy i => exact .inl (p.length_on i _)
  | openHandle spline adopt =>
    left
    cases spline with
    | none => rfl
    | some i =>
      cases adopt with
      | true => rfl
      | false => simp only [call, Run.state_map, (openHandle_acquires p i).1, length_acquire]
  | share h =>
    left
    cases hh : p.held h with
    | error f => simp [call, share_of_not_held hh]
    | ok i => simp only [call, Run.state_map, share_of_held hh, (openHandle_acquires p i).1,
        length_acquire]
  | close h =>
    left
    cases hh : p.held h with
    | error f => simp [call, (close_of_not_held hh).1]
    | ok i => simp only [call, Run.state_map, close_of_held hh, length_release]
  | setDefault config =>
    left
    simp only [call, Run.state_map, setDefault]
    split <;> rfl
  | editConfig i key d =>
    left
    simp only [call]
    split <;> rfl

/-- A spline behind all others is one that the call has made. -/
theorem made_call (hj : p.splines[j]? = none) (ht : (p.call c).state.splines[j]? = some t) :
    j = p.splines.length ∧ c.succeeds p = true ∧
      ∃ new, Made p c t new ∧ (p.call c).state.configs = p.configs ++ new := by
  have hge : p.splines.length ≤ j := List.getElem?_eq_none_iff.1 hj
  have hlt := (List.getElem?_eq_some_iff.1 ht).1
  rcases p.splines_call c with h | ⟨u, new, hu, ha, h, hc⟩
  · exact absurd hlt (by omega)
  · rw [h, List.length_append, List.length_singleton] at hlt
    obtain rfl : j = p.splines.length := Nat.le_antisymm (Nat.lt_succ_iff.1 hlt) hge
    rw [h, List.getElem?_concat_length, Option.some.injEq] at ht
    exact ⟨rfl, ha, new, ht ▸ hu, hc⟩

end Making

/-! ## Handles -/

/-- What a call opens handles on; nothing stands for a handle that is closed from the start. -/
def Call.opens (p : Pool Float) (c : Call) : List (Option SplineId) :=
  if c.succeeds p then
    match c with
    | .openHandle target _ => [target]
    | .share h => [(p.held h).toOption]
    | .copyHandle _ => [some p.splines.length]
    | _ => []
  else []

section Handles

variable (p : Pool Float)

theorem handles_make (kind : Kind) (config : Option Config) :
    (p.make kind config).state.handles = p.handles := by
  rcases p.make_eq kind config with ⟨f, h⟩ | h
  · rw [h]; rfl
  · rw [h]

theorem handles_create (kind : Kind) (config : Option Config) :
    (p.create kind config).state.handles = p.handles := by
  rcases p.create_eq kind config with ⟨f, h⟩ | h
  · rw [h]; rfl
  · rw [h]

theorem handles_clone (i : SplineId) : (p.clone i).state.handles = p.handles := by
  rcases p.clone_eq i with ⟨f, h⟩ | ⟨s, -, -, h⟩
  · rw [h]; rfl
  · rw [h]

theorem handles_openHandle (i : SplineId) :
    (p.openHandle (some i) false).state.handles =
      p.handles ++ if (p.openHandle (some i) false).answer.isOk then [some i] else [] := by
  rw [openHandle_false]
  cases h : (p.acquire i).answer with
  | error f => rw [Run.andThen_error h]; simp [acquire, Except.isOk, Except.toBool]
  | ok a =>
    rw [Run.andThen_ok h]
    simp [acquire, Run.done, Except.isOk, Except.toBool]

theorem handles_close (h : HandleId) : (p.close h).state.handles = p.handles.set h none := by
  unfold close
  split
  · rename_i hn
    exact (List.set_eq_of_length_le (List.getElem?_eq_none_iff.1 hn)).symm
  · rename_i hn
    exact (set_self hn).symm
  · simp [release]

/-- A call opens handles behind all others; only `close` closes one. -/
theorem handles_call (c : Call) (hc : ∀ h, c ≠ .close h) :
    (p.call c).state.handles = p.handles ++ c.opens p := by
  cases c with
  | make kind config => simpa [Call.opens, call] using p.handles_make kind config
  | create kind config => simpa [Call.opens, call] using p.handles_create kind config
  | copy i => simpa [Call.opens, call] using p.handles_clone i
  | spline i d => simp [Call.opens, call]
  | acquire i => simp [Call.opens, call, acquire]
  | release i => simp [Call.opens, call, release]
  | destroy i => simp [Call.opens, call, destroy]
  | openHandle target adopt =>
    cases target with
    | none => rfl
    | some i =>
      cases adopt with
      | true => rfl
      | false =>
        simpa [Call.opens, Call.succeeds, call, Run.map, isOk_map] using p.handles_openHandle i
  | share h =>
    cases hh : p.held h with
    | error f => simp [Call.opens, Call.succeeds, call, share_of_not_held hh, Run.map, Run.fail,
        Except.map, Except.isOk, Except.toBool]
    | ok i =>
      simpa [Call.opens, Call.succeeds, call, share_of_held hh, Run.map, isOk_map, hh,
        Except.toOption] using p.handles_openHandle i
  | copyHandle h =>
    cases hh : p.held h with
    | error f => simp [Call.opens, Call.succeeds, call, cloneHandle_of_not_held hh, Run.map,
        Run.fail, Except.map, Except.isOk, Except.toBool]
    | ok i =>
      rcases p.clone_eq i with ⟨f, hc⟩ | ⟨s, -, -, hc⟩
      · simp [Call.opens, Call.succeeds, call, cloneHandle_of_held hh, hc, Run.map, Run.andThen,
          Run.fail, Except.map, Except.isOk, Except.toBool]
      · simp [Call.opens, Call.succeeds, call, cloneHandle_of_held hh, hc, Run.map, Run.andThen,
          openHandle, Run.done, Except.map, Except.isOk, Except.toBool]
  | close h => exact absurd rfl (hc h)
  | setDefault config =>
    simp only [Call.opens, call, Run.state_map, setDefault]
    split <;> simp [Run.fail]
  | editConfig i key d =>
    simp only [Call.opens, call]
    split <;> simp [Run.fail, Run.done, editConfig]

end Handles

end CurveKit.Pool
