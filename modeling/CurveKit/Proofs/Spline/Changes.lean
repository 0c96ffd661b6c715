import CurveKit.Session

/-!
# What a call does to a spline

A caller adds control points to a spline, finalizes and evaluates it, or gives up
its curve. `Spline.call` is one such call; none of them touches the owners.

Results:
* `insert_eq_ok`: what holds when a control point is accepted, and what it leaves.
* `call_insert_ok`, `call_insert_error`: an accepted control point and a refused one.
* `change_call`: a call leaves the spline as it is, adds an accepted control point, makes the
  curve of the current control points, or gives the curve up.
-/
namespace CurveKit

inductive Spline.Call where
  /-- Adds a control point. The extension data may have been read from untyped data before all
  else; then that reading may have failed. -/
  | insert (parameter value : Datum) (extension : Except (Fault Float) (Extension Float))
  | finalize
  | invalidate
  | get (parameter : Datum)
  | evaluate (parameter : Datum)
  | range (parameters : Datum)
  | uniform (samples margin : Datum)

namespace Spline

def call (config : Config) (s : Spline Float) : Call → Run Float (Spline Float) Answer
  | .insert parameter value extension =>
    match extension with
    | .error f => .fail s f
    | .ok e => (s.insertData config parameter value e).map .index
  | .finalize => s.finalize.map fun _ => .flag true
  | .invalidate => .done s.invalidate .nothing
  | .get parameter => (Run.ask s (s.get config parameter.parameter)).map .vector
  | .evaluate parameter =>
    (s.evaluate config parameter.parameter).map fun v => .evaluation v.1 v.2
  | .range parameters => (s.evaluateRange config parameters).map .grid
  | .uniform samples margin => (s.sampleUniform config samples margin).map .samples

end Spline

/-! ## Runs -/

namespace Run

variable {K σ α β : Type}

@[simp] theorem state_map (r : Run K σ α) (f : α → β) : (r.map f).state = r.state := rfl

@[simp] theorem state_fail (s : σ) (f : Fault K) : (fail s f : Run K σ α).state = s := rfl

theorem andThen_ok {r : Run K σ α} {a : α} (h : r.answer = .ok a) (next : α → σ → Run K σ β) :
    r.andThen next = ⟨(next a r.state).answer, (next a r.state).state,
      r.events ++ (next a r.state).events⟩ := by
  simp [andThen, h]

theorem andThen_error {r : Run K σ α} {f : Fault K} (h : r.answer = .error f)
    (next : α → σ → Run K σ β) : r.andThen next = ⟨.error f, r.state, r.events⟩ := by
  simp [andThen, h]

/-- An operation behind another one has run on what that one left, or not at all. -/
theorem state_andThen (r : Run K σ α) (next : α → σ → Run K σ β) :
    (r.andThen next).state = r.state ∨ ∃ a, r.answer = .ok a ∧
      (r.andThen next).state = (next a r.state).state := by
  cases h : r.answer with
  | error f => left; rw [andThen_error h]
  | ok a => right; exact ⟨a, rfl, by rw [andThen_ok h]⟩

@[simp] theorem state_andThen_ask (r : Run K σ α) (question : α → σ → Except (Fault K) β) :
    (r.andThen fun a s => ask s (question a s)).state = r.state := by
  rcases r.state_andThen fun a s => ask s (question a s) with h | ⟨a, -, h⟩
  · exact h
  · exact h

theorem answer_andThen_ask (r : Run K σ α) (question : α → σ → Except (Fault K) β) :
    (r.andThen fun a s => ask s (question a s)).answer = r.answer >>= (question · r.state) := by
  cases h : r.answer with
  | error f => rw [andThen_error h]; rfl
  | ok a => rw [andThen_ok h]; rfl

end Run

/-! ## Finalizing and evaluating -/

namespace Spline

section Generic

variable {K : Type} [Scalar K] (config : Config) (s : Spline K)

theorem state_refresh : (s.refresh config).state = s ∨
    ∃ c, s.build = .ok c ∧ (s.refresh config).state = { s with curve := some c } := by
  unfold refresh
  split
  · cases hb : s.build with
    | error f => left; rw [finalize_of_error hb]; rfl
    | ok c => right; exact ⟨c, rfl, by rw [finalize_of_build hb]⟩
  · exact .inl rfl

theorem refresh_refresh :
    ((s.refresh config).state.refresh config).state = (s.refresh config).state := by
  rcases state_refresh config s with h | ⟨c, -, h⟩
  · rw [h, h]
  · rw [h, refresh_of_isFinalized config (s := { s with curve := some c }) rfl]
    rfl

@[simp] theorem state_evaluate (t : Reading K) :
    (s.evaluate config t).state = (s.refresh config).state := by
  unfold evaluate
  rw [Run.state_andThen_ask]

theorem state_evaluateAll_of_refreshed {s : Spline K} (hs : (s.refresh config).state = s)
    (ts : List K) : (s.evaluateAll config ts).state = s := by
  induction ts with
  | nil => rfl
  | cons t ts ih =>
    have hfirst : (s.evaluate config (.ofScalar parameterName t)).state = s := by
      rw [state_evaluate, hs]
    rw [evaluateAll_cons]
    rcases Run.state_andThen (s.evaluate config (.ofScalar parameterName t)) fun v s =>
      (s.evaluateAll config ts).map (v.1 :: ·) with h | ⟨v, -, h⟩
    · rw [h, hfirst]
    · rw [h, Run.state_map, hfirst, ih]

theorem state_evaluateAll_cons (t : K) (ts : List K) :
    (s.evaluateAll config (t :: ts)).state = (s.refresh config).state := by
  rw [evaluateAll_cons]
  rcases Run.state_andThen (s.evaluate config (.ofScalar parameterName t)) fun v s =>
    (s.evaluateAll config ts).map (v.1 :: ·) with h | ⟨v, -, h⟩
  · rw [h, state_evaluate]
  · rw [h, Run.state_map, state_evaluate]
    exact state_evaluateAll_of_refreshed config (refresh_refresh config s) ts

theorem state_evaluateAll (ts : List K) : (s.evaluateAll config ts).state = s ∨
    (s.evaluateAll config ts).state = (s.refresh config).state := by
  cases ts with
  | nil => exact .inl rfl
  | cons t ts => exact .inr (state_evaluateAll_cons config s t ts)

theorem state_sample (samples : Except (Fault K) Nat) (margin : Reading K) :
    (s.sample config samples margin).state = s ∨
      (s.sample config samples margin).state = (s.refresh config).state := by
  unfold sample
  dsimp only
  split
  · exact .inl rfl
  · unfold sampleBetween
    dsimp only
    split
    · right; exact state_evaluate config s _
    · simpa only [evaluateGrid, Run.state_map] using state_evaluateAll config s _

end Generic

/-! ## Adding control points -/

section Generic

variable {K : Type} [Scalar K]

omit [Scalar K] in
theorem checkAlive_eq_ok {s : Spline K} : s.checkAlive = .ok () ↔ s.destroyed = false := by
  unfold checkAlive
  cases s.destroyed <;> simp

omit [Scalar K] in
theorem checkWidth_eq_ok {s : Spline K} {value : List K} :
    s.checkWidth value = .ok () ↔ (s.terms ≠ 0 → value.length = s.terms) := by
  unfold checkWidth
  by_cases ht : s.terms = 0
  · simp [ht]
  · by_cases hl : value.length = s.terms <;> simp [ht, hl]

/-- An accepted control point comes to a live spline, with data that passed all checks. -/
theorem insert_eq_ok {clamp : Bool} {s : Spline K} {parameter : Reading K}
    {value : Except (Fault K) (List K)} {e : Extension K} {i : Nat}
    (h : (s.insert clamp parameter value e).answer = .ok i) :
    ∃ p v bend events, s.destroyed = false ∧ checkPresence s.kind e = .ok () ∧
      parameter = .ok p ∧ value = .ok v ∧ (s.terms ≠ 0 → v.length = s.terms) ∧
      checkBend clamp s.kind e = .ok (bend, events) ∧
      s.insert clamp parameter value e =
        ⟨.ok (s.store.place p), s.place p v bend, events⟩ := by
  rcases s.insert_cases clamp parameter value e with
    ⟨f, hf⟩ | ⟨p, v, bend, events, ha, he, hp, hv, hw, hb, hr⟩
  · rw [hf] at h
    cases h
  · exact ⟨p, v, bend, events, checkAlive_eq_ok.1 ha, he, hp, hv, checkWidth_eq_ok.1 hw, hb, hr⟩

/-- A refused control point leaves no trace, neither in the spline nor in the log. -/
theorem insert_eq_error {clamp : Bool} {s : Spline K} {parameter : Reading K}
    {value : Except (Fault K) (List K)} {e : Extension K} {f : Fault K}
    (h : (s.insert clamp parameter value e).answer = .error f) :
    s.insert clamp parameter value e = .fail s f := by
  rcases s.insert_cases clamp parameter value e with
    ⟨g, hg⟩ | ⟨p, v, bend, events, -, -, -, -, -, -, hr⟩
  · rw [hg] at h ⊢
    cases h
    rfl
  · rw [hr] at h
    cases h

theorem insert_of_ok {clamp : Bool} {s : Spline K} {p : K} {v : List K} {e : Extension K}
    {bend : Bend K} {events : List (Event K)} (alive : s.destroyed = false)
    (presence : checkPresence s.kind e = .ok ()) (width : s.terms ≠ 0 → v.length = s.terms)
    (check : checkBend clamp s.kind e = .ok (bend, events)) :
    s.insert clamp (.ok p) (.ok v) e = ⟨.ok (s.store.place p), s.place p v bend, events⟩ := by
  rw [insert, checkAlive_eq_ok.2 alive, Run.ask_ok_andThen, presence, Run.ask_ok_andThen,
    Run.ask_ok_andThen, Run.ask_ok_andThen, checkWidth_eq_ok.2 width, Run.ask_ok_andThen, check,
    Run.log_ok_andThen, putPoint_andThen]
  exact congrArg (Run.mk _ _) (List.append_nil events)

end Generic

/-! ## What a call leaves -/

/-- What a call that adds no control point can make of a spline. -/
inductive Recurved (s : Spline Float) : Spline Float → Prop
  | kept : Recurved s s
  | rebuilt {c : Curve Float} (build : s.build = .ok c) : Recurved s { s with curve := some c }
  | invalidated : Recurved s s.invalidate

/-- What a call can make of a spline. -/
inductive Change (config : Config) (s : Spline Float) : Spline Float → Prop
  | recurved {t : Spline Float} (curve : Recurved s t) : Change config s t
  | placed {p : Float} {v : List Float} {e : Extension Float} {i : Nat}
      (finite : p.isFinite = true) (nonempty : v ≠ [])
      (accepted : (s.insert (config.isOn .clampShapes) (.ok p) (.ok v) e).answer = .ok i) :
      Change config s (s.insert (config.isOn .clampShapes) (.ok p) (.ok v) e).state

/-- A call keeps the kind, the configuration and the owners of a spline, and its life. -/
theorem Change.same {config : Config} {s t : Spline Float} (h : Change config s t) :
    t.kind = s.kind ∧ t.config = s.config ∧ t.owners = s.owners ∧ t.destroyed = s.destroyed := by
  cases h with
  | recurved h => cases h <;> exact ⟨rfl, rfl, rfl, rfl⟩
  | placed _ _ accepted =>
    obtain ⟨p, v, bend, events, -, -, -, -, -, -, hr⟩ := insert_eq_ok accepted
    rw [hr]
    exact ⟨rfl, rfl, rfl, rfl⟩

theorem Recurved.points {s t : Spline Float} (h : Recurved s t) :
    t.store = s.store ∧ t.shared = s.shared := by
  cases h <;> exact ⟨rfl, rfl⟩

/-- A property of splines that new ones have, and that nothing takes away. -/
structure Invariant (P : Spline Float → Prop) : Prop where
  empty : ∀ kind config, P (.empty kind config)
  owners : ∀ s n, P s → P { s with owners := n }
  call : ∀ config s c, P s → P (s.call config c).state
  teardown : ∀ s, P s → P s.teardown
  duplicate : ∀ s config, P s → P (s.duplicate config)

end Spline

theorem Reading.isFinite_of_ofScalar {name : Datum} {x p : Float}
    (h : Reading.ofScalar name x = .ok p) : p = x ∧ p.isFinite = true := by
  unfold Reading.ofScalar at h
  split at h
  · rename_i hf
    cases h
    exact ⟨rfl, hf⟩
  · cases h

theorem Datum.isFinite_of_parameter {d : Datum} {p : Float} (h : d.parameter = .ok p) :
    p.isFinite = true := by
  unfold Datum.parameter Datum.scalar at h
  split at h
  · exact (Reading.isFinite_of_ofScalar h).2
  · cases h
  · cases h

/-- A value that is read has an admitted width, and all of its components are finite. -/
theorem Datum.vector_eq_ok {d limit : Datum} {v : List Float} (h : d.vector limit = .ok v) :
    admitsWidth limit v.length = .ok true ∧ ∀ x ∈ v, x.isFinite = true := by
  unfold Datum.vector at h
  split at h
  · cases h
  · cases h
  · rename_i t _
    split at h
    · cases h
    · obtain ⟨admitted, ha, h⟩ := bind_eq_ok.1 h
      split at h
      · cases h
      · rename_i hn
        split at h
        · rename_i hf
          cases h
          obtain rfl : admitted = true := by simpa using hn
          exact ⟨ha, by simpa using hf⟩
        · cases h

theorem Datum.ne_nil_of_admitsWidth {limit : Datum} {v : List Float}
    (h : admitsWidth limit v.length = .ok true) : v ≠ [] := by
  rintro rfl
  cases h

namespace Spline

variable (config : Config) (s : Spline Float)

theorem change_insertData (parameter value : Datum) (e : Extension Float) :
    Change config s (s.insertData config parameter value e).state := by
  rw [insertData]
  cases h : (s.insert (config.isOn .clampShapes) parameter.parameter (value.vector config.maxTerms)
      e).answer with
  | error f =>
    rw [insert_eq_error h]
    exact .recurved .kept
  | ok i =>
    obtain ⟨p, v, -, -, -, -, hp, hv, -⟩ := insert_eq_ok h
    rw [hp, hv] at h ⊢
    exact .placed (Datum.isFinite_of_parameter hp)
      (Datum.ne_nil_of_admitsWidth (Datum.vector_eq_ok hv).1) h

theorem recurved_refresh : Recurved s (s.refresh config).state := by
  rcases state_refresh config s with h | ⟨c, hc, h⟩
  · rw [h]; exact .kept
  · rw [h]; exact .rebuilt hc

/-- A call that adds no control point makes the curve of the current ones, gives it up, or leaves
the spline alone. -/
theorem recurved_call (c : Call) (hc : ∀ parameter value e, c ≠ .insert parameter value e) :
    Recurved s (s.call config c).state := by
  cases c with
  | insert parameter value e => exact absurd rfl (hc parameter value e)
  | finalize =>
    cases hb : s.build with
    | error f => simpa [call, finalize_of_error hb] using Recurved.kept
    | ok c => simpa [call, finalize_of_build hb] using Recurved.rebuilt hb
  | invalidate => exact .invalidated
  | get parameter => exact .kept
  | evaluate parameter =>
    simpa [call] using recurved_refresh config s
  | range parameters =>
    simp only [call, Run.state_map, evaluateRange]
    split
    · exact .kept
    · simp only [evaluateGrid, Run.state_map]
      rcases state_evaluateAll config s ‹_› with h | h
      · rw [h]; exact .kept
      · rw [h]; exact recurved_refresh config s
  | uniform samples margin =>
    simp only [call, Run.state_map, sampleUniform]
    split
    · exact .kept
    · rcases state_sample config s samples.sampleCount margin.factor with h | h
      · rw [h]; exact .kept
      · rw [h]; exact recurved_refresh config s

/-- **One call.** A call keeps the spline, adds one accepted control point, makes the curve of
the current control points, or gives the curve up. -/
theorem change_call (c : Call) : Change config s (s.call config c).state := by
  by_cases h : ∃ parameter value e, c = .insert parameter value e
  · obtain ⟨parameter, value, extension, rfl⟩ := h
    cases extension with
    | error f => exact .recurved .kept
    | ok e => exact change_insertData config s parameter value e
  · exact .recurved (recurved_call config s c fun parameter value e he => h ⟨_, _, _, he⟩)

/-- An accepted control point passed all checks, and stands in the spline now. -/
theorem call_insert_ok {config : Config} {s : Spline Float} {parameter value : Datum}
    {extension : Except (Fault Float) (Extension Float)} {a : Answer}
    (h : (s.call config (.insert parameter value extension)).answer = .ok a) :
    ∃ e p v bend events, extension = .ok e ∧ parameter.parameter = .ok p ∧
      value.vector config.maxTerms = .ok v ∧
      checkBend (config.isOn .clampShapes) s.kind e = .ok (bend, events) ∧
      s.destroyed = false ∧ (s.terms ≠ 0 → v.length = s.terms) ∧
      a = .index (s.store.place p) ∧
      s.call config (.insert parameter value extension) =
        ⟨.ok (.index (s.store.place p)), s.place p v bend, events⟩ := by
  cases extension with
  | error f => simp [call, Run.fail] at h
  | ok e =>
    obtain ⟨i, hi, rfl⟩ := map_eq_ok.1 h
    obtain ⟨p, v, bend, events, ha, -, hp, hv, hw, hb, hr⟩ := insert_eq_ok hi
    rw [insertData, hr] at hi
    cases hi
    refine ⟨e, p, v, bend, events, rfl, hp, hv, hb, ha, hw, rfl, ?_⟩
    exact congrArg (Run.map · Answer.index) hr

/-- A refused control point leaves no trace. -/
theorem call_insert_error {config : Config} {s : Spline Float} {parameter value : Datum}
    {extension : Except (Fault Float) (Extension Float)} {f : Fault Float}
    (h : (s.call config (.insert parameter value extension)).answer = .error f) :
    s.call config (.insert parameter value extension) = .fail s f := by
  cases extension with
  | error g =>
    cases h
    rfl
  | ok e => exact congrArg (Run.map · Answer.index) (insert_eq_error (map_eq_error.1 h))

end Spline

end CurveKit
