import CurveKit.Proofs.Spline.Changes

/-!
# What calls on a spline leave in the log

Finalizing and evaluating a spline leave nothing but routine events. Adding a control point
leaves nothing but warnings about shapes that were moved.

Results:
* `logs_andThen`: what one operation logs, and another one behind it.
* `logs_insertData`, `logs_call`: what the calls on a spline log.
-/
namespace CurveKit

namespace Event

variable {K : Type}

/-- Does an event warn of a shape that was moved? -/
def isClamped : Event K → Bool
  | .clamped .. => true
  | _ => false

/-- An event that tells neither of a shape that was moved nor of the end of a spline. -/
def isRoutine : Event K → Bool
  | .clamped .. => false
  | .destroyed _ => false
  | .destroyedAgain _ => false
  | .destroyedShared .. => false
  | _ => true

theorem not_isClamped_of_isRoutine {e : Event K} (h : e.isRoutine = true) :
    e.isClamped = false := by
  cases e with
  | clamped => cases h
  | _ => rfl

end Event

/-! ## Runs -/

namespace Run

variable {K σ α β : Type} {q : Event K → Prop}

/-- All events of a run are of one sort. -/
def Logs (q : Event K → Prop) (r : Run K σ α) : Prop := ∀ e ∈ r.events, q e

theorem logs_ask (s : σ) (a : Except (Fault K) α) : (ask s a).Logs q := nofun

theorem logs_fail (s : σ) (f : Fault K) : (fail s f : Run K σ α).Logs q := nofun

theorem logs_done (s : σ) (a : α) : (done s a : Run K σ α).Logs q := nofun

theorem logs_map {r : Run K σ α} (h : r.Logs q) (f : α → β) : (r.map f).Logs q := h

theorem logs_andThen {r : Run K σ α} {next : α → σ → Run K σ β} (h : r.Logs q)
    (hn : ∀ a s, (next a s).Logs q) : (r.andThen next).Logs q := by
  cases ha : r.answer with
  | error f => rw [andThen_error ha]; exact h
  | ok a =>
    rw [andThen_ok ha]
    exact List.forall_mem_append.2 ⟨h, hn a r.state⟩

end Run

/-! ## Calls on one spline -/

namespace Spline

section Generic

variable {K : Type} [Scalar K] (config : Config) (s : Spline K)

theorem logs_finalize : s.finalize.Logs (·.isRoutine = true) := by
  cases hb : s.build with
  | error f => rw [finalize_of_error hb]; exact Run.logs_fail s f
  | ok c =>
    rw [finalize_of_build hb]
    refine List.forall_mem_append.2 ⟨?_, List.forall_mem_singleton.2 rfl⟩
    unfold precomputeEvents Kind.precomputeEvents
    split
    · split <;> simp [Event.isRoutine]
    · simp [Event.isRoutine]
    · exact nofun

theorem logs_evaluate (t : Reading K) : (s.evaluate config t).Logs (·.isRoutine = true) := by
  refine Run.logs_andThen ?_ fun _ s => Run.logs_ask s _
  unfold refresh
  split
  · exact s.logs_finalize
  · exact Run.logs_done s ()

theorem logs_evaluateAll (ts : List K) : (s.evaluateAll config ts).Logs (·.isRoutine = true) := by
  induction ts generalizing s with
  | nil => exact Run.logs_done s []
  | cons t ts ih =>
    rw [evaluateAll_cons]
    exact Run.logs_andThen (s.logs_evaluate config _) fun v s => Run.logs_map (ih s) _

theorem logs_sampleBetween (n : Nat) (start stop : K) :
    (s.sampleBetween config n start stop).Logs (·.isRoutine = true) := by
  unfold sampleBetween
  dsimp only
  split
  · exact s.logs_evaluate config _
  · exact Run.logs_map (Run.logs_map (s.logs_evaluateAll config _) _) _

theorem logs_sample (samples : Except (Fault K) Nat) (margin : Reading K) :
    (s.sample config samples margin).Logs (·.isRoutine = true) := by
  unfold sample
  dsimp only
  split
  · exact Run.logs_fail s _
  · exact List.forall_mem_cons.2 ⟨rfl, s.logs_sampleBetween config _ _ _⟩

theorem logs_checkBend {clamp : Bool} {kind : Kind} {e : Extension K} {bend : Bend K}
    {events : List (Event K)} (h : checkBend clamp kind e = .ok (bend, events)) :
    ∀ e ∈ events, e.isClamped = true := by
  rcases checkBend_eq_ok h with ⟨-, -, rfl⟩ | ⟨-, -, rfl⟩ | ⟨-, b, -, hs⟩
  · exact nofun
  · exact nofun
  · rcases (checkShape_eq_ok hs).2 with ⟨-, -, rfl⟩ | ⟨-, -, -, rfl⟩
    · exact nofun
    · exact List.forall_mem_singleton.2 rfl

end Generic

variable (config : Config) (s : Spline Float)

/-- Adding a control point leaves nothing but warnings about shapes. -/
theorem logs_insertData (parameter value : Datum) (e : Extension Float) :
    (s.insertData config parameter value e).Logs (·.isClamped = true) := by
  rw [insertData]
  rcases s.insert_cases (config.isOn .clampShapes) parameter.parameter (value.vector config.maxTerms)
    e with ⟨f, h⟩ | ⟨p, v, bend, events, -, -, -, -, -, hb, h⟩
  · rw [h]
    exact Run.logs_fail s f
  · rw [h]
    exact logs_checkBend hb

/-- All other calls leave nothing but routine events. -/
theorem logs_call {c : Call} (hc : ∀ parameter value e, c ≠ .insert parameter value e) :
    (s.call config c).Logs (·.isRoutine = true) := by
  cases c with
  | insert parameter value e => exact absurd rfl (hc parameter value e)
  | finalize => exact Run.logs_map s.logs_finalize _
  | invalidate => exact Run.logs_done _ _
  | get parameter => exact Run.logs_map (Run.logs_ask s _) _
  | evaluate parameter => exact Run.logs_map (s.logs_evaluate config _) _
  | range parameters =>
    refine Run.logs_map ?_ _
    unfold evaluateRange
    split
    · exact Run.logs_fail s _
    · exact Run.logs_map (s.logs_evaluateAll config _) _
  | uniform samples margin =>
    refine Run.logs_map ?_ _
    unfold sampleUniform
    split
    · exact Run.logs_fail s _
    · exact s.logs_sample config _ _

end Spline

end CurveKit
