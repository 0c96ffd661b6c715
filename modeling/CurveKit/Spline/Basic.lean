import CurveKit.Curve
import CurveKit.Run

/-!
# Splines

A spline collects control points and turns them into a curve when it is
finalized. The curve is kept until the next change. A spline counts its owners;
when it is destroyed it gives up its points and answers almost nothing.

Results:
* `finalize_cases`: finalizing adds the curve that `build` gives, or does nothing at all.
* `build_of_destroyed`: a destroyed spline has no curve.
-/
namespace CurveKit

variable {K : Type} [Scalar K]

/-- The place of a configuration among all configurations. -/
abbrev ConfigId := Nat

/-- The events of what a scheme computes in advance for `n` control points. -/
def Kind.precomputeEvents (kind : Kind) (n : Nat) : List (Event K) :=
  match kind with
  | .natural => if 2 < n then [.solved (n - 2)] else []
  | .tcb => [.tangentsComputed n]
  | _ => []

/-- A spline: its control points, the curve if it is finalized, and its owners. -/
structure Spline (K : Type) where
  kind : Kind
  config : ConfigId
  store : Store K (Knot K)
  /-- The shape that all control points of a basic X-spline share; none before the first. -/
  shared : Bend K
  owners : Nat
  curve : Option (Curve K)
  destroyed : Bool

namespace Spline

def empty (kind : Kind) (config : ConfigId) : Spline K where
  kind
  config
  store := .empty
  shared := .none
  owners := 0
  curve := none
  destroyed := false

/-- The number of the shape that all control points of a basic X-spline share. -/
def globalShape (s : Spline K) : K := s.shared.freedom

/-- The width of the values: that of the first one, 0 if there is none. -/
def terms (s : Spline K) : Nat := (s.store.contents.head?).elim 0 fun p => p.value.length

def isFinalized (s : Spline K) : Bool := s.curve.isSome

def checkAlive (s : Spline K) : Except (Fault K) Unit :=
  if s.destroyed then .error (.released s.kind) else .ok ()

def checkPoints (s : Spline K) : Except (Fault K) Unit :=
  if s.store.size == 0 then .error (.noPoints s.kind)
  else if s.store.size < s.kind.minPoints then .error (.tooFewPoints s.kind s.store.size)
  else .ok ()

/-- The first parameter that is not greater than the one before it. -/
def firstCoincident? : List K → Option K
  | p :: q :: rest => if q ≤ p then some q else firstCoincident? (q :: rest)
  | _ => none

def refuseCoincident (parameters : List K) : Except (Fault K) Unit :=
  match firstCoincident? parameters with
  | some p => .error (.coincident p)
  | none => .ok ()

def checkApart (s : Spline K) : Except (Fault K) Unit := refuseCoincident s.store.parameters

/-- The events of what the scheme computes in advance. -/
def precomputeEvents (s : Spline K) : List (Event K) := s.kind.precomputeEvents s.store.size

/-- What the scheme computes in advance, with the events of that. -/
def precompute (s : Spline K) : Except (Fault K) (Curve K × List (Event K)) :=
  ((Curve.prepare s.kind s.terms s.store s.globalShape).mapError .breakdown).map fun c =>
    (c, s.precomputeEvents)

def finalize (s : Spline K) : Run K (Spline K) Unit :=
  (Run.ask s s.checkAlive).andThen fun _ s =>
  (Run.ask s s.checkPoints).andThen fun _ s =>
  (Run.ask s s.checkApart).andThen fun _ s =>
  (Run.log s s.precompute).andThen fun c s =>
  ⟨.ok (), { s with curve := some c }, [.finalized s.kind s.store.size s.terms]⟩

def build (s : Spline K) : Except (Fault K) (Curve K) := do
  s.checkAlive
  s.checkPoints
  s.checkApart
  (Curve.prepare s.kind s.terms s.store s.globalShape).mapError .breakdown

/-- The events of a successful finalization. -/
def finalizeEvents (s : Spline K) : List (Event K) :=
  s.precomputeEvents ++ [.finalized s.kind s.store.size s.terms]

def invalidate (s : Spline K) : Spline K := { s with curve := none }

/-- The first and the last of the parameters that a spline of a kind has. -/
def ends (kind : Kind) (parameters : List K) : Except (Fault K) (K × K) :=
  match parameters.head?, parameters.getLast? with
  | some first, some last => .ok (first, last)
  | _, _ => .error (.noPoints kind)

def domain (s : Spline K) : Except (Fault K) (K × K) := ends s.kind s.store.parameters

def teardown (s : Spline K) : Spline K :=
  { s with store := .empty, shared := .none, owners := 0, curve := none, destroyed := true }

/-- A spline of the same kind with the same control points, one owner and no curve. -/
def duplicate (s : Spline K) (config : ConfigId) : Spline K :=
  { s with config, owners := 1, curve := none }

theorem build_of_destroyed {s : Spline K} (h : s.destroyed = true) :
    s.build = .error (.released s.kind) := by
  simp [build, checkAlive, h]; rfl

/-- **Finalizing.** The first check that fails stops everything, or the curve that `build` gives is
kept. -/
theorem finalize_cases (s : Spline K) :
    (∃ f, s.build = .error f ∧ s.finalize = .fail s f) ∨
      ∃ c, s.build = .ok c ∧
        s.finalize = ⟨.ok (), { s with curve := some c }, s.finalizeEvents⟩ := by
  unfold finalize build
  rcases Run.ask_andThen_cases s s.checkAlive _ with ⟨f, ha, h⟩ | ⟨⟨⟩, ha, h⟩ <;> rw [h, ha]
  · exact .inl ⟨f, rfl, rfl⟩
  rcases Run.ask_andThen_cases s s.checkPoints _ with ⟨f, hp, h⟩ | ⟨⟨⟩, hp, h⟩ <;> rw [h, hp]
  · exact .inl ⟨f, rfl, rfl⟩
  rcases Run.ask_andThen_cases s s.checkApart _ with ⟨f, hd, h⟩ | ⟨⟨⟩, hd, h⟩ <;> rw [h, hd]
  · exact .inl ⟨f, rfl, rfl⟩
  rcases Run.log_andThen_cases s s.precompute _ with ⟨f, hc, h⟩ | ⟨c, events, hc, h⟩ <;> rw [h]
  · exact .inl ⟨f, map_eq_error.1 hc, rfl⟩
  · obtain ⟨d, hd, ⟨⟩⟩ := map_eq_ok.1 hc
    exact .inr ⟨c, hd, rfl⟩

theorem finalize_of_build {s : Spline K} {c : Curve K} (h : s.build = .ok c) :
    s.finalize = ⟨.ok (), { s with curve := some c }, s.finalizeEvents⟩ := by
  rcases s.finalize_cases with ⟨f, hf, -⟩ | ⟨d, hd, hs⟩
  · rw [h] at hf
    cases hf
  · rw [h] at hd
    cases hd
    exact hs

theorem finalize_of_error {s : Spline K} {f : Fault K} (h : s.build = .error f) :
    s.finalize = .fail s f := by
  rcases s.finalize_cases with ⟨g, hg, hs⟩ | ⟨d, hd, -⟩
  · rw [h] at hg
    cases hg
    exact hs
  · rw [h] at hd
    cases hd

/-- How a spline introduces itself. -/
def text (s : Spline K) : String :=
  s.kind.title ++ "(points=" ++ s.store.size.repr ++ ", terms=" ++ s.terms.repr ++ ", refs="
    ++ s.owners.repr ++ ", finalized=" ++ (Datum.bool s.isFinalized).text ++ ")"

end Spline

end CurveKit
