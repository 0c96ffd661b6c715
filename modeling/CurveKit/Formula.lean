import CurveKit.Intake
import CurveKit.Tensor

/-!
# Single formulas on untyped data

The parts of which curves are made, for callers who want one of them alone: the
Hermite blend and the Kochanek-Bartels tangents of whole arrays, and the blends and
weights of X-splines.
-/
namespace CurveKit.Formula

def number (d : Datum) : Except (Fault Float) Float := d.toFloat.mapError NotNumber.fault

def numbers (d : Datum) : Except (Fault Float) (List Float) := do (← d.sequence).mapM number

def array (d : Datum) : Except (Fault Float) (Tensor Float) := d.toTensor.mapError NotNumber.fault

/-- What several arrays are combined into, if their shapes have something in common. -/
def matched {α : Type} (t : Option (Tensor α)) : Except (Fault Float) (Tensor α) :=
  match t with
  | some t => .ok t
  | none => .error .malformed

/-- The Hermite blend of arrays, entry by entry. -/
def hermite (t v0 v1 m0 m1 : Datum) : Except (Fault Float) (Tensor Float) := do
  let t ← number t
  let v0 ← array v0
  let v1 ← array v1
  let starts := Tensor.combine? Prod.mk v0 (← array m0)
  let ends := Tensor.combine? Prod.mk v1 (← array m1)
  matched (Tensor.combine? (fun a b => Scheme.hermite t a.1 b.1 a.2 b.2) (← matched starts)
    (← matched ends))

/-- A triple of which the last numbers may be missing; they are zero. -/
def leadingTriple : List Float → Except (Fault Float) (Tcb Float)
  | [] => .ok { tension := 0, bias := 0, continuity := 0 }
  | [tension] => .ok { tension, bias := 0, continuity := 0 }
  | [tension, bias] => .ok { tension, bias, continuity := 0 }
  | [tension, bias, continuity] => .ok { tension, bias, continuity }
  | _ => .error .wrongForm

/-- The triples along the last axis of an array; its other axes come in reverse order. -/
def triples (a : Tensor Float) : Except (Fault Float) (Tensor (Tcb Float)) :=
  match a.shape.reverse with
  | [] => .error .wrongForm
  | 3 :: shape =>
    .ok {
      shape
      entry := fun p =>
        let part (k : Nat) : Float := a.entry (p.reverse ++ [k])
        { tension := part 0, bias := part 1, continuity := part 2 } }
  | _ => .error .malformed

/-- The differences of the values at control points, mixed by triples. -/
def mixed (mix : Tcb Float → Float → Float → Float) (differences : Tensor (Float × Float))
    (p : Tensor (Tcb Float)) : Except (Fault Float) (Tensor Float) :=
  if p.shape.isEmpty then .error .indexOutside
  else matched (Tensor.combine? (fun t d => mix t d.1 d.2) p.insertAxis differences)

/-- The incoming and the outgoing tangents at control points. Their number is that of the values;
one triple, or one parameter, serves all of them. -/
def tangents (parameters values incoming outgoing : Datum) :
    Except (Fault Float) (Tensor Float × Tensor Float) := do
  let x ← array parameters
  let y ← array values
  let a ← array incoming
  let b ← array outgoing
  let (points, n) ← match x.shape, y.shape with
    | [], _ => throw .malformed
    | _, [_] => throw .indexOutside
    | [n], [points, _] => pure (points, max n 1)
    | _, _ => throw .malformed
  let a ← triples a
  let b ← triples b
  let differences : Tensor (Float × Float) := {
    shape := y.shape
    entry := fun p =>
      let component (i : Nat) : Float := y.entry (i :: p.drop 1)
      (Scheme.backward component (p.headD 0), Scheme.forward points component (p.headD 0)) }
  let scale (f : Float → Float → Float) : Tensor Float :=
    Tensor.column n fun i =>
      let parameter (j : Nat) : Float := x.entry [j]
      f (Scheme.backward parameter i) (Scheme.forward n parameter i)
  let a ← mixed Scheme.incomingMix differences a
  let b ← mixed Scheme.outgoingMix differences b
  pure (← matched (a.update? (· * ·) (scale Scheme.incomingScale)),
    ← matched (b.update? (· * ·) (scale Scheme.outgoingScale)))

/-- A blend by its name: the quintic one of a quotient, or one around a negative shape. -/
def blend (name : String) (arguments : Datum) : Except (Fault Float) Float := do
  match name, ← numbers arguments with
  | "f", [numerator, denominator, p] =>
    match Scheme.fBlend? numerator denominator p with
    | some x => pure x
    | none => throw .divisionByZero
  | "g", [u, q] => pure (Scheme.gBlend u q)
  | "h", [u, q] => pure (Scheme.hBlend u q)
  | _, _ => throw .wrongForm

/-- The weights of an X-spline at a local position, for the shapes of the two ends. -/
def weights (kind t s1 s2 : Datum) : Except (Fault Float) (List Float) := do
  let k ← kind.kind
  match k.family? with
  | none => throw .unsupported
  | some family =>
    match Scheme.weights? family (← number t) (← number s1) (← number s2) with
    | some w => pure w.toList
    | none => throw .divisionByZero

end CurveKit.Formula
