import CurveKit.Intake
import CurveKit.Pool

/-!
# Recipes

A recipe makes one spline in a fresh pool, adds control points in the given order
with the extension data its kind asks for, and evaluates it at several
parameters.
-/
namespace CurveKit

/-- What to make and where to evaluate it. -/
structure Recipe where
  kind : Datum
  config : Option Config.Request
  /-- Pairs of a parameter and a value. -/
  points : Datum
  /-- The extension data of the points in order; if there is nothing in it, all are neutral. -/
  bends : Datum
  parameters : Datum

namespace Recipe

/-- The triple that bends nothing. -/
def neutralTriple : Datum := .list [.float 0.0, .float 0.0, .float 0.0]

/-- The extension data of point `i`. -/
def bend (r : Recipe) (tag : Tag) (i : Nat) : Except (Fault Float) Datum :=
  if r.bends.isTruthy then r.bends.item i
  else .ok (if tag == .tcb then .list [neutralTriple, neutralTriple] else .float 0.0)

/-- Adds point `i`. -/
def insertPoint (r : Recipe) (tag : Tag) (i : Nat) (parameter value : Datum) (config : Config)
    (s : Spline Float) : Run Float (Spline Float) Nat :=
  match tag with
  | .none => s.insertData config parameter value .nothing
  | .tcb =>
    let pair : Except (Fault Float) (Datum × Datum) := do
      let b ← r.bend tag i
      pure (← b.item 0, ← b.item 1)
    match pair with
    | .ok (incoming, outgoing) => s.insertTriples config parameter value incoming outgoing
    | .error f => .fail s f
  | _ =>
    match r.bend tag i with
    | .ok d => s.insertShape config parameter value d
    | .error f => .fail s f

/-- Adds the points from number `i` on. -/
def insertPoints (r : Recipe) (tag : Tag) (id : SplineId) (p : Pool Float) :
    Nat → List Datum → Run Float (Pool Float) Unit
  | _, [] => .done p ()
  | i, point :: rest =>
    match point.pair with
    | .error f => .fail p f
    | .ok (parameter, value) =>
      (p.on id (r.insertPoint tag i parameter value)).andThen fun _ p =>
        insertPoints r tag id p (i + 1) rest

/-- The values at several parameters, each with its own fault. -/
def evaluations (id : SplineId) (p : Pool Float) :
    List Datum → List (Except (Fault Float) (List Float))
  | [] => []
  | d :: rest =>
    let r := p.on id fun config s => s.evaluate config d.parameter
    r.answer.map Prod.fst :: evaluations id r.state rest

/-- The values at the parameters, or the fault of making the spline. -/
def results (r : Recipe) : Except (Fault Float) (List (Except (Fault Float) (List Float))) := do
  let config ← match r.config with
    | none => pure none
    | some request => some <$> request.build
  let kind ← r.kind.kind
  let made := (Pool.fresh.create kind config).andThen fun id p =>
    (Run.ask p r.points.sequence).andThen fun points p =>
      (r.insertPoints kind.tag id p 0 points).map fun _ => id
  let id ← made.answer
  pure (evaluations id made.state (← r.parameters.sequence))

end Recipe

end CurveKit
