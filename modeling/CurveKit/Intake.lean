import CurveKit.Selection
import CurveKit.Spline.Evaluate

/-!
# Taking in untyped data

Parameters, values, extension data and sampling counts arrive as data of any
form. The functions here read them, or tell why they cannot be read. A number
that is not finite is refused with its name; an integer that is too large for a
double is always a plain failure.
-/
namespace CurveKit

namespace Datum

/-- A finite scalar of the given name. -/
def scalar (d name : Datum) : Reading Float :=
  match d.toFloat with
  | .ok x => .ofScalar name x
  | .error .tooLarge => .error .tooLarge
  | .error why => .error (.notReal name d why)

def parameter (d : Datum) : Reading Float := d.scalar parameterName

/-- May a value have `width` components? There is always at least one; the limit is compared
as a number. -/
def admitsWidth (limit : Datum) (width : Nat) : Except (Fault Float) Bool :=
  if width == 0 then .ok false
  else match limit with
    | int n => .ok ((width : Int) ≤ n)
    | bool b => .ok (width ≤ b.toNat)
    | float x => .ok (Float.ofNat width ≤ x)
    | _ => .error .wrongForm

/-- A value: a flat array of finite numbers, or one number. -/
def vector (d limit : Datum) : Except (Fault Float) (List Float) :=
  match d.toTable with
  | .error .tooLarge => .error .tooLarge
  | .error why => .error (.notNumeric d why)
  | .ok t =>
    if t.shape.length != 1 then .error (.notFlat t.shape)
    else do
      if !(← admitsWidth limit t.entries.length) then .error (.widthOutside limit t.entries.length)
      else if t.entries.all Float.isFinite then .ok t.entries
      else .error (.componentNotFinite t.entries)

/-- The items one gets from a datum by going through it: the characters of a text, the keys of
a dictionary. -/
def items? : Datum → Option (List Datum)
  | list items => some items
  | group items => some items
  | str s => some (s.toList.map fun c => .str (String.singleton c))
  | dictionary entries => some (entries.map fun e => .str e.1)
  | _ => none

/-- The items of a datum that has to have some. -/
def sequence (d : Datum) : Except (Fault Float) (List Datum) :=
  match d.items? with
  | some items => .ok items
  | none => .error .wrongForm

/-- A triple of numbers. No more than four items are looked at. -/
def triple (d : Datum) : Except (Fault Float) (Tcb Float) :=
  match d.items? with
  | none => .error (.notTriple d)
  | some items =>
    match (items.take 4).mapM toFloat with
    | .ok [tension, bias, continuity] => .ok { tension, bias, continuity }
    | .error .tooLarge => .error .tooLarge
    | _ => .error (.notTriple d)

def shape (d : Datum) : Except (Fault Float) Float :=
  match d.toFloat with
  | .ok x => .ok x
  | .error .tooLarge => .error .tooLarge
  | .error _ => .error (.notShape d)

/-- The parameters of a batch of evaluations: a flat array of numbers, or one number. -/
def parameters (d : Datum) : Except (Fault Float) (List Float) :=
  match d.toTable with
  | .error why => .error why.fault
  | .ok t => if t.shape.length != 1 then .error (.nestedParameters t.shape) else .ok t.entries

/-- A kind, by its keyword. -/
def kind : Datum → Except (Fault Float) Kind
  | str s => match Kind.ofKeyword? s with
    | some k => .ok k
    | none => .error (.unknownKind s)
  | list _ => .error .wrongForm
  | dictionary _ => .error .wrongForm
  | d => .error (.unregistered d)

def index : Datum → Except (Fault Float) Int
  | int n => .ok n
  | bool b => .ok b.toNat
  | _ => .error .wrongForm

/-- Refuses fewer than two samples, and what cannot be compared with two. -/
def checkSamples (d : Datum) : Except (Fault Float) Unit :=
  match d with
  | int n => if n < 2 then .error (.tooFewSamples d) else .ok ()
  | bool _ => .error (.tooFewSamples d)
  | float x => if x < 2.0 then .error (.tooFewSamples d) else .ok ()
  | _ => .error .wrongForm

/-- The number of samples that is below zero as a signed word, so that there is no last one. -/
def negatedSamples : Float := 9223372036854775808.0

/-- The number of samples from which on no array can hold them. -/
def addressableSamples : Float := 1152921504606846976.0

/-- The number of samples from which on they do not fit into memory. -/
def storableSamples : Float := 68719476736.0

/-- A number of samples. How much room they take is reckoned with doubles. -/
def sampleCount : Datum → Except (Fault Float) Nat
  | int n =>
    match intToFloat n with
    | .error _ => .error .malformed
    | .ok room =>
      if room == negatedSamples then .error .indexOutside
      else if addressableSamples ≤ room then .error .malformed
      else if storableSamples ≤ room then .error .outOfMemory
      else .ok n.toNat
  | _ => .error .wrongForm

/-- Item `i` of what one goes through in a datum. The keys of a dictionary are no numbers. -/
def item (d : Datum) (i : Nat) : Except (Fault Float) Datum :=
  match d with
  | dictionary _ => .error .entryMissing
  | _ => do
    match (← d.sequence)[i]? with
    | some a => pure a
    | none => throw .indexOutside

def pair (d : Datum) : Except (Fault Float) (Datum × Datum) := do
  match ← d.sequence with
  | [a, b] => pure (a, b)
  | _ => throw .malformed

/-- A factor: a number, but no numeral. -/
def factor (d : Datum) : Reading Float :=
  match d with
  | int n => (intToFloat n).mapError NotNumber.fault
  | bool b => .ok (if b then 1.0 else 0.0)
  | float x => .ok x
  | _ => .error .wrongForm

end Datum

namespace Curve

variable {K : Type} [Scalar K]

/-- The coefficients of the cubics of a curve, by segment, component and power. -/
def coefficients (c : Curve K) : Tensor K :=
  let pieces := (c.components.map fun p => p.rule.pieces?.getD #[]).toArray
  { shape := [c.parameters.size - 1, pieces.size, 4]
    entry := fun p =>
      ((nthCubic (pieces.getD (p.getD 1 0) #[]) (p.getD 0 0)).coefficient (p.getD 2 0)) }

/-- Cubics at a distance from their starts. Their coefficients lie along the first axis, of which
there have to be four. -/
def evalCubics (coefficients : Tensor K) (u : K) : Except (Fault K) (Tensor K) :=
  match coefficients.shape with
  | 4 :: shape =>
    .ok {
      shape
      entry := fun p =>
        let coefficient (j : Nat) : K := coefficients.entry (j :: p)
        let piece : Scheme.Cubic K :=
          ⟨coefficient 0, coefficient 1, coefficient 2, coefficient 3⟩
        piece.eval u }
  | _ => .error .malformed

/-- The values of the cubics that selectors for segments and components choose, at a distance
from their starts. -/
def interpolate (c : Curve K) (segments components : Selector) (u : K) :
    Except (Fault K) (Tensor K) :=
  match c.coefficients.select? [segments, components] with
  | some chosen => evalCubics chosen u
  | none => .error .indexOutside

end Curve

namespace Spline

/-- Adds a control point with extension data that is already in its final form. -/
def insertData (config : Config) (s : Spline Float) (parameter value : Datum)
    (e : Extension Float) : Run Float (Spline Float) Nat :=
  s.insert (config.isOn .clampShapes) parameter.parameter (value.vector config.maxTerms) e

/-- Adds a control point with an incoming and an outgoing triple; the triples are read before
all else. -/
def insertTriples (config : Config) (s : Spline Float)
    (parameter value incoming outgoing : Datum) : Run Float (Spline Float) Nat :=
  let pair : Except (Fault Float) (Extension Float) := do
    let a ← incoming.triple
    let b ← outgoing.triple
    pure (.items .group [.triple a, .triple b])
  match pair with
  | .error f => .fail s f
  | .ok e => s.insertData config parameter value e

/-- Adds a control point with a shape; the shape is read before all else. -/
def insertShape (config : Config) (s : Spline Float) (parameter value shape : Datum) :
    Run Float (Spline Float) Nat :=
  match shape.shape with
  | .error f => .fail s f
  | .ok x => s.insertData config parameter value (.shape x)

/-- The values of the cubics that selectors for segments and components choose, at a distance
from their starts, for the schemes that keep cubics. The distance is read before all else. -/
def coefficient (s : Spline Float) (segments components offset : Datum) :
    Except (Fault Float) (Tensor Float) := do
  if s.kind != .sor && s.kind != .akima then throw .unsupported
  let u ← offset.toFloat.mapError NotNumber.fault
  match s.curve with
  | none => throw .wrongForm
  | some c =>
    let i ← segments.selector
    let k ← components.selector
    c.interpolate i k u

/-- Evaluates at the parameters that a datum holds. -/
def evaluateRange (config : Config) (s : Spline Float) (d : Datum) :
    Run Float (Spline Float) (Grid Float) :=
  match d.parameters with
  | .error f => .fail s f
  | .ok ts => s.evaluateGrid config ts

/-- Samples as often as a datum says; that it says enough is checked before all else. -/
def sampleUniform (config : Config) (s : Spline Float) (samples margin : Datum) :
    Run Float (Spline Float) (Samples Float) :=
  match samples.checkSamples with
  | .error f => .fail s f
  | .ok () => s.sample config samples.sampleCount margin.factor

end Spline

end CurveKit
