import CurveKit.Datum.Table
import CurveKit.Extension
import CurveKit.Kind
import CurveKit.Notice

/-!
# Why an operation is refused

`Fault` lists the causes, each with what is known about it; the numbers in it
are of the scalar type the curve is computed with. `Fault.notice?` gives the
written form of those that have one; the others are plain failures, of which
only the name counts.
-/
namespace CurveKit

/-- The boolean entries of a configuration. -/
inductive Switch where
  | lazyFinalize
  | clampShapes
  | extrapolate
  deriving DecidableEq, Repr

def Switch.key : Switch → String
  | lazyFinalize => "lazy_finalize"
  | clampShapes => "clamp_shapes"
  | extrapolate => "extrapolate"

/-- The most components that a configuration may admit. -/
def maxTermsLimit : Nat := 5

/-- Why a numeric step broke down. -/
inductive Breakdown where
  /-- The linear system has an entry that is not finite. -/
  | notFinite
  /-- The linear system has no unique solution. -/
  | singular
  deriving DecidableEq, Repr

/-- Why an operation is refused. -/
inductive Fault (K : Type) where
  /-- Extension data of the given form for a kind that takes none. -/
  | extensionRefused (kind : Kind) (form : Form)
  /-- No extension data for a kind that needs it. -/
  | extensionMissing (kind : Kind)
  /-- Extension data of the given form instead of a pair of triples. -/
  | pairExpected (form : Form)
  /-- Extension data of the given form instead of a shape. -/
  | shapeExpected (kind : Kind) (form : Form)
  /-- A datum that is no triple of numbers. -/
  | notTriple (datum : Datum)
  /-- A datum that is no shape. -/
  | notShape (datum : Datum)
  /-- An array of another dimension than 1 for a value. -/
  | notFlat (shape : List Nat)
  /-- A value with no component or with more than the configuration admits. -/
  | widthOutside (limit : Datum) (width : Nat)
  /-- A value of another width than the values before it. -/
  | widthDiffers (expected width : Nat)
  | tooFewPoints (kind : Kind) (available : Nat)
  | noPoints (kind : Kind)
  /-- A scalar that is no number. -/
  | notReal (name datum : Datum) (why : NotNumber)
  /-- A scalar that is not finite. -/
  | notFinite (name : Datum) (value : K)
  /-- A value that is no array of numbers. -/
  | notNumeric (datum : Datum) (why : NotNumber)
  /-- A value with a component that is not finite. -/
  | componentNotFinite (components : List K)
  /-- Two control points at one parameter. -/
  | coincident (parameter : K)
  | tripleNotFinite (side : Side) (triple : Tcb K)
  | shapeNotFinite (shape : K)
  /-- A shape outside the range of the kind where shapes are not clamped. -/
  | shapeOutside (kind : Kind) (low high shape : K)
  /-- A numeric step of finalizing broke down. -/
  | breakdown (why : Breakdown)
  | stale (kind : Kind)
  | released (kind : Kind)
  /-- A closed handle was used. -/
  | closed
  /-- The components of a spline cannot be plotted. -/
  | plotFailed (why : Fault K)
  | nothingToCompare
  | componentMissing (label component : Datum)
  /-- One of the compared splines cannot be plotted. -/
  | comparisonFailed (label : Datum) (why : Fault K)
  | unknownKeys (keys : List String)
  | maxTermsForm (form : Form)
  | maxTermsOutside (maxTerms : Int)
  | switchForm (switch : Switch) (datum : Datum)
  | unknownKind (keyword : String)
  /-- A kind that is no text. -/
  | unregistered (datum : Datum)
  | tooFewSamples (samples : Datum)
  /-- Sample parameters in an array of another dimension than 1. -/
  | nestedParameters (shape : List Nat)
  | wrongForm
  | malformed
  | tooLarge
  | outOfMemory
  | indexOutside
  /-- A dictionary without the entry that is asked for. -/
  | entryMissing
  | divisionByZero
  /-- The kind has no part that the operation is about. -/
  | unsupported
  /-- The name stands for no spline or handle. -/
  | unbound

def NotNumber.fault {K : Type} : NotNumber → Fault K
  | malformed => .malformed
  | wrongForm => .wrongForm
  | tooLarge => .tooLarge

def NotNumber.name : NotNumber → String
  | malformed => "ValueError"
  | wrongForm => "TypeError"
  | tooLarge => "OverflowError"

/-- What is reported as the origin of a breakdown. -/
def Breakdown.origin : Breakdown → Origin
  | notFinite => { name := "ValueError", text := "array must not contain infs or NaNs" }
  | singular => { name := "LinAlgError", text := "singular matrix" }

namespace Fault

def count (n : Nat) : Datum := .int n

def about (kind : Kind) (rest : String) : Datum := .str (kind.name ++ rest)

def conversion (why : NotNumber) : Option Origin := some { name := why.name, text := "" }

/-- The written form of a fault, for those that have one. -/
def notice? : Fault Float → Option Notice
  | extensionRefused kind form =>
    some (.extension (about kind " takes no extension data") (.str Tag.none.name) (.str form.name))
  | extensionMissing kind =>
    some (.extension (about kind " requires extension data on every control point")
      (.str kind.tag.name) (.str "nothing"))
  | pairExpected form =>
    some (.extension (about .tcb " needs an (incoming, outgoing) pair of TcbParam")
      (.str "(TcbParam, TcbParam)") (.str form.name))
  | shapeExpected kind form =>
    some (.extension (about kind " needs a ShapeParam") (.str "ShapeParam") (.str form.name))
  | notTriple d =>
    some (.extension (.str "TCB data must be three numbers (tension, bias, continuity)")
      (.str "TcbParam") (.str d.text))
  | notShape d =>
    some (.extension (.str "shape data must be a single number") (.str "ShapeParam") (.str d.text))
  | notFlat shape =>
    some (.dimension (.str ("value must be a flat vector, got shape " ++ (Datum.ofShape shape).text))
      .null .null)
  | widthOutside limit width =>
    some (.dimension (.str ("value width must be between 1 and " ++ limit.label)) .null
      (count width))
  | widthDiffers expected width =>
    some (.dimension (.str "all control points of a spline must have the same width")
      (count expected) (count width))
  | tooFewPoints kind available =>
    some (.insufficient (about kind (" needs at least " ++ kind.minPoints.repr ++ " control points"))
      (.str kind.name) (count kind.minPoints) (count available))
  | noPoints kind => some (.empty (.str "spline has no control points") (.str kind.name))
  | notReal name d why => some (.numeric (.str "not a real number") name d (conversion why))
  | notFinite name x => some (.numeric (.str "must be finite") name (.float x) none)
  | notNumeric d why =>
    some (.numeric (.str "value is not numeric") (.str "value") d (conversion why))
  | componentNotFinite xs =>
    some (.numeric (.str "value components must be finite") (.str "value")
      (.list (xs.map .float)) none)
  | coincident p =>
    some (.numeric (.str "coincident control-point parameters give a zero-length segment")
      (.str "parameter") (.float p) none)
  | tripleNotFinite side t =>
    some (.numeric (.str "tension/bias/continuity must be finite") (.str side.name)
      (.group (t.toList.map .float)) none)
  | shapeNotFinite x =>
    some (.numeric (.str "shape must be finite") (.str "shape") (.float x) none)
  | shapeOutside kind low high x =>
    some (.numeric (.str ("shape must lie in [" ++ Decimal.shortest low ++ ", "
      ++ Decimal.shortest high ++ "] for " ++ kind.name)) (.str "shape") (.float x) none)
  | breakdown why =>
    some (.numeric (.str "numerical failure in finalize") .null .null (some why.origin))
  | stale kind => some (.stale (.str "call finalize() before evaluating") (.str kind.name))
  | released kind => some (.released (.str "spline has been destroyed") (.str kind.name))
  | closed => some (.released (.str "reference has been closed") .null)
  | plotFailed why =>
    some (.visualization (.str ((notice? why).elim "" Notice.text)) (.str "components"))
  | nothingToCompare => some (.visualization (.str "nothing to compare") (.str "comparison"))
  | componentMissing label component =>
    some (.visualization (.str (label.label ++ " has no component " ++ component.label))
      (.str "comparison"))
  | comparisonFailed label why =>
    some (.visualization (.str (label.label ++ ": " ++ (notice? why).elim "" Notice.text))
      (.str "comparison"))
  | unknownKeys keys =>
    some (.configuration (.str ("unknown configuration keys: " ++ Datum.commaSeparated keys))
      (.str (keys.headD "")) .null)
  | maxTermsForm form =>
    some (.configuration (.str ("max_terms must be an integer, got " ++ form.name)) (.str "max_terms")
      .null)
  | maxTermsOutside n =>
    some (.configuration (.str ("max_terms must be between 1 and " ++ maxTermsLimit.repr ++ ", got "
      ++ Datum.intText n)) (.str "max_terms") (.str (Datum.intText n)))
  | switchForm switch d =>
    some (.configuration (.str (switch.key ++ " must be a boolean")) (.str switch.key)
      (.str d.label))
  | _ => none

/-- What a plain failure says, for those that say something. -/
def remark? : Fault Float → Option String
  | unknownKind keyword =>
    some ("Unknown spline kind: " ++ keyword ++ ". Available: "
      ++ (Datum.list (Kind.all.map fun k => .str k.name)).text)
  | unregistered d => some ("No spline registered for " ++ d.label)
  | tooFewSamples d => some ("samples must be at least 2, got " ++ d.label)
  | nestedParameters shape =>
    some ("parameters must be one-dimensional, got shape " ++ (Datum.ofShape shape).text)
  | _ => none

end Fault

end CurveKit
