import CurveKit.Intake
import CurveKit.Label.Grammar
import CurveKit.Pool
import CurveKit.Span

/-!
# Figures

The data of a plot: axes with sampled lines and the control points. One spline is
shown component by component, several are compared in one component. The axes lie
one below the other, and all show the same parameters. A figure is handed over to a
plotter, which draws it or refuses it; nothing is known of it but what it refuses.
-/
namespace CurveKit

structure PlotLine where
  label : String
  xs : List Float
  ys : List Float

/-- An axis with its lines and its groups of points. -/
structure Axis where
  xLabel : String
  yLabel : String
  hasLegend : Bool
  lines : List PlotLine
  points : List (List (Float × Float))

structure Figure where
  title : Option String
  axes : List Axis

/-- The points of an axis that are finite, those of lines and single ones. -/
def Axis.finitePoints (a : Axis) : List (Float × Float) :=
  (a.lines.flatMap (fun l => l.xs.zip l.ys) ++ a.points.flatten).filter fun p =>
    p.1.isFinite && p.2.isFinite

namespace Fault

/-- Is the fault one without a written form? -/
def isPlain (f : Fault Float) : Bool := f.notice?.isNone

end Fault

namespace Figure

/-- How many marks an axis as wide as the figure has room for. -/
def widthRoom : Float := 9.0

/-- How many marks each of `n` axes has room for that share the height of a figure. A fifth of
an axis lies between two of them. -/
def heightRoom (n : Nat) : Float :=
  let room := (16.632 / (1.2 * Float.ofNat n - 0.2)).floor
  if room < 1.0 then 1.0 else if widthRoom < room then widthRoom else room

/-- Refuses an axis that cannot be laid out above the given parameters, with room for marks. -/
def checkAxis (parameters : Span) (room : Float) (a : Axis) : Except (Fault Float) Unit := do
  let _ ← parameters.marks widthRoom
  let _ ← (Span.shown (a.finitePoints.map Prod.snd)).marks room

/-- The labels that are set: those of lines in a legend, and the title. A label that begins with
an underscore stays out of a legend. -/
def labels (f : Figure) : List String :=
  (f.axes.flatMap fun a => if a.hasLegend then a.lines.map (·.label) else []).filter
    (fun l => !l.startsWith "_") ++ f.title.toList

/-- Refuses a figure of which an axis or a label cannot be laid out. -/
def checkLayout (f : Figure) : Except (Fault Float) Unit := do
  let parameters := Span.shown ((f.axes.flatMap Axis.finitePoints).map Prod.fst)
  f.axes.forM (checkAxis parameters (heightRoom f.axes.length))
  if f.labels.all isReadableLabel then pure () else throw .malformed

end Figure

/-- What draws figures: a figure comes back as it was handed over, unless it is refused. -/
structure Plotter where
  refusal : Figure → Option (Fault Float)

namespace Plotter

/-- What comes back for a figure. -/
def draw (plotter : Plotter) (f : Figure) : Except (Fault Float) Figure :=
  match plotter.refusal f with
  | some fault => .error fault
  | none => .ok f

/-- The plotter that sessions work with. It refuses figures that cannot be laid out. -/
def standard : Plotter where
  refusal f := match f.checkLayout with
    | .error fault => some fault
    | .ok () => none

end Plotter

namespace Figure

def componentLabels : List String := ["x", "y", "z", "t", "u"]

def componentLabel (k : Nat) : Except (Fault Float) String :=
  match componentLabels[k]? with
  | some l => .ok l
  | none => .error .indexOutside

def column (g : Grid Float) (k : Nat) : List Float := g.rows.map fun r => r.getD k 0

/-- The control points of a spline in component `k`. -/
def controlPoints (s : Spline Float) (k : Nat) : List (Float × Float) :=
  s.store.entries.map fun e => (e.parameter, e.content.value.getD k 0)

/-- The axis of component `k` of a sampled spline. The last axis names the parameter, and the
first has the legend. -/
def componentAxis (s : Spline Float) (samples : Samples Float) (k : Nat) :
    Except (Fault Float) Axis := do
  let yLabel ← componentLabel k
  pure {
    xLabel := if k + 1 == s.terms then "parameter" else ""
    yLabel
    hasLegend := k == 0
    lines := [{ label := "curve", xs := samples.parameters, ys := column samples.values k }]
    points := [controlPoints s k] }

/-- Puts a fault into the words of a plot; a plain one stays as it is. -/
def wrap (words : Fault Float → Fault Float) (f : Fault Float) : Fault Float :=
  if f.isPlain then f else words f

/-- All components of a spline. The title is the name of its kind if none is given. -/
def ofComponents (plotter : Plotter) (config : Config) (s : Spline Float)
    (samples margin title : Datum) : Run Float (Spline Float) Figure :=
  ((s.sampleUniform config samples margin).mapFault (wrap .plotFailed)).andThen fun sampled s =>
    .ask s do
      let axes ← (List.range s.terms).mapM (componentAxis s sampled)
      plotter.draw { title := some (if title.isTruthy then title.label else s.kind.name), axes }

/-! ## Comparisons -/

/-- Is a component below `terms`? It is compared as a number. -/
def hasComponent (component : Datum) (terms : Nat) : Except (Fault Float) Bool :=
  match component with
  | .int n => .ok (0 ≤ n && n < terms)
  | .bool b => .ok (b.toNat < terms)
  | .float x => .ok (0.0 ≤ x && x < Float.ofNat terms)
  | _ => .error .wrongForm

/-- The index that a component stands for; only an integer is one. -/
def componentIndex : Datum → Except (Fault Float) Nat
  | .int n => .ok n.toNat
  | .bool _ => .error .malformed
  | _ => .error .indexOutside

/-- The label of a line: one without a text is named by its number. -/
def lineLabel (label : Datum) (number : Nat) : String :=
  if label.isPresent && label.label != "" then label.label else "_child" ++ number.repr

/-- The line of one compared spline, with its label and its number among the lines. -/
def comparedLine (component samples margin label : Datum) (number : Nat) (config : Config)
    (s : Spline Float) : Run Float (Spline Float) PlotLine :=
  (Run.ask s (hasComponent component s.terms)).andThen fun has s =>
    if !has then .fail s (.componentMissing label component)
    else
      ((s.sampleUniform config samples margin).mapFault (wrap (.comparisonFailed label))).andThen
        fun sampled s => .ask s do
          let k ← componentIndex component
          pure {
            label := lineLabel label number
            xs := sampled.parameters
            ys := column sampled.values k }

/-- The lines of compared splines, one after the other, up to the first fault. -/
def comparedLines (component samples margin : Datum) (p : Pool Float) :
    Nat → List (Datum × SplineId) → Run Float (Pool Float) (List PlotLine)
  | _, [] => .done p []
  | number, (label, i) :: rest =>
    (p.on i (comparedLine component samples margin label number)).andThen fun line p =>
      (comparedLines component samples margin p (number + 1) rest).map (line :: ·)

/-- One component of several splines in one axis, with the control points of the first. -/
def ofComparison (plotter : Plotter) (p : Pool Float) (splines : List (Datum × SplineId))
    (component samples margin : Datum) : Run Float (Pool Float) Figure :=
  match splines with
  | [] => .fail p .nothingToCompare
  | (_, first) :: _ =>
    (comparedLines component samples margin p 0 splines).andThen fun lines p =>
      p.on first fun _ s => .ask s do
        let k ← componentIndex component
        let yLabel ← componentLabel k
        plotter.draw {
          title := none
          axes := [{
            xLabel := "parameter"
            yLabel
            hasLegend := true
            lines
            points := [controlPoints s k] }] }

end Figure

end CurveKit
