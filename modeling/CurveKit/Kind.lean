import CurveKit.Text.Alphabet

/-!
# Kinds of splines

The ten ways in which a curve is laid through its control points, what extension
data each of them needs with a control point, and the keywords that name them.

Results:
* `mem_all`: every kind is listed.
* `ofKeyword?_name`, `ofKeyword?_shortName`: a kind answers to both of its keywords.
-/
namespace CurveKit

/-- The interpolation scheme of a spline. -/
inductive Kind where
  | linear
  | quadratic
  | natural
  | catmullRom
  | sor
  | akima
  | tcb
  | basicX
  | extendedX
  | generalX
  deriving DecidableEq, Repr

/-- The extension data that comes with a control point. -/
inductive Tag where
  | none
  | tcb
  | globalShape
  | perPointShape
  deriving DecidableEq, Repr

def Tag.name : Tag → String
  | none => "none"
  | tcb => "tcb"
  | globalShape => "global_shape"
  | perPointShape => "per_point_shape"

namespace Kind

def all : List Kind :=
  [linear, quadratic, natural, catmullRom, sor, akima, tcb, basicX, extendedX, generalX]

theorem mem_all (k : Kind) : k ∈ all := by cases k <;> decide

def name : Kind → String
  | linear => "linear_spline"
  | quadratic => "quadratic_spline"
  | natural => "natural_spline"
  | catmullRom => "catmull_rom_spline"
  | sor => "sor_spline"
  | akima => "akima_spline"
  | tcb => "tcb_spline"
  | basicX => "basic_x_spline"
  | extendedX => "extended_x_spline"
  | generalX => "general_x_spline"

def shortName : Kind → String
  | linear => "linear"
  | quadratic => "quadratic"
  | natural => "natural"
  | catmullRom => "catmull_rom"
  | sor => "sor"
  | akima => "akima"
  | tcb => "tcb"
  | basicX => "basic_xspline"
  | extendedX => "extended_xspline"
  | generalX => "general_xspline"

/-- How a spline of this kind introduces itself. -/
def title : Kind → String
  | linear => "LinearSpline"
  | quadratic => "QuadraticSpline"
  | natural => "NaturalSpline"
  | catmullRom => "CatmullRomSpline"
  | sor => "SorSpline"
  | akima => "AkimaSpline"
  | tcb => "TcbSpline"
  | basicX => "BasicXSpline"
  | extendedX => "ExtendedXSpline"
  | generalX => "GeneralXSpline"

/-- The extension data that a kind asks for. -/
def tag : Kind → Tag
  | tcb => .tcb
  | basicX => .globalShape
  | extendedX => .perPointShape
  | generalX => .perPointShape
  | _ => .none

/-- The fewest control points that make a curve of this kind. -/
def minPoints : Kind → Nat
  | quadratic => 3
  | catmullRom => 4
  | sor => 4
  | akima => 4
  | _ => 2

/-- The kind that a keyword names, white space around it and case ignored. A plain cubic
spline is a Catmull-Rom spline. -/
def ofKeyword? (keyword : String) : Option Kind :=
  let key := String.ofList ((Text.trim Text.isGap keyword.toList).map Text.lower)
  if key == "cubic_spline" then some catmullRom
  else all.find? fun k => key == k.name || key == k.shortName

theorem ofKeyword?_name (k : Kind) : ofKeyword? k.name = some k := by
  cases k <;> decide +kernel

theorem ofKeyword?_shortName (k : Kind) : ofKeyword? k.shortName = some k := by
  cases k <;> decide +kernel

end Kind

end CurveKit
