import CurveKit.Datum.Basic
import CurveKit.Decimal.Numeral

/-!
# Data as numbers

A number, a truth value or a numeral stands for a double. `toFloat` converts it
and tells apart the three ways in which that fails.
-/
namespace CurveKit

/-- Why a datum is not a double. -/
inductive NotNumber where
  /-- A text that is no numeral, or a list that is no rectangular array. -/
  | malformed
  /-- A datum of a form that stands for no number. -/
  | wrongForm
  /-- An integer beyond the largest double. -/
  | tooLarge
  deriving DecidableEq, Repr

namespace Datum

/-- The double nearest to an integer, unless it would be infinite. -/
def intToFloat (n : Int) : Except NotNumber Float :=
  let x := Decimal.ofRatio (n < 0) n.natAbs 1
  if x.isFinite then .ok x else .error .tooLarge

/-- The double a datum stands for. -/
def toFloat : Datum → Except NotNumber Float
  | bool b => .ok (if b then 1.0 else 0.0)
  | int n => intToFloat n
  | float x => .ok x
  | str s => match Decimal.read? s with
    | some x => .ok x
    | none => .error .malformed
  | null => .error .wrongForm
  | list _ => .error .wrongForm
  | group _ => .error .wrongForm
  | dictionary _ => .error .wrongForm

/-- The double an array element stands for: as `toFloat`, but absence is not-a-number. -/
def elementToFloat : Datum → Except NotNumber Float
  | null => .ok (0.0 / 0.0)
  | d => d.toFloat

end Datum

end CurveKit
