import CurveKit.Datum.Number

/-!
# Data as keys

Data label and name things. A list, a group or a dictionary labels nothing. Numbers
are the same label if they have the same value, whether they are integers, doubles
or truth values, and a number is never the same label as its numeral.

Results:
* `sameKey_int`: two integers are one label only if they are equal.
-/
namespace CurveKit.Datum

def isKey : Datum → Bool
  | list _ => false
  | group _ => false
  | dictionary _ => false
  | _ => true

/-- Does a double have the value of an integer? Nothing is rounded. -/
def equalsInt (x : Float) (n : Int) : Bool :=
  match Decimal.Parts.ofFloat x with
  | .finite negative mantissa exponent =>
    let r := Decimal.scaleRatio 2 exponent mantissa 1
    r.1 == n.natAbs * r.2 && (r.1 == 0 || negative == decide (n < 0))
  | _ => false

def integer? : Datum → Option Int
  | int n => some n
  | bool b => some b.toNat
  | _ => none

/-- Are two data the same label? -/
def sameKey : Datum → Datum → Bool
  | null, null => true
  | str s, str t => s == t
  | float x, float y => x == y
  | float x, d => d.integer?.any (equalsInt x)
  | d, float x => d.integer?.any (equalsInt x)
  | c, d => match c.integer?, d.integer? with
    | some m, some n => m == n
    | _, _ => false

theorem sameKey_int (m n : Int) : sameKey (int m) (int n) = true ↔ m = n := by
  simp [sameKey, integer?]

end CurveKit.Datum
