/-!
# The numbers a curve is computed with

Every interpolation formula of the library is written once, over a type of
scalars. `Float` is the instance that runs; an ordered field is the instance in
which the formulas are exact. A scalar type names its literals, its order, the
absolute value, the third power, and which of its values are finite.
-/
namespace CurveKit

/-- The operations that the curve formulas use, and nothing about their laws. -/
class Scalar (K : Type) extends Add K, Sub K, Mul K, Div K, Neg K, LT K, LE K, BEq K where
  ofNat : Nat → K
  magnitude : K → K
  cube : K → K
  isFinite : K → Bool
  decLt : (a b : K) → Decidable (a < b)
  decLe : (a b : K) → Decidable (a ≤ b)

namespace Scalar

variable {K : Type} [Scalar K]

instance (priority := low) literal (n : Nat) : OfNat K n := ⟨Scalar.ofNat n⟩

instance (a b : K) : Decidable (a < b) := Scalar.decLt a b

instance (a b : K) : Decidable (a ≤ b) := Scalar.decLe a b

end Scalar

instance : Scalar Float where
  ofNat := Float.ofNat
  magnitude := Float.abs
  cube x := x ^ (3.0 : Float)
  isFinite := Float.isFinite
  decLt := inferInstance
  decLe := inferInstance

/-- Entry `i` of a sequence of scalars, 0 past its end. -/
def nth {K : Type} [Scalar K] (a : Array K) (i : Nat) : K := a.getD i 0

end CurveKit
