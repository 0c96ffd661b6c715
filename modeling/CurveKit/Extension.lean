import CurveKit.Datum.Number
import CurveKit.Scalar

/-!
# Extension data

What some kinds ask for with a control point: a shape, or two triples of tension, bias
and continuity. `Extension` is what a caller hands over, whatever it holds; `Bend` is
what is kept of it. A shape that holds a text is looked at as the number that the text
reads as, but kept as the text that it is.

Results:
* `Extension.shape?_cases`: a shape is kept as a number or as a text.
-/
namespace CurveKit

/-- Tension, bias and continuity of one tangent. -/
structure Tcb (K : Type) where
  tension : K
  bias : K
  continuity : K
  deriving DecidableEq, Repr

namespace Tcb

variable {K : Type}

def toList (p : Tcb K) : List K := [p.tension, p.bias, p.continuity]

def isFinite [Scalar K] (t : Tcb K) : Bool := t.toList.all Scalar.isFinite

end Tcb

/-- Which of the two tangents of a control point. -/
inductive Side where
  | incoming
  | outgoing
  deriving DecidableEq, Repr

def Side.name : Side → String
  | incoming => "incoming"
  | outgoing => "outgoing"

/-- The extension data that is kept with a control point. -/
inductive Bend (K : Type) where
  | none
  | tcb (incoming outgoing : Tcb K)
  | shape (s : K)
  /-- A shape that is still the text it came as. -/
  | text (s : K)
  deriving DecidableEq, Repr

namespace Bend

variable {K : Type}

def isText : Bend K → Bool
  | text _ => true
  | _ => false

variable [Scalar K]

/-- The tension, bias and continuity of a tangent; all zero where none were given. -/
def triple (b : Bend K) : Side → Tcb K :=
  match b with
  | tcb incoming outgoing => fun
    | .incoming => incoming
    | .outgoing => outgoing
  | _ => fun _ => ⟨0, 0, 0⟩

/-- The shape of a control point; 0 where none was given. -/
def freedom : Bend K → K
  | shape s => s
  | text s => s
  | _ => 0

end Bend

/-- Extension data as handed over by a caller. -/
inductive Extension (K : Type) where
  | nothing
  | shape (s : K)
  /-- A shape that holds a text, which reads as a number. -/
  | textShape (s : K)
  /-- A shape that holds no number. -/
  | badShape (why : NotNumber)
  | triple (t : Tcb K)
  /-- A triple that does not hold numbers. -/
  | badTriple (why : NotNumber)
  /-- Several pieces of extension data, in a list or a group as the form says. -/
  | items (form : Form) (pieces : List (Extension K))
  /-- Anything else, of which only the form matters. -/
  | other (form : Form)

namespace Extension

variable {K : Type}

/-- The form that extension data has. -/
def form : Extension K → Form
  | nothing => .null
  | shape _ => .shape
  | textShape _ => .shape
  | badShape _ => .shape
  | triple _ => .triple
  | badTriple _ => .triple
  | items f _ => f
  | other f => f

/-- Is there extension data at all? -/
def isPresent : Extension K → Bool
  | nothing => false
  | _ => true

/-- What a shape holds, in the form in which it is kept. -/
def shape? : Extension K → Option (Except NotNumber (Bend K))
  | shape s => some (.ok (.shape s))
  | textShape s => some (.ok (.text s))
  | badShape why => some (.error why)
  | _ => none

/-- A shape is kept as a number or as a text. -/
theorem shape?_cases {e : Extension K} {b : Bend K} (h : e.shape? = some (.ok b)) :
    (∃ g, b = .shape g) ∨ ∃ g, b = .text g := by
  cases e with
  | shape g =>
    cases h
    exact .inl ⟨g, rfl⟩
  | textShape g =>
    cases h
    exact .inr ⟨g, rfl⟩
  | _ => cases h

def triple? : Extension K → Option (Except NotNumber (Tcb K))
  | triple t => some (.ok t)
  | badTriple why => some (.error why)
  | _ => none

def pair? : Extension K → Option (Except NotNumber (Tcb K) × Except NotNumber (Tcb K))
  | items _ [first, second] => do pure (← first.triple?, ← second.triple?)
  | _ => none

def isText : Extension K → Bool
  | textShape _ => true
  | _ => false

end Extension

end CurveKit
