import CurveKit.Fault

/-!
# Guarding numeric work

Numeric work may break down in the ways that numbers have: a value out of range,
a division by zero, a result too large, a singular matrix. A guard turns such a
failure into a notice that names the work and keeps the failure as its origin.
Every other failure passes as it is.

Results:
* `mem_all`, `ofName?_name`: every category is listed, and found by its name.
* `guarded_of_isNumeric`, `guarded_of_not_isNumeric`: what a guard does with a failure.
-/
namespace CurveKit

/-- The notice of a category that says nothing but a message. -/
def Category.notice (c : Category) (message : String) : Notice :=
  match c with
  | general => .general (.str message) (.str "SS_GENERAL")
  | extension => .extension (.str message) .null .null
  | dimension => .dimension (.str message) .null .null
  | insufficient => .insufficient (.str message) .null .null .null
  | empty => .empty (.str message) .null
  | numeric => .numeric (.str message) .null .null none
  | stale => .stale (.str message) .null
  | released => .released (.str message) .null
  | visualization => .visualization (.str message) .null
  | configuration => .configuration (.str message) .null .null

namespace Category

def all : List Category :=
  [general, extension, dimension, insufficient, empty, numeric, stale, released, visualization,
    configuration]

theorem mem_all (c : Category) : c ∈ all := by cases c <;> decide

def ofName? (name : String) : Option Category := all.find? fun c => c.name == name

theorem ofName?_name (c : Category) : ofName? c.name = some c := by
  cases c <;> decide

end Category

namespace Origin

/-- A failure of the given name, raised with the given text. A notice shows its code as well,
and a missing key is quoted. -/
def raised (name text : String) : Origin :=
  match Category.ofName? name with
  | some c => { name, text := (c.notice text).text }
  | none => { name, text := if name == "KeyError" then Text.quoted text else text }

/-- The names of the failures that numeric work has. -/
def numericNames : List String :=
  ["ArithmeticError", "FloatingPointError", "OverflowError", "ZeroDivisionError", "ValueError",
    "UnicodeError", "LinAlgError"]

/-- Is this a failure of numeric work? -/
def isNumeric (o : Origin) : Bool := numericNames.contains o.name

/-- The failure as a guard around some work lets it pass. -/
def guarded (work : String) (o : Origin) : Origin :=
  if o.isNumeric then
    { name := Category.numeric.name
      text := (Notice.numeric (.str ("numerical failure in " ++ work)) .null .null (some o)).text }
  else o

theorem guarded_of_isNumeric {o : Origin} (work : String) (h : o.isNumeric = true) :
    (o.guarded work).name = Category.numeric.name := by
  simp [guarded, h]

theorem guarded_of_not_isNumeric {o : Origin} (work : String) (h : o.isNumeric = false) :
    o.guarded work = o := by
  simp [guarded, h]

end Origin

/-! ## Notices from their details -/

/-- What a notice may tell. -/
inductive Notice.Detail where
  | message
  | code
  | expected
  | received
  | expectedTerms
  | receivedTerms
  | kind
  | required
  | available
  | name
  | value
  | origin
  | plot
  | key
  | entry
  deriving DecidableEq, Repr

namespace Notice

/-- The details that the notices of a category may have. -/
def detailsOf : Category → List Detail
  | .general => [.message, .code]
  | .extension => [.message, .expected, .received]
  | .dimension => [.message, .expectedTerms, .receivedTerms]
  | .insufficient => [.message, .kind, .required, .available]
  | .empty => [.message, .kind]
  | .numeric => [.message, .name, .value, .origin]
  | .stale => [.message, .kind]
  | .released => [.message, .kind]
  | .visualization => [.message, .plot]
  | .configuration => [.message, .key, .entry]

/-- The message that stands where none is given, for the categories that have one. -/
def standardMessage? : Category → Option String
  | .empty => some "spline has no control points"
  | .stale => some "call finalize() before evaluating"
  | .released => some "spline has been destroyed"
  | _ => none

/-- The origin that a detail describes. -/
def originOf : Datum → Option Origin
  | .dictionary entries =>
    match entries.lookup "type", entries.lookup "text" with
    | some (.str name), some (.str text) => some (.raised name text)
    | _, _ => none
  | _ => none

/-- The notice of a category with the given details. Details of other categories are refused,
and so is a missing message where no standard one exists. -/
def ofDetails (c : Category) (details : List (Detail × Datum)) : Except (Fault Float) Notice :=
  if details.any fun d => !(detailsOf c).contains d.1 then .error .wrongForm
  else
    let detail (d : Detail) : Datum := (details.lookup d).getD .null
    match (details.lookup .message).orElse fun _ => (standardMessage? c).map Datum.str with
    | none => .error .wrongForm
    | some message => .ok <| match c with
      | .general => .general message ((details.lookup .code).getD (.str "SS_GENERAL"))
      | .extension => .extension message (detail .expected) (detail .received)
      | .dimension => .dimension message (detail .expectedTerms) (detail .receivedTerms)
      | .insufficient => .insufficient message (detail .kind) (detail .required)
        (detail .available)
      | .empty => .empty message (detail .kind)
      | .numeric => .numeric message (detail .name) (detail .value) (originOf (detail .origin))
      | .stale => .stale message (detail .kind)
      | .released => .released message (detail .kind)
      | .visualization => .visualization message (detail .plot)
      | .configuration => .configuration message (detail .key) (detail .entry)

end Notice

end CurveKit
