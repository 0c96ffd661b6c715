import CurveKit.Datum.Basic

/-!
# Notices

The written form of a refusal: a sentence, the details that are known, and a
code. Details may be missing, and then their part of the text is left out.
`Notice.body` is the text, `Notice.text` puts the code in front of it.
-/
namespace CurveKit

inductive Category where
  | general
  | extension
  | dimension
  | insufficient
  | empty
  | numeric
  | stale
  | released
  | visualization
  | configuration
  deriving DecidableEq, Repr

def Category.name : Category → String
  | general => "SceneSplinesError"
  | extension => "ExtensionMismatch"
  | dimension => "DimensionMismatch"
  | insufficient => "InsufficientControlPoints"
  | empty => "EmptySpline"
  | numeric => "InvalidNumeric"
  | stale => "SplineNotFinalized"
  | released => "SplineReleasedError"
  | visualization => "VisualizationError"
  | configuration => "ConfigurationError"

/-- A failure that a notice reports as its origin: its name and its text. -/
structure Origin where
  name : String
  text : String
  deriving DecidableEq, Repr

/-- A refusal with its details; an absent detail is `null`. -/
inductive Notice where
  | general (message code : Datum)
  | extension (message expected received : Datum)
  | dimension (message expected received : Datum)
  | insufficient (message kind required available : Datum)
  | empty (message kind : Datum)
  | numeric (message name value : Datum) (origin : Option Origin)
  | stale (message kind : Datum)
  | released (message kind : Datum)
  | visualization (message plot : Datum)
  | configuration (message key value : Datum)

namespace Notice

def category : Notice → Category
  | general .. => .general
  | extension .. => .extension
  | dimension .. => .dimension
  | insufficient .. => .insufficient
  | empty .. => .empty
  | numeric .. => .numeric
  | stale .. => .stale
  | released .. => .released
  | visualization .. => .visualization
  | configuration .. => .configuration

def code : Notice → Datum
  | general _ code => code
  | extension .. => .str "SS_EXTENSION"
  | dimension .. => .str "SS_DIMENSION"
  | insufficient .. => .str "SS_INSUFFICIENT"
  | empty .. => .str "SS_EMPTY"
  | numeric .. => .str "SS_NUMERIC"
  | stale .. => .str "SS_STALE"
  | released .. => .str "SS_RELEASED"
  | visualization .. => .str "SS_VISUALIZATION"
  | configuration .. => .str "SS_CONFIG"

/-- A part of the text that is there only if its detail is. -/
def ifPresent (detail : Datum) (part : String → String) : String :=
  if detail.isPresent then part detail.label else ""

/-- A part of the text that is there only if its detail says something. -/
def ifTruthy (detail : Datum) (part : String → String) : String :=
  if detail.isTruthy then part detail.label else ""

/-- The details with their names, without the absent ones, in parentheses. -/
def detailList (details : List (String × Datum)) : String :=
  let known := details.filter fun d => d.2.isPresent
  if known.isEmpty then ""
  else " (" ++ Datum.commaSeparated (known.map fun d => d.1 ++ "=" ++ d.2.label) ++ ")"

def originText : Option Origin → String
  | none => ""
  | some o => " (caused by: " ++ o.name ++ ": " ++ o.text ++ ")"

def numericText (message name value : Datum) : String :=
  "Invalid numeric input: " ++ message.label
    ++ ifPresent name fun n => " (" ++ n ++ "=" ++ value.text ++ ")"

def body : Notice → String
  | general message _ => message.label
  | extension message expected received =>
    "Extension mismatch: " ++ message.label ++ ifPresent expected fun e =>
      " (expected: " ++ e ++ ifPresent received (", received: " ++ ·) ++ ")"
  | dimension message expected received =>
    "Dimension mismatch: " ++ message.label ++ ifPresent received fun r =>
      if expected.isPresent then " (expected " ++ expected.label ++ " terms, got " ++ r ++ ")"
      else " (got " ++ r ++ " terms)"
  | insufficient message kind required available =>
    "Insufficient control points: " ++ message.label
      ++ detailList [("kind", kind), ("required", required), ("available", available)]
  | empty message kind =>
    "Empty spline" ++ ifTruthy kind (" (" ++ · ++ ")") ++ ": " ++ message.label
  | numeric message name value origin => numericText message name value ++ originText origin
  | stale message kind =>
    "Spline not finalized: " ++ message.label ++ ifTruthy kind (" (kind=" ++ · ++ ")")
  | released message kind =>
    "Released spline" ++ ifTruthy kind (" (" ++ · ++ ")") ++ ": " ++ message.label
  | visualization message plot =>
    "Visualization failed" ++ ifTruthy plot (" (" ++ · ++ ")") ++ ": " ++ message.label
  | configuration message key value =>
    "Configuration error: " ++ message.label ++ ifTruthy key fun k =>
      " (key: " ++ k ++ ifTruthy value (", value: " ++ ·) ++ ")"

/-- The origin a numeric notice reports. -/
def origin? : Notice → Option Origin
  | numeric _ _ _ origin => origin
  | _ => none

/-- What the notice carries as its message: its text, or the sentence of a general notice as
it was given. -/
def message : Notice → Datum
  | general message _ => message
  | n => .str n.body

/-- The text of a notice behind its code. -/
def text (n : Notice) : String := "[" ++ n.code.label ++ "] " ++ n.body

/-- The text of a notice behind its code, its origin left out. -/
def textWithoutOrigin : Notice → String
  | numeric message name value _ => text (numeric message name value none)
  | n => n.text

end Notice

end CurveKit
