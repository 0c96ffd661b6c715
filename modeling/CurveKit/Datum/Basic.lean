import CurveKit.Decimal.Printer
import CurveKit.Text.Quoted

/-!
# Untyped data

Callers hand over parameters, values, extension data and configuration entries as
data of any form. A `Datum` is one of them. It can be written out inside a
message: `text` writes it in full, `label` writes a text without quotes.
-/
namespace CurveKit

/-- A piece of data: the scalars, lists, fixed groups, and dictionaries in the order of their
entries. -/
inductive Datum where
  | null
  | bool (b : Bool)
  | int (n : Int)
  | float (x : Float)
  | str (s : String)
  | list (items : List Datum)
  | group (items : List Datum)
  | dictionary (entries : List (String × Datum))

/-- The form of a piece of data: those of a `Datum`, and the two of finished extension data. -/
inductive Form where
  | null
  | bool
  | int
  | float
  | text
  | list
  | group
  | dictionary
  | shape
  | triple
  deriving DecidableEq, Repr

/-- The name of a form. -/
def Form.name : Form → String
  | null => "NoneType"
  | bool => "bool"
  | int => "int"
  | float => "float"
  | text => "str"
  | list => "list"
  | group => "tuple"
  | dictionary => "dict"
  | shape => "ShapeParam"
  | triple => "TcbParam"

namespace Datum

/-- An integer in decimal. -/
def intText : Int → String
  | .ofNat n => n.repr
  | .negSucc n => "-" ++ (n + 1).repr

def commaSeparated (items : List String) : String := ", ".intercalate items

def inParentheses : List String → String
  | [item] => "(" ++ item ++ ",)"
  | items => "(" ++ commaSeparated items ++ ")"

mutual

/-- The full written form: texts quoted, lists in brackets, groups in parentheses,
dictionaries in braces. -/
def text : Datum → String
  | null => "None"
  | bool b => if b then "True" else "False"
  | int n => intText n
  | float x => Decimal.shortest x
  | str s => Text.quoted s
  | list items => "[" ++ commaSeparated (itemTexts items) ++ "]"
  | group items => inParentheses (itemTexts items)
  | dictionary entries => "\x7b" ++ commaSeparated (entryTexts entries) ++ "\x7d"

def itemTexts : List Datum → List String
  | [] => []
  | d :: rest => d.text :: itemTexts rest

def entryTexts : List (String × Datum) → List String
  | [] => []
  | (key, d) :: rest => (Text.quoted key ++ ": " ++ d.text) :: entryTexts rest

end

/-- A text as it is, anything else in full. -/
def label : Datum → String
  | str s => s
  | d => d.text

def form : Datum → Form
  | null => .null
  | bool _ => .bool
  | int _ => .int
  | float _ => .float
  | str _ => .text
  | list _ => .list
  | group _ => .group
  | dictionary _ => .dictionary

/-- Does the datum count as yes where a switch is read? Only absence, false, zero and the
empty text, list, group and dictionary count as no. -/
def isTruthy : Datum → Bool
  | null => false
  | bool b => b
  | int n => n != 0
  | float x => x != 0.0
  | str s => !s.isEmpty
  | list items => !items.isEmpty
  | group items => !items.isEmpty
  | dictionary entries => !entries.isEmpty

def isPresent : Datum → Bool
  | null => false
  | _ => true

end Datum

end CurveKit
