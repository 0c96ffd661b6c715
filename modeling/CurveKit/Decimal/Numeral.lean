import CurveKit.Decimal.Binary64
import CurveKit.Text.Alphabet

/-!
# Reading a number from text

A numeral is an optional sign followed by `inf`, `infinity` or `nan` in any case,
or by decimal digits with at most one point and an optional exponent. Digits of
any script count, a single underscore may stand between two digits, and blanks
around the numeral are ignored. `read?` gives the double nearest to it.
-/
namespace CurveKit.Decimal

/-- A numeral over ASCII: other digits by their value, other blanks as spaces. -/
def normalize (c : Char) : Char :=
  if c.toNat < 127 then c
  else if Text.isBlank c then ' '
  else match Text.digitValue? c with
    | some d => Nat.digitChar d
    | none => c

/-- Drops the underscores that stand between two digits; any other makes the numeral invalid.
`afterDigit` tells whether the character before was a digit. -/
def dropUnderscores (afterDigit : Bool) : List Char → Option (List Char)
  | [] => some []
  | '_' :: c :: rest =>
    if afterDigit && c.isDigit then (dropUnderscores true rest).map (c :: ·) else none
  | c :: rest => if c == '_' then none else (dropUnderscores c.isDigit rest).map (c :: ·)

/-- The natural number that a list of digits denotes. -/
def natOfDigits (ds : List Char) : Nat :=
  ds.foldl (fun n d => 10 * n + (d.toNat - '0'.toNat)) 0

/-- Splits off an optional sign; `true` is minus. -/
def takeSign : List Char → Bool × List Char
  | '-' :: rest => (true, rest)
  | '+' :: rest => (false, rest)
  | rest => (false, rest)

/-- The exponent that ends a numeral: nothing, or the letter and a signed digit string. -/
def readExponent? : List Char → Option Int
  | [] => some 0
  | c :: rest =>
    let (negative, ds) := takeSign rest
    if (c == 'e' || c == 'E') && !ds.isEmpty && ds.all Char.isDigit then
      some (if negative then -(natOfDigits ds : Int) else natOfDigits ds)
    else none

/-- Splits a decimal into digits before the point, digits after it, and what follows. -/
def splitDecimal (cs : List Char) : List Char × List Char × List Char :=
  let whole := cs.takeWhile Char.isDigit
  match cs.dropWhile Char.isDigit with
  | '.' :: rest => (whole, rest.takeWhile Char.isDigit, rest.dropWhile Char.isDigit)
  | rest => (whole, [], rest)

/-- An unsigned decimal numeral, with the sign it is to get. -/
def readDecimal? (negative : Bool) (cs : List Char) : Option Float :=
  let (whole, fraction, rest) := splitDecimal cs
  if whole.isEmpty && fraction.isEmpty then none
  else (readExponent? rest).map fun e =>
    ofDecimal negative (natOfDigits (whole ++ fraction)) (e - fraction.length)

def readBare? (cs : List Char) : Option Float :=
  let (negative, unsigned) := takeSign cs
  let word := String.ofList (unsigned.map Char.toLower)
  if word == "inf" || word == "infinity" then some (if negative then -(1.0 / 0.0) else 1.0 / 0.0)
  else if word == "nan" then some (0.0 / 0.0)
  else (dropUnderscores false unsigned).bind (readDecimal? negative)

/-- The double that a text denotes. -/
def read? (s : String) : Option Float :=
  readBare? (Text.trim Text.isBlank (s.toList.map normalize))

end CurveKit.Decimal
