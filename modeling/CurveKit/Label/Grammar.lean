import CurveKit.Label.Symbol

/-!
# Labels with formulas

A label is a text on a figure. In a line of it whose dollar signs come in pairs,
formulas stand between them; a sign behind a backslash does not count. A formula is
a row of pieces: symbols, groups in braces, commands with their arguments, each with
a lower and an upper index, and fences. A label can be set if all formulas in it are
such rows.

Results:
* `isReadableLine_of_not_mem`: a line without a dollar sign can be set.
-/
namespace CurveKit.Label

/-! ## Words -/

/-- Commands whose sign goes on top of what follows. -/
def accentNames : List String := [
  "hat", "breve", "bar", "grave", "acute", "tilde", "dot", "ddot", "dddot", "ddddot", "vec",
  "overrightarrow", "overleftarrow", "mathring", "widehat", "widetilde", "widebar"]

/-- Characters that make an accent behind a backslash. -/
def accentMarks : List Char := "\"`'~.^".toList

/-- Commands that choose a font for what follows, or behind `math` for one group. -/
def fontNames : List String := [
  "rm", "cal", "it", "tt", "sf", "bf", "bfit", "default", "bb", "frak", "scr", "regular"]

/-- The names of functions. -/
def functionNames : List String := [
  "arccos", "csc", "ker", "min", "arcsin", "deg", "lg", "Pr", "arctan", "det", "lim", "sec", "arg",
  "dim", "liminf", "sin", "cos", "exp", "limsup", "sinh", "cosh", "gcd", "ln", "sup", "cot", "hom",
  "log", "tan", "coth", "inf", "max", "tanh"]

/-- Commands for space. A letter may follow them at once. -/
def spaceNames : List String := ["thinspace", "enspace", "qquad", "quad"]

/-- Characters that make a space behind a backslash. -/
def spaceMarks : List Char := ",/>:; !".toList

/-- Commands for delimiters. A letter may follow them at once. -/
def delimiterNames : List String := [
  "backslash", "uparrow", "downarrow", "updownarrow", "Uparrow", "Downarrow", "Updownarrow", "vert",
  "Vert", "lfloor", "langle", "lceil", "lbrace", "leftbrace", "lbrack", "leftparen", "lgroup",
  "rfloor", "rangle", "rceil", "rbrace", "rightbrace", "rbrack", "rightparen", "rgroup"]

/-- Characters that are delimiters. -/
def delimiterMarks : List Char := "|/.([<)]>".toList

/-- Characters that are delimiters behind a backslash. -/
def escapedDelimiters : List Char := "|\x7b\x7d".toList

def escapedSymbols : List Char := "%$\x7b\x7d[]_|".toList

/-- Is a character a symbol of a formula? -/
def isSymbol (c : Char) : Bool :=
  c.isAlphanum || " +-*/<>=:,.;!?&'@()[]|".toList.contains c
    || (0x80 ≤ c.toNat && c.toNat ≤ 0x1ffff)

/-! ## Single pieces

Each function takes a piece off the front of a text and gives what is left, or `none` if there
is no such piece. -/

/-- The text without blanks in front. -/
def skipBlanks (cs : List Char) : List Char := cs.dropWhile (· == ' ')

def mark? (c : Char) (cs : List Char) : Option (List Char) :=
  match skipBlanks cs with
  | d :: rest => if d == c then some rest else none
  | [] => none

/-- The name of a command in front, with what follows. -/
def command? : List Char → Option (String × List Char)
  | '\\' :: rest =>
    let name := rest.takeWhile Char.isAlpha
    if name.isEmpty then none else some (String.ofList name, rest.dropWhile Char.isAlpha)
  | _ => none

/-- A command of some that a letter may follow at once. -/
def openCommand? (names : List String) : List Char → Option (List Char)
  | '\\' :: rest =>
    (names.find? fun n => n.toList.isPrefixOf rest).map fun n => rest.drop n.length
  | _ => none

def escaped? (marks : List Char) : List Char → Option (List Char)
  | '\\' :: c :: rest => if marks.contains c then some rest else none
  | _ => none

/-- An accent without what it stands on. -/
def accent? (cs : List Char) : Option (List Char) :=
  match command? cs with
  | some (name, rest) => if accentNames.contains name then some rest else none
  | none => escaped? accentMarks cs

def symbol? (cs : List Char) : Option (List Char) :=
  match escaped? escapedSymbols cs, command? cs, cs with
  | some rest, _, _ => some rest
  | none, some (name, rest), _ => if symbolNames.contains name then some rest else none
  | none, none, '\\' :: '#' :: rest =>
    if (rest.head?.map Char.isAlpha).getD false then none else some rest
  | none, none, c :: rest => if isSymbol c then some rest else none
  | none, none, [] => none

def space? (cs : List Char) : Option (List Char) :=
  match cs with
  | '~' :: rest => some rest
  | _ => (escaped? spaceMarks cs).or (openCommand? spaceNames cs)

def delimiter? (cs : List Char) : Option (List Char) :=
  match skipBlanks cs with
  | c :: rest =>
    if delimiterMarks.contains c then some rest
    else (escaped? escapedDelimiters (c :: rest)).or (openCommand? delimiterNames (c :: rest))
  | [] => none

def number? (cs : List Char) : Option (List Char) :=
  let cs := skipBlanks cs
  let unsigned := if cs.head? == some '-' || cs.head? == some '+' then cs.drop 1 else cs
  match unsigned.takeWhile Char.isDigit, unsigned.dropWhile Char.isDigit with
  | [], '.' :: rest => if (rest.head?.map Char.isDigit).getD false then
      some (rest.dropWhile Char.isDigit) else none
  | [], _ => none
  | _, '.' :: rest => some (rest.dropWhile Char.isDigit)
  | _, rest => some rest

/-- The number of a style. -/
def style? (cs : List Char) : Option (List Char) :=
  match skipBlanks cs with
  | c :: rest => if '0' ≤ c && c ≤ '3' then some rest else none
  | [] => none

/-- A text up to a closing brace; a backslash goes with the character behind it. -/
def closedText? : List Char → Option (List Char)
  | '\\' :: _ :: rest => closedText? rest
  | c :: rest => if c == '\x7d' then some rest else closedText? rest
  | [] => none

def braced? (piece : List Char → Option (List Char)) (cs : List Char) : Option (List Char) := do
  mark? '\x7d' (← piece (← mark? '\x7b' cs))

/-- A piece in braces that may be missing. -/
def optional? (piece : List Char → Option (List Char)) : List Char → Option (List Char) :=
  braced? fun cs => some ((piece cs).getD cs)

/-! ## Rows -/

/-- Where a row stands, which tells what may be in it. -/
inductive Place where
  /-- A formula or a group. -/
  | group
  /-- The degree of a root, which ends at a bracket. -/
  | degree
  /-- Between two fences, where further ones may stand. -/
  | fence
  /-- A name, in which there are no fences. -/
  | name
  deriving DecidableEq, Repr

/-- Is there anything in front of what is left of a text? -/
def isProgress (before behind : List Char) : Bool := behind.length < before.length

mutual

/-- A symbol, an accent, a group or a command with its arguments. -/
def item? : Nat → List Char → Option (List Char)
  | 0, _ => none
  | n + 1, cs =>
    match accent? (skipBlanks cs), symbol? cs, command? cs with
    | some rest, _, _ => item? n rest
    | none, some rest, _ => some rest
    | none, none, some (name, rest) => arguments? n name rest
    | none, none, none => group? n cs

/-- The arguments of a command, or the group in a font of its own. -/
def arguments? : Nat → String → List Char → Option (List Char)
  | 0, _, _ => none
  | n + 1, name, cs =>
    if functionNames.contains name then some cs
    else if fontNames.any fun font => name == "math" ++ font then group? n cs
    else match name with
      | "frac" => do filled? n (← filled? n cs)
      | "dfrac" => do filled? n (← filled? n cs)
      | "binom" => do filled? n (← filled? n cs)
      | "genfrac" => do
        let cs ← optional? delimiter? (← optional? delimiter? cs)
        let cs ← optional? style? (← braced? number? cs)
        filled? n (← filled? n cs)
      | "overset" => do group? n (← group? n cs)
      | "underset" => do group? n (← group? n cs)
      | "sqrt" =>
        match mark? '[' cs with
        | some inside => do
          let rest := row n .degree inside
          if isProgress inside rest then filled? n (← mark? ']' rest) else none
        | none => filled? n cs
      | "overline" => filled? n cs
      | "text" => do closedText? (← mark? '\x7b' cs)
      | "operatorname" => braced? (fun cs => some (row n .name cs)) cs
      | "boldsymbol" => braced? (fun cs => some (row n .name cs)) cs
      | "substack" => braced? (lines? n) cs
      | _ => none

def group? : Nat → List Char → Option (List Char)
  | 0, _ => none
  | n + 1, cs => braced? (fun cs => some (row n .group cs)) cs

/-- A row in braces that is not empty. -/
def filled? : Nat → List Char → Option (List Char)
  | 0, _ => none
  | n + 1, cs =>
    braced? (fun cs =>
      let rest := row n .group cs
      if isProgress cs rest then some rest else none) cs

def lines? : Nat → List Char → Option (List Char)
  | 0, _ => none
  | n + 1, cs =>
    let rest := row n .group cs
    if isProgress cs rest then
      match skipBlanks rest with
      | '\\' :: '\\' :: more => some ((lines? n more).getD more)
      | _ => some rest
    else none

def indexes? : Nat → Bool → Bool → List Char → Option (List Char)
  | 0, _, _, _ => none
  | n + 1, lower, upper, cs =>
    match mark? '_' cs, mark? '^' cs with
    | some rest, _ => if lower then none else do indexes? n true upper (← item? n rest)
    | none, some rest => if upper then none else do indexes? n lower true (← item? n rest)
    | none, none => some cs

def indexed? : Nat → List Char → Option (List Char)
  | 0, _ => none
  | n + 1, cs => do
    let rest ← indexes? n false false ((item? n cs).getD cs)
    if isProgress cs rest then some rest else none

def piece? : Nat → Place → List Char → Option (List Char)
  | 0, _, _ => none
  | n + 1, place, cs =>
    match space? (skipBlanks cs), command? (skipBlanks cs) with
    | some rest, _ => some rest
    | none, some ("hspace", rest) => braced? number? rest
    | none, some ("left", rest) =>
      if place == .name then none else do
        match command? (skipBlanks (row n .fence (← delimiter? rest))) with
        | some ("right", rest) => delimiter? rest
        | _ => none
    | none, some ("middle", rest) => if place == .fence then delimiter? rest else none
    | none, some (name, rest) => if fontNames.contains name then some rest else indexed? n cs
    | none, none => indexed? n cs

def row : Nat → Place → List Char → List Char
  | 0, _, cs => cs
  | n + 1, place, cs =>
    if place == .degree && (mark? ']' cs).isSome then cs
    else match piece? n place cs with
      | some rest => row n place rest
      | none => cs

end

/-- Can a formula be set? A piece of it is reached in fewer steps than eight for each character
before it. -/
def isFormula (cs : List Char) : Bool :=
  let rest := row (8 * (cs.length + 2)) .group cs
  isProgress cs rest && (skipBlanks rest).isEmpty

/-! ## Lines -/

/-- How many dollar signs there are that do not follow a backslash. -/
def signs : List Char → Nat
  | [] => 0
  | '\\' :: '$' :: rest => signs rest
  | c :: rest => (if c == '$' then 1 else 0) + signs rest

/-- The formulas of a line, of the one that has begun the characters in reverse. A backslash
goes with the character behind it in a formula, and with a dollar sign outside of one. -/
def formulas? : Option (List Char) → List Char → Option (List (List Char))
  | none, [] => some []
  | some _, [] => none
  | none, '\\' :: '$' :: rest => formulas? none rest
  | none, c :: rest => formulas? (if c == '$' then some [] else none) rest
  | some f, '\\' :: c :: rest => formulas? (some (c :: '\\' :: f)) rest
  | some f, c :: rest =>
    if c == '$' then (formulas? none rest).map (f.reverse :: ·)
    else if c == '\r' then none
    else formulas? (some (c :: f)) rest

/-- Can a line be set? One with an odd number of dollar signs has no formulas. -/
def isReadableLine (line : List Char) : Bool :=
  signs line == 0 || signs line % 2 == 1
    || match formulas? none (line.map fun c => if c == '\t' then ' ' else c) with
      | some formulas => formulas.all isFormula
      | none => false

theorem signs_eq_zero_of_not_mem {line : List Char} (h : '$' ∉ line) : signs line = 0 := by
  fun_induction signs line with
  | case1 => rfl
  | case2 rest ih => simp at h
  | case3 c rest _ ih =>
    simp only [List.mem_cons, not_or] at h
    have hc : (c == '$') = false := beq_false_of_ne (Ne.symm h.1)
    simp [hc, ih h.2]

theorem isReadableLine_of_not_mem {line : List Char} (h : '$' ∉ line) :
    isReadableLine line = true := by
  simp [isReadableLine, signs_eq_zero_of_not_mem h]

end CurveKit.Label

namespace CurveKit

/-- Can a label be set? -/
def isReadableLabel (label : String) : Bool :=
  (label.splitOn "\n").all fun line => Label.isReadableLine line.toList

end CurveKit
