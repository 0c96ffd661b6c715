import CurveKit.Datum.Number

/-!
# Data as arrays

A scalar is an array without dimensions, and a list of arrays of one shape is an
array with one dimension more. `Datum.toTable` gives the shape and the entries in
reading order. A list whose items differ in shape is refused before any entry is
looked at.
-/
namespace CurveKit

/-- The deepest nesting of lists that still counts as an array. -/
def maxDimensions : Nat := 64

/-- A rectangular array: the length in each dimension, and the entries in reading order. -/
structure Table where
  shape : List Nat
  entries : List Float

namespace Datum

mutual

def shape? : Datum → Option (List Nat)
  | list items => sharedShape? items
  | group items => sharedShape? items
  | _ => some []

/-- The shape of a list of items that all have the same shape; an empty list has length 0. -/
def sharedShape? : List Datum → Option (List Nat)
  | [] => some [0]
  | d :: rest =>
    match rest, shape? d, sharedShape? rest with
    | [], some s, _ => some (1 :: s)
    | _ :: _, some s, some (n :: t) => if s == t then some ((n + 1) :: s) else none
    | _, _, _ => none

end

mutual

def scalars : Datum → List Datum
  | list items => scalarsOf items
  | group items => scalarsOf items
  | d => [d]

def scalarsOf : List Datum → List Datum
  | [] => []
  | d :: rest => scalars d ++ scalarsOf rest

end

/-- The array a datum stands for; the first entry that is no number decides the failure. -/
def toTable (d : Datum) : Except NotNumber Table :=
  match d.shape? with
  | none => .error .malformed
  | some shape =>
    if maxDimensions < shape.length then .error .malformed
    else do
      let entries ← d.scalars.mapM elementToFloat
      pure { shape := if shape.isEmpty then [1] else shape, entries }

def ofShape (shape : List Nat) : Datum := .group (shape.map fun n => .int (Int.ofNat n))

end Datum

end CurveKit
