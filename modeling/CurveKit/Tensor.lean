import CurveKit.Datum.Table

/-!
# Arrays of any number of axes

A tensor has an entry at every position of a box. Two tensors are combined entry
by entry in the shape they have in common, aligned at their last axes: an axis of
length 1, or one that a tensor does not have, stands for an axis of any length.
-/
namespace CurveKit

/-- The length of every axis, and the entry at a position, which has an index for every axis. -/
structure Tensor (α : Type) where
  shape : List Nat
  entry : List Nat → α

namespace Tensor

/-- What two shapes have in common, the last axis first. -/
def meet? : List Nat → List Nat → Option (List Nat)
  | [], t => some t
  | s, [] => some s
  | m :: s, n :: t =>
    (meet? s t).bind fun rest =>
      if n == 1 || m == n then some (m :: rest)
      else if m == 1 then some (n :: rest)
      else none

/-- What two shapes have in common. -/
def commonShape? (s t : List Nat) : Option (List Nat) :=
  (meet? s.reverse t.reverse).map List.reverse

/-- The entry at a position of a shape that the tensor has a part in. -/
def spread {α : Type} (t : Tensor α) (position : List Nat) : α :=
  let own := position.drop (position.length - t.shape.length)
  t.entry (List.zipWith (fun n i => if n == 1 then 0 else i) t.shape own)

/-- Two tensors combined entry by entry. -/
def combine? {α β γ : Type} (f : α → β → γ) (s : Tensor α) (t : Tensor β) : Option (Tensor γ) :=
  (commonShape? s.shape t.shape).map fun shape =>
    { shape, entry := fun p => f (s.spread p) (t.spread p) }

/-- A tensor changed entry by entry by another one, which must not make it larger. -/
def update? {α β : Type} (f : α → β → α) (s : Tensor α) (t : Tensor β) : Option (Tensor α) :=
  if commonShape? s.shape t.shape == some s.shape then
    some { shape := s.shape, entry := fun p => f (s.entry p) (t.spread p) }
  else none

def positions : List Nat → List (List Nat)
  | [] => [[]]
  | n :: shape => (List.range n).flatMap fun i => (positions shape).map (i :: ·)

def entries {α : Type} (t : Tensor α) : List α := (positions t.shape).map t.entry

def readingIndex (shape position : List Nat) : Nat :=
  (shape.zip position).foldl (fun k axis => k * axis.1 + axis.2) 0

/-- The tensor with some entries in reading order. -/
def ofReading {α : Type} (shape : List Nat) (entries : List α) (missing : α) : Tensor α :=
  let table := entries.toArray
  { shape, entry := fun p => table.getD (readingIndex shape p) missing }

/-- A sequence of entries as a single row; any other tensor as it is. -/
def asRows {α : Type} (t : Tensor α) : Tensor α :=
  match t.shape with
  | [n] => { shape := [1, n], entry := fun p => t.entry (p.drop 1) }
  | _ => t

/-- Two tensors one below the other, if they differ in nothing but the length of the first axis. -/
def below? {α : Type} (s t : Tensor α) : Option (Tensor α) :=
  match s.shape, t.shape with
  | m :: shape, n :: other =>
    if shape == other then
      some {
        shape := (m + n) :: shape
        entry := fun p =>
          let i := p.headD 0
          if i < m then s.entry p else t.entry ((i - m) :: p.drop 1) }
    else none
  | _, _ => none

/-- Tensors one below the other, a sequence of entries being one row. -/
def stack? {α : Type} (first : Tensor α) (rest : List (Tensor α)) : Option (Tensor α) :=
  rest.foldlM (fun s t => s.below? t.asRows) first.asRows

def column {α : Type} (n : Nat) (f : Nat → α) : Tensor α where
  shape := [n, 1]
  entry p := f (p.headD 0)

/-- A new axis of length 1 behind the first one. -/
def insertAxis {α : Type} (t : Tensor α) : Tensor α where
  shape := t.shape.take 1 ++ 1 :: t.shape.drop 1
  entry p := t.entry (p.eraseIdx 1)

end Tensor

namespace Datum

/-- The tensor a datum stands for. Every scalar in it is read before the shape is looked at. -/
def toTensor (d : Datum) : Except NotNumber (Tensor Float) := do
  let entries ← d.scalars.mapM toFloat
  match d.shape? with
  | none => throw .malformed
  | some shape =>
    if maxDimensions < shape.length then throw .malformed
    pure (Tensor.ofReading shape entries 0)

/-- Nested lists of the entries at the positions of a shape. -/
def ofEntries : List Nat → (List Nat → Float) → Datum
  | [], entry => .float (entry [])
  | n :: shape, entry => .list ((List.range n).map fun i => ofEntries shape fun p => entry (i :: p))

/-- A tensor as nested lists of numbers, or as a number if it has no axes. -/
def ofTensor (t : Tensor Float) : Datum := ofEntries t.shape t.entry

end Datum

end CurveKit
