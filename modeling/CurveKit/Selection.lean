import CurveKit.Fault
import CurveKit.Tensor

/-!
# Choosing parts of an array

A list of selectors chooses entries of a tensor, each on the next axes of it. A
single position drops its axis; several positions, or the places of true entries,
are combined with those of the other selectors to one shape, and a new axis uses
none. The axes that no selector is for are kept behind.

Results:
* `select?_position_position`: two positions on the first two axes leave the entries there.
-/
namespace CurveKit

/-- What is chosen of an array. -/
inductive Selector where
  /-- One position on an axis; negative ones count from the end. -/
  | position (i : Int)
  /-- Several positions on an axis. -/
  | positions (t : Tensor Int)
  /-- The places where an array of truth values is true, on as many axes as it has itself. -/
  | mask (t : Tensor Bool)
  /-- A new axis of length 1. -/
  | newAxis

namespace Selector

/-- How many axes a selector is for. -/
def axes : Selector → Nat
  | position _ => 1
  | positions _ => 1
  | mask t => t.shape.length
  | newAxis => 0

/-- The places that a selector chooses, with an index for each axis that it is for. -/
def places : Selector → Tensor (List Int)
  | position i => { shape := [], entry := fun _ => [i] }
  | positions t => { shape := t.shape, entry := fun p => [t.entry p] }
  | mask t =>
    let marked := (Tensor.positions t.shape).filter t.entry
    .ofReading [marked.length] (marked.map fun p => p.map Int.ofNat) []
  | newAxis => { shape := [], entry := fun _ => [] }

def isNewAxis : Selector → Bool
  | newAxis => true
  | _ => false

def isOnAxis (length : Nat) (i : Int) : Bool := -(length : Int) ≤ i && i < length

/-- The place of an index on an axis. -/
def offset (length : Nat) (i : Int) : Nat := (if i < 0 then i + length else i).toNat

/-- Can a selector choose from axes of the given lengths? The shape of truth values has to be
that of the axes. -/
def fits (lengths : List Nat) (s : Selector) : Bool :=
  let own := lengths.take s.axes
  let wellShaped := match s with
    | mask t => t.shape == own
    | _ => own.length == s.axes
  wellShaped && s.places.entries.all fun place => (List.zipWith isOnAxis own place).all id

/-- The lengths of the axes that selectors leave, if every selector fits. -/
def remaining? : List Nat → List Selector → Option (List Nat)
  | lengths, [] => some lengths
  | lengths, s :: rest => if s.fits lengths then remaining? (lengths.drop s.axes) rest else none

/-- The places that several selectors choose together. -/
def combined? (selectors : List Selector) : Option (Tensor (List Int)) :=
  selectors.foldlM (fun t s => Tensor.combine? (· ++ ·) t s.places)
    { shape := [], entry := fun _ => [] }

end Selector

namespace Tensor

/-- The part of a tensor that selectors choose. New axes before all other selectors come first,
later ones behind the chosen places. -/
def select? {α : Type} (t : Tensor α) (selectors : List Selector) : Option (Tensor α) := do
  let kept ← Selector.remaining? t.shape selectors
  let chosen ← Selector.combined? selectors
  let before := (selectors.takeWhile Selector.isNewAxis).length
  let behind := selectors.countP Selector.isNewAxis - before
  let shape := List.replicate before 1 ++ chosen.shape ++ List.replicate behind 1 ++ kept
  if maxDimensions < shape.length then none
  else
    let width := chosen.shape.length
    some {
      shape
      entry := fun p =>
        let place := chosen.entry ((p.drop before).take width)
        t.entry (List.zipWith Selector.offset t.shape place ++ p.drop (before + width + behind)) }

theorem select?_position_position {α : Type} {t : Tensor α} {m n : Nat} {kept : List Nat}
    (ht : t.shape = m :: n :: kept) (hd : kept.length ≤ maxDimensions) {i k : Nat} (hi : i < m)
    (hk : k < n) :
    t.select? [.position i, .position k]
      = some { shape := kept, entry := fun p => t.entry (i :: k :: p) } := by
  have hi' : Selector.isOnAxis m i = true := by simp [Selector.isOnAxis]; omega
  have hk' : Selector.isOnAxis n k = true := by simp [Selector.isOnAxis]; omega
  have oi : Selector.offset m i = i := by simp [Selector.offset]; omega
  have ok : Selector.offset n k = k := by simp [Selector.offset]; omega
  simp [select?, Selector.remaining?, Selector.combined?, Selector.fits, Selector.axes,
    Selector.places, Selector.isNewAxis, entries, positions, combine?, commonShape?, meet?, spread,
    ht, hi', hk', oi, ok, Nat.not_lt.mpr hd]

end Tensor

namespace Datum

def indexBound : Nat := Nat.pow 2 63

def isIndex (n : Int) : Bool := -(indexBound : Int) ≤ n && n < indexBound

def isWrapped (n : Int) : Bool := (indexBound : Int) ≤ n && n < 2 * indexBound

/-- The indexes that the entries of a list stand for; truth values among numbers count as
numbers. -/
def indexes? (entries : List Datum) : Option (List Int) := do
  let numbers ← entries.mapM fun
    | int n => some n
    | bool b => some b.toNat
    | _ => none
  let given := entries.filterMap fun
    | int n => some n
    | _ => none
  if given.all isIndex then some numbers
  else if given.all isWrapped then
    some (numbers.map fun n => if isWrapped n then n - 2 * indexBound else n)
  else none

/-- The truth values among some data. -/
def flags? (entries : List Datum) : Option (List Bool) :=
  entries.mapM fun
    | bool b => some b
    | _ => none

/-- The selector that nested lists stand for: true and false mark places, numbers are positions.
Lists without entries have no positions. -/
def listSelector (d : Datum) : Except (Fault Float) Selector :=
  match d.shape? with
  | none => .error .malformed
  | some shape =>
    if maxDimensions < shape.length then .error .malformed
    else
      let entries := d.scalars
      match if entries.isEmpty then none else flags? entries, indexes? entries with
      | some flags, _ => .ok (.mask (.ofReading shape flags false))
      | none, some indexes => .ok (.positions (.ofReading shape indexes 0))
      | none, none => .error .indexOutside

/-- The selector a datum stands for. -/
def selector (d : Datum) : Except (Fault Float) Selector :=
  match d with
  | null => .ok .newAxis
  | bool b => .ok (.mask { shape := [], entry := fun _ => b })
  | int n =>
    if isIndex n then .ok (.position n)
    else if isWrapped n then .error .tooLarge
    else .error .indexOutside
  | list _ => d.listSelector
  | group _ => d.listSelector
  | _ => .error .indexOutside

end Datum

end CurveKit
