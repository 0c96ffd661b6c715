import CurveKit.Fault

/-!
# What an axis shows

The axis of a plot shows the span of its data with a margin on both sides, and
carries marks at the multiples of a round step, one beyond each end. Near the
largest double a distance or a mark may be no double any more; then the axis cannot
be laid out.

Results:
* `isFinite_shown`: an axis shows nothing but finite numbers.
-/
namespace CurveKit

structure Span where
  low : Float
  high : Float

namespace Span

/-- The part of the data's span that an axis shows beyond each end. -/
def marginShare : Float := 0.05

/-- The span of some numbers; that of no numbers is empty. -/
def ofData (xs : List Float) : Span where
  low := xs.foldl (fun a x => if x < a then x else a) (1.0 / 0.0)
  high := xs.foldl (fun a x => if a < x then x else a) (-1.0 / 0.0)

def length (s : Span) : Float := s.high - s.low

def middle (s : Span) : Float := (s.high + s.low) / 2.0

def isFinite (s : Span) : Bool := s.low.isFinite && s.high.isFinite

/-- The greatest magnitude in a span. -/
def magnitude (s : Span) : Float :=
  if s.low.abs < s.high.abs then s.high.abs else s.low.abs

/-- A span that is too short for its magnitude grows by a share of its ends; one that is empty or
next to zero becomes a fixed one. -/
def widen (s : Span) : Span :=
  if !s.isFinite || s.magnitude < 2.2e-287 then ⟨-marginShare, marginShare⟩
  else if s.length ≤ s.magnitude * 1e-15 then
    ⟨s.low - marginShare * s.low.abs, s.high + marginShare * s.high.abs⟩
  else s

/-- A span with a margin on both sides; a margin that is not finite is left out. -/
def withMargin (s : Span) : Span :=
  let margin := s.length * marginShare
  let margin := if margin.isFinite then margin else 0.0
  ⟨s.low - margin, s.high + margin⟩

/-- What is shown where the margins reach beyond the largest double. -/
def speck : Span := ⟨-1e-12, 1e-12⟩

/-- What an axis shows of its data. -/
def shown (xs : List Float) : Span :=
  let s := (ofData xs).widen.withMargin
  if s.isFinite then s else speck

theorem isFinite_speck : speck.isFinite = true := by decide

theorem isFinite_shown (xs : List Float) : (shown xs).isFinite = true := by
  by_cases hs : (ofData xs).widen.withMargin.isFinite
  · rw [shown, if_pos hs]
    exact hs
  · rw [shown, if_neg hs]
    exact isFinite_speck

/-- The steps between marks, as multiples of a power of ten. -/
def roundSteps : List Float := [0.1, 0.2, 0.25, 0.5, 1.0, 2.0, 2.5, 5.0, 10.0, 20.0]

/-- The power of ten at or below a number. -/
def powerOfTen (x : Float) : Float := Float.pow 10.0 x.log10.floor

/-- The multiples of a step from the one at or before a span to the one at or behind it. -/
def multiples (s : Span) (step : Float) : Except (Fault Float) (List Float) :=
  let first := (s.low / step).floor * step
  let reach := s.high - first
  if first.isFinite && reach.isFinite then
    let count := (reach / step).floor
    let last := if reach / step - count < 1e-10 then count else count + 1.0
    .ok ((List.range (last.toUInt64.toNat + 1)).map fun k => Float.ofNat k * step + first)
  else .error .malformed

/-- The multiples of the first of several steps that has two in the span, or of the last one. -/
def firstMultiples (s : Span) : List Float → Except (Fault Float) (List Float)
  | [] => .ok []
  | [step] => s.multiples step
  | step :: rest => do
    let marks ← s.multiples step
    if 2 ≤ marks.countP fun m => s.low ≤ m && m ≤ s.high then pure marks
    else s.firstMultiples rest

/-- Where marks are counted from: near zero, zero; far from it, a power of ten. -/
def origin (s : Span) : Float :=
  if s.middle.abs / s.length < 100.0 then 0.0
  else if s.middle < 0.0 then -powerOfTen s.middle.abs
  else powerOfTen s.middle.abs

/-- The marks of an axis that has room for a number of them. -/
def marks (s : Span) (room : Float) : Except (Fault Float) (List Float) := do
  if !(s.length.isFinite && s.middle.isFinite) then throw .malformed
  let t : Span := ⟨s.low - s.origin, s.high - s.origin⟩
  let steps := roundSteps.map (· * powerOfTen (s.length / room))
  let short := steps.takeWhile (· < t.length / room)
  let found ← t.firstMultiples ((steps.drop short.length).take 1 ++ short.reverse)
  let marks := found.map (· + s.origin)
  if marks.all Float.isFinite then pure marks else throw .tooLarge

end Span

end CurveKit
