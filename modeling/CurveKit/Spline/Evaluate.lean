import CurveKit.Run
import CurveKit.Spline.Insert

/-!
# Evaluating splines

`get` reads a finalized curve. `evaluate` finalizes a stale one first, if the
configuration allows it, and `evaluateAll` evaluates one parameter after the
other. `sample` spreads parameters evenly over the range of the control points.

Results:
* `read_of_isNumeric`: a spline without texts answers what its curve gives.
* `refresh_of_isFinalized`: a finalized spline is left as it is.
* `evaluateAll_cons`: a batch is the first evaluation and then the others.
* `length_spaced`: there are as many parameters as were asked for.
* `sampleBetween_eq`: samples are a batch of evaluations.
-/
namespace CurveKit

variable {K : Type} [Scalar K]

/-- Vectors of one width, with the width also where there are none. -/
structure Grid (K : Type) where
  columns : Nat
  rows : List (List K)

structure Samples (K : Type) where
  parameters : List K
  values : Grid K

namespace Spline

/-- Is the shape of point `i` a text? -/
def hasText (s : Spline K) (i : Nat) : Bool :=
  match s.kind.tag with
  | .globalShape => s.shared.isText
  | .perPointShape => (s.store.contents[i]?).any fun a => a.bend.isText
  | _ => false

/-- Is there a text among the shapes that a curve with these parameters asks for at `t`? It asks
for none at and beyond its ends, and none of its first and last point. -/
def asksForText (isText : Nat → Bool) (parameters : Array K) (t : K) : Bool :=
  let n := parameters.size
  let x := nth parameters
  if t ≤ x 0 then false
  else if x (n - 1) ≤ t then false
  else
    let i := segment n x t
    i != 0 && isText i || i + 2 != n && isText (i + 1)

def readsText (s : Spline K) (c : Curve K) (t : K) : Bool := asksForText s.hasText c.parameters t

/-- The value of a curve at a parameter. One cannot calculate with texts. -/
def read (config : Config) (s : Spline K) (c : Curve K) (t : K) : Except (Fault K) (List K) :=
  if s.readsText c t then .error .wrongForm else .ok (c.eval (config.isOn .extrapolate) t)

/-- The value of a finalized spline at a parameter. -/
def get (config : Config) (s : Spline K) (parameter : Reading K) :
    Except (Fault K) (List K) := do
  s.checkAlive
  s.checkPoints
  let t ← parameter
  match s.curve with
  | none => .error (.stale s.kind)
  | some c => s.read config c t

theorem read_eq_ok {config : Config} {s : Spline K} {c : Curve K} {t : K} {v : List K}
    (h : s.read config c t = .ok v) : v = c.eval (config.isOn .extrapolate) t := by
  unfold read at h
  split at h
  · cases h
  · cases h
    rfl

/-- A spline of which no shape is a text. -/
def IsNumeric (s : Spline K) : Prop := ∀ i, s.hasText i = false

theorem readsText_of_isNumeric {s : Spline K} (h : s.IsNumeric) (c : Curve K) (t : K) :
    s.readsText c t = false := by
  simp [readsText, asksForText, h _]

theorem read_of_isNumeric {s : Spline K} (h : s.IsNumeric) (config : Config) (c : Curve K)
    (t : K) : s.read config c t = .ok (c.eval (config.isOn .extrapolate) t) := by
  simp [read, readsText_of_isNumeric h]

/-- Finalizes a stale spline, if the configuration allows it. -/
def refresh (config : Config) (s : Spline K) : Run K (Spline K) Unit :=
  if !s.isFinalized && config.isOn .lazyFinalize then s.finalize else .done s ()

theorem refresh_of_isFinalized (config : Config) {s : Spline K} (h : s.isFinalized = true) :
    s.refresh config = .done s () := by
  simp [refresh, h]

/-- The value at a parameter and its width; a stale curve may be rebuilt first. -/
def evaluate (config : Config) (s : Spline K) (parameter : Reading K) :
    Run K (Spline K) (List K × Nat) :=
  (s.refresh config).andThen fun _ s =>
    .ask s ((s.get config parameter).map fun v => (v, s.terms))

def evaluateAll (config : Config) (s : Spline K) : List K → Run K (Spline K) (List (List K))
  | [] => .done s []
  | t :: rest =>
    (s.evaluate config (.ofScalar parameterName t)).andThen fun v s =>
      (evaluateAll config s rest).map (v.1 :: ·)

theorem evaluateAll_cons (config : Config) (s : Spline K) (t : K) (rest : List K) :
    s.evaluateAll config (t :: rest)
      = (s.evaluate config (.ofScalar parameterName t)).andThen fun v s =>
        (s.evaluateAll config rest).map (v.1 :: ·) := rfl

/-- The values at several parameters as a grid. -/
def evaluateGrid (config : Config) (s : Spline K) (ts : List K) : Run K (Spline K) (Grid K) :=
  let columns := s.terms
  (s.evaluateAll config ts).map fun rows => { columns, rows }

/-- Number `i` of `n` evenly spaced ones from `start` on, before the last one. Where the step is
too small for the scalars, the fraction of the way is taken first. -/
def spacedEntry (n : Nat) (start stop : K) (i : Nat) : K :=
  let way := stop - start
  let count : K := Scalar.ofNat (n - 1)
  let step := way / count
  let k : K := Scalar.ofNat i
  if step == 0 then k / count * way + start else k * step + start

/-- `n` evenly spaced numbers from `start` to `stop`, for `n` at least 2. -/
def spaced (n : Nat) (start stop : K) : List K :=
  (List.range (n - 1)).map (spacedEntry n start stop) ++ [stop]

theorem length_spaced {n : Nat} (h : 1 ≤ n) (start stop : K) :
    (spaced n start stop).length = n := by
  simp only [spaced, List.length_append, List.length_map, List.length_range, List.length_cons,
    List.length_nil]
  omega

/-- The curve at evenly spaced parameters. They are spread only if the first one can be
evaluated. -/
def sampleBetween (config : Config) (s : Spline K) (n : Nat) (start stop : K) :
    Run K (Spline K) (Samples K) :=
  let first := s.evaluate config (.ofScalar parameterName (spacedEntry n start stop 0))
  match first.answer with
  | .error f => { first with answer := .error f }
  | .ok _ =>
    let parameters := spaced n start stop
    (s.evaluateGrid config parameters).map fun values => { parameters, values }

theorem sampleBetween_eq (config : Config) (s : Spline K) {n : Nat} (h : 2 ≤ n) (start stop : K) :
    s.sampleBetween config n start stop
      = (s.evaluateGrid config (spaced n start stop)).map fun values =>
        { parameters := spaced n start stop, values } := by
  obtain ⟨m, rfl⟩ : ∃ m, n = m + 2 := ⟨n - 2, by omega⟩
  have hs : spaced (m + 2) start stop
      = spacedEntry (m + 2) start stop 0
        :: ((List.range' 1 m).map (spacedEntry (m + 2) start stop) ++ [stop]) := by
    simp [spaced, List.range_eq_range', List.range'_succ]
  cases hf : (s.evaluate config
      (.ofScalar parameterName (spacedEntry (m + 2) start stop 0))).answer with
  | error f => simp [sampleBetween, hf, hs, evaluateGrid, evaluateAll_cons, Run.andThen, Run.map,
      Except.map]
  | ok v => simp [sampleBetween, hf]

/-- The number of samples and the range they are spread over: from `margin` times the domain
before its start to as much behind its end. -/
def spread (domain : Except (Fault K) (K × K)) (samples : Except (Fault K) Nat)
    (margin : Reading K) : Except (Fault K) (Nat × K × K) := do
  let (first, last) ← domain
  let m ← margin
  let n ← samples
  let extra := (last - first) * m
  pure (n, first - extra, last + extra)

/-- The curve at evenly spaced parameters over the range of the control points and its margins. -/
def sample (config : Config) (s : Spline K) (samples : Except (Fault K) Nat)
    (margin : Reading K) : Run K (Spline K) (Samples K) :=
  match spread s.domain samples margin with
  | .error f => .fail s f
  | .ok (n, start, stop) =>
    let r := s.sampleBetween config n start stop
    { r with events := .sampling s.kind n :: r.events }

end Spline

end CurveKit
