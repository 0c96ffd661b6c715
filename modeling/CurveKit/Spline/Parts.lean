import CurveKit.Spline.Evaluate

/-!
# Splines in parts

What a spline is made of while it is at work: lists that are kept side by side, with an entry for
each control point in each of them; a flag that tells if the curve is stale; a snapshot of the
lists, and what the scheme has computed of it. An operation changes the parts one after the other,
and where it fails it leaves what it has changed so far. The shapes of X-splines are read as they
are, not as they were when the snapshot was taken.

Results:
* `Rule.prepare_eq`: a rule is what is computed in advance, with the shapes.
-/
namespace CurveKit

variable {K : Type} [Scalar K]

/-- What a scheme computes in advance for one component, each kind its own part of it. -/
structure Cache (K : Type) where
  moments : Array K := #[]
  cubics : Array (Scheme.Cubic K) := #[]
  incoming : Array K := #[]
  outgoing : Array K := #[]

namespace Cache

/-- What the scheme of a kind computes for `n` points with the parameters `x`, the values `y` and
triples. -/
def prepare (kind : Kind) (n : Nat) (x y : Nat → K) (incoming outgoing : Nat → Tcb K) :
    Except Breakdown (Cache K) :=
  match kind with
  | .natural => (Scheme.moments n x y).map fun m => { moments := m.toArray }
  | .sor => .ok { cubics := tabulate (n - 1) (Scheme.slopeCubic x y (Scheme.chordSlope n x y)) }
  | .akima => .ok { cubics := tabulate (n - 1) (Scheme.slopeCubic x y (Scheme.akimaSlope n x y)) }
  | .tcb => .ok {
      incoming := tabulate n fun i => Scheme.incomingTangent n x y (incoming i) i
      outgoing := tabulate n fun i => Scheme.outgoingTangent n x y (outgoing i) i }
  | _ => .ok {}

/-- The rule of a component of `n` points. -/
def rule (kind : Kind) (n : Nat) (shape : Nat → K) (a : Cache K) : Rule K :=
  match kind with
  | .linear => .lines
  | .quadratic => .parabolas
  | .natural => .natural a.moments
  | .catmullRom => .chords
  | .sor => .guided a.cubics
  | .akima => .cubics a.cubics
  | .tcb => .tangents a.incoming a.outgoing
  | .basicX => .blends .basic (tabulate n shape)
  | .extendedX => .blends .extended (tabulate n shape)
  | .generalX => .blends .general (tabulate n shape)

end Cache

/-- The lists of a store as they were at one time. -/
structure Parts.Snapshot (K : Type) where
  parameters : List K
  values : List (List K)

def Parts.Snapshot.column (a : Parts.Snapshot K) (k : Nat) : Array K :=
  (a.values.map (·.getD k 0)).toArray

/-- A spline in parts. -/
structure Parts (K : Type) where
  kind : Kind
  config : ConfigId
  parameters : List K
  values : List (List K)
  incoming : List (Tcb K)
  outgoing : List (Tcb K)
  shapes : List (Bend K)
  /-- The shape that all control points of a basic X-spline share. -/
  shape : Bend K
  terms : Nat
  owners : Nat
  stale : Bool
  snapshot : Option (Parts.Snapshot K)
  /-- What the scheme has computed of the snapshot, component by component. -/
  cache : List (Cache K)
  destroyed : Bool

namespace Parts

def empty (kind : Kind) (config : ConfigId) : Parts K where
  kind
  config
  parameters := []
  values := []
  incoming := []
  outgoing := []
  shapes := []
  shape := .shape 0
  terms := 0
  owners := 0
  stale := true
  snapshot := none
  cache := []
  destroyed := false

def lists (p : Parts K) : Snapshot K := ⟨p.parameters, p.values⟩

def invalidate (p : Parts K) : Parts K := { p with stale := true, snapshot := none, cache := [] }

/-! ## Checks -/

def checkAlive (p : Parts K) : Except (Fault K) Unit :=
  if p.destroyed then .error (.released p.kind) else .ok ()

def checkPoints (p : Parts K) : Except (Fault K) Unit :=
  if p.parameters.length == 0 then .error (.noPoints p.kind)
  else if p.parameters.length < p.kind.minPoints then
    .error (.tooFewPoints p.kind p.parameters.length)
  else .ok ()

def checkApart (p : Parts K) : Except (Fault K) Unit := Spline.refuseCoincident p.parameters

def checkWidth (p : Parts K) (value : List K) : Except (Fault K) Unit :=
  if p.terms != 0 && value.length != p.terms then .error (.widthDiffers p.terms value.length)
  else .ok ()

/-! ## Adding control points -/

/-- The index of a new point: behind all that are not at a greater parameter. -/
def indexFor (p : Parts K) (t : K) : Nat :=
  upperBound (fun i => p.parameters.getD i 0) t 0 p.parameters.length

/-- Puts a point into the two lists of the store, and answers its index. -/
def putPoint (p : Parts K) (t : K) (value : List K) : Run K (Parts K) Nat :=
  .done
    { p with
      parameters := p.parameters.insertIdx (p.indexFor t) t
      values := p.values.insertIdx (p.indexFor t) value }
    (p.indexFor t)

/-- Puts extension data into the lists that a kind has for it. -/
def putBend (p : Parts K) (index : Nat) (bend : Bend K) : Run K (Parts K) Unit :=
  .done
    { p with
      incoming := if p.kind.tag = .tcb then p.incoming.insertIdx index (bend.triple .incoming)
        else p.incoming
      outgoing := if p.kind.tag = .tcb then p.outgoing.insertIdx index (bend.triple .outgoing)
        else p.outgoing
      shapes := if p.kind.tag = .perPointShape then p.shapes.insertIdx index bend else p.shapes
      shape := if p.kind.tag = .globalShape then bend else p.shape }
    ()

/-- Adds a control point: the checks, the store, the extension data, the width, and then the curve
is given up. -/
def insert (clamp : Bool) (p : Parts K) (parameter : Reading K)
    (value : Except (Fault K) (List K)) (e : Extension K) : Run K (Parts K) Nat :=
  (Run.ask p p.checkAlive).andThen fun _ p =>
  (Run.ask p (Spline.checkPresence p.kind e)).andThen fun _ p =>
  (Run.ask p parameter).andThen fun t p =>
  (Run.ask p value).andThen fun v p =>
  (Run.ask p (p.checkWidth v)).andThen fun _ p =>
  (Run.log p (Spline.checkBend clamp p.kind e)).andThen fun bend p =>
  (p.putPoint t v).andThen fun index p =>
  (p.putBend index bend).andThen fun _ p =>
  .done { p with terms := v.length }.invalidate index

/-! ## The curve -/

/-- The triples of the control points, all zero where there are none. -/
def triples (l : List (Tcb K)) (i : Nat) : Tcb K := l.getD i ⟨0, 0, 0⟩

def shapeAt (p : Parts K) (i : Nat) : K :=
  if p.kind.tag = .globalShape then p.shape.freedom else (p.shapes.getD i .none).freedom

def hasText (p : Parts K) (i : Nat) : Bool :=
  match p.kind.tag with
  | .globalShape => p.shape.isText
  | .perPointShape => (p.shapes[i]?).any Bend.isText
  | _ => false

/-- What the scheme computes of a snapshot and the triples. -/
def precompute (p : Parts K) (a : Snapshot K) : Except Breakdown (List (Cache K)) :=
  (List.range p.terms).mapM fun k =>
    Cache.prepare p.kind a.parameters.length (nth a.parameters.toArray) (nth (a.column k))
      (triples p.incoming) (triples p.outgoing)

/-- The curve that is read: the snapshot, what was computed of it, and the shapes. -/
def curve (p : Parts K) (a : Snapshot K) (cache : List (Cache K)) : Curve K where
  parameters := a.parameters.toArray
  components := cache.mapIdx fun k c => ⟨a.column k, c.rule p.kind a.parameters.length p.shapeAt⟩

/-- Finalizes: the checks, the snapshot, what the scheme computes of it, and then the flag. Where
the scheme breaks down, the snapshot stays. -/
def finalize (p : Parts K) : Run K (Parts K) Unit :=
  (Run.ask p p.checkAlive).andThen fun _ p =>
  (Run.ask p p.checkPoints).andThen fun _ p =>
  (Run.ask p p.checkApart).andThen fun _ p =>
  (Run.done { p with snapshot := some p.lists } p.lists).andThen fun a p =>
  (Run.log p (((p.precompute a).mapError .breakdown).map fun cache =>
    (cache, p.kind.precomputeEvents a.parameters.length))).andThen fun cache p =>
  ⟨.ok (), { p with cache, stale := false }, [.finalized p.kind a.parameters.length p.terms]⟩

/-- The value at a parameter. Without a snapshot there is nothing to read, and one cannot calculate
with texts. -/
def read (config : Config) (p : Parts K) (t : K) : Except (Fault K) (List K) :=
  match p.snapshot with
  | none => .error .wrongForm
  | some a =>
    if Spline.asksForText p.hasText a.parameters.toArray t then .error .wrongForm
    else .ok ((p.curve a p.cache).eval (config.isOn .extrapolate) t)

def get (config : Config) (p : Parts K) (parameter : Reading K) : Except (Fault K) (List K) := do
  p.checkAlive
  p.checkPoints
  let t ← parameter
  if p.stale then .error (.stale p.kind) else p.read config t

def refresh (config : Config) (p : Parts K) : Run K (Parts K) Unit :=
  if p.stale && config.isOn .lazyFinalize then p.finalize else .done p ()

def evaluate (config : Config) (p : Parts K) (parameter : Reading K) :
    Run K (Parts K) (List K × Nat) :=
  (p.refresh config).andThen fun _ p =>
    .ask p ((p.get config parameter).map fun v => (v, p.terms))

def evaluateAll (config : Config) (p : Parts K) : List K → Run K (Parts K) (List (List K))
  | [] => .done p []
  | t :: rest =>
    (p.evaluate config (.ofScalar parameterName t)).andThen fun v p =>
      (evaluateAll config p rest).map (v.1 :: ·)

def domain (p : Parts K) : Except (Fault K) (K × K) := Spline.ends p.kind p.parameters

/-- The curve at evenly spaced parameters over the range of the control points and its margins. -/
def sample (config : Config) (p : Parts K) (samples : Except (Fault K) Nat)
    (margin : Reading K) : Run K (Parts K) (Samples K) :=
  match Spline.spread p.domain samples margin with
  | .error f => .fail p f
  | .ok (n, start, stop) =>
    let parameters := Spline.spaced n start stop
    let r := (p.evaluateAll config parameters).map fun rows =>
      { parameters, values := ⟨p.terms, rows⟩ }
    { r with events := .sampling p.kind n :: r.events }

/-! ## Owners -/

/-- Clears the lists, gives up the curve, and forgets width and owners. -/
def teardown (p : Parts K) : Parts K :=
  { p with
    parameters := []
    values := []
    incoming := []
    outgoing := []
    shapes := []
    shape := .shape 0
    terms := 0
    owners := 0
    destroyed := true }.invalidate

/-- The same lists for one owner, and no curve. -/
def duplicate (p : Parts K) (config : ConfigId) : Parts K :=
  { p with config, owners := 1 }.invalidate

end Parts

/-- A rule is what is computed in advance, with the shapes. -/
theorem Rule.prepare_eq (kind : Kind) (n : Nat) (x y : Nat → K) (bend : Nat → Bend K)
    (globalShape : K) : Rule.prepare kind n x y bend globalShape =
      (Cache.prepare kind n x y (fun i => (bend i).triple .incoming)
        fun i => (bend i).triple .outgoing).map (Cache.rule kind n fun i =>
          if kind.tag = .globalShape then globalShape else (bend i).freedom) := by
  cases kind with
  | natural =>
    simp only [Rule.prepare, Cache.prepare]
    cases Scheme.moments n x y <;> rfl
  | _ => rfl

end CurveKit
