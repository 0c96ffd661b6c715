import CurveKit.Spline.Evaluate

/-!
# Pools of splines

A pool holds all splines and configurations, and the handles on splines. Splines
may share a configuration: those made without one hold the default that was in
force. A spline is destroyed when its last owner lets go of it. A handle owns a
reference from the time it is opened until it is closed.
-/
namespace CurveKit

variable {K : Type}

/-- The place of a spline in its pool. -/
abbrev SplineId := Nat

/-- The place of a handle in its pool. -/
abbrev HandleId := Nat

/-- All splines, configurations and handles; a closed handle holds no spline. -/
structure Pool (K : Type) where
  splines : List (Spline K)
  configs : List Config
  /-- The configuration for splines that are made without one. -/
  default : ConfigId
  handles : List (Option SplineId)

namespace Pool

/-- A pool with the built-in default configuration and nothing else. -/
def fresh : Pool K where
  splines := []
  configs := [.builtin]
  default := 0
  handles := []

def config (p : Pool K) (c : ConfigId) : Config := p.configs.getD c .builtin

def defaultConfig (p : Pool K) : Config := p.config p.default

/-- Does an operation on one spline, with the configuration that spline holds. -/
def on {α : Type} (p : Pool K) (i : SplineId)
    (operation : Config → Spline K → Run K (Spline K) α) : Run K (Pool K) α :=
  match p.splines[i]? with
  | none => .fail p .unbound
  | some s =>
    let r := operation (p.config s.config) s
    { r with state := { p with splines := p.splines.set i r.state } }

/-! ## Making splines -/

/-- A new spline without owners. Its configuration, its own or the default, has to be valid. -/
def make (p : Pool K) (kind : Kind) (config : Option Config) : Run K (Pool K) SplineId :=
  let (c, q) : ConfigId × Pool K := match config with
    | some own => (p.configs.length, { p with configs := p.configs ++ [own] })
    | none => (p.default, p)
  match (q.config c).settings with
  | .error f => .fail p f
  | .ok _ =>
    ⟨.ok q.splines.length, { q with splines := q.splines ++ [.empty kind c] }, [.created kind]⟩

/-- A new spline that the caller owns. -/
def create (p : Pool K) (kind : Kind) (config : Option Config) : Run K (Pool K) SplineId :=
  (p.make kind config).andThen fun i q =>
    (q.on i fun _ s => ⟨.ok i, { s with owners := s.owners + 1 }, [.issued kind]⟩)

/-- An independent copy of a spline, with a configuration of its own and one owner. -/
def clone (p : Pool K) (i : SplineId) : Run K (Pool K) SplineId :=
  match p.splines[i]? with
  | none => .fail p .unbound
  | some s =>
    match s.checkAlive with
    | .error f => .fail p f
    | .ok () =>
      (p.make s.kind (some (p.config s.config))).andThen fun j q =>
        q.on j fun _ t => .done (s.duplicate t.config) j

/-! ## Owners -/

def acquire (p : Pool K) (i : SplineId) : Run K (Pool K) Unit :=
  p.on i fun _ s =>
    match s.checkAlive with
    | .error f => .fail s f
    | .ok () => .done { s with owners := s.owners + 1 } ()

/-- One owner less; the last one destroys the spline. Tells whether that happened. -/
def release (p : Pool K) (i : SplineId) : Run K (Pool K) Bool :=
  p.on i fun _ s =>
    match s.checkAlive with
    | .error f => .fail s f
    | .ok () =>
      if 1 < s.owners then .done { s with owners := s.owners - 1 } false
      else ⟨.ok true, s.teardown, [.destroyed s.kind]⟩

/-- Destroys a spline, whoever owns it. -/
def destroy (p : Pool K) (i : SplineId) : Run K (Pool K) Unit :=
  p.on i fun _ s =>
    if s.destroyed then ⟨.ok (), s, [.destroyedAgain s.kind]⟩
    else
      let warnings := if 1 < s.owners then [.destroyedShared s.kind s.owners] else []
      ⟨.ok (), s.teardown, warnings ++ [.destroyed s.kind]⟩

/-! ## Handles -/

/-- A new handle. One on a spline takes a reference, unless it adopts one that the caller
holds already; one on nothing is closed from the start. -/
def openHandle (p : Pool K) (spline : Option SplineId) (adopt : Bool) : Run K (Pool K) HandleId :=
  let taken : Run K (Pool K) Unit := match spline with
    | some i => if adopt then .done p () else p.acquire i
    | none => .done p ()
  taken.andThen fun _ q => .done { q with handles := q.handles ++ [spline] } q.handles.length

/-- The spline of an open handle. -/
def held (p : Pool K) (h : HandleId) : Except (Fault K) SplineId :=
  match p.handles[h]? with
  | some (some i) => .ok i
  | some none => .error .closed
  | none => .error .unbound

/-- Another handle on the same spline. -/
def share (p : Pool K) (h : HandleId) : Run K (Pool K) HandleId :=
  (Run.ask p (p.held h)).andThen fun i q => q.openHandle (some i) false

/-- A handle on a copy of the spline. -/
def cloneHandle (p : Pool K) (h : HandleId) : Run K (Pool K) HandleId :=
  (Run.ask p (p.held h)).andThen fun i q =>
    (q.clone i).andThen fun j r => r.openHandle (some j) true

/-- Closes a handle and gives its reference back; tells whether that destroyed the spline. A
closed handle stays closed. -/
def close (p : Pool K) (h : HandleId) : Run K (Pool K) Bool :=
  match p.handles[h]? with
  | none => .fail p .unbound
  | some none => .done p false
  | some (some i) => { p with handles := p.handles.set h none }.release i

/-- Uses a handle for one operation and closes it, also if the operation fails. A fault of
closing goes before one of the operation. -/
def within {α : Type} (p : Pool K) (h : HandleId)
    (operation : SplineId → Pool K → Run K (Pool K) α) : Run K (Pool K) α :=
  match p.held h with
  | .error f => .fail p f
  | .ok i =>
    let r := operation i p
    let c := r.state.close h
    { answer := match c.answer with
        | .error f => .error f
        | .ok _ => r.answer
      state := c.state
      events := r.events ++ c.events }

/-! ## Configurations -/

/-- Replaces the default configuration, by the built-in one if none is given. -/
def setDefault (p : Pool K) (config : Option Config) : Run K (Pool K) Config :=
  let c := config.getD .builtin
  match c.settings with
  | .error f => .fail p f
  | .ok _ =>
    ⟨.ok c, { p with configs := p.configs ++ [c], default := p.configs.length },
      [.defaultReplaced c]⟩

/-- Changes an entry of a configuration for all who hold it, without any check. -/
def editConfig (p : Pool K) (c : ConfigId) (key : String) (d : Datum) : Pool K :=
  { p with configs := p.configs.set c ((p.config c).set key d) }

end Pool

end CurveKit
