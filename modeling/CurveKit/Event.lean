import CurveKit.Config

/-!
# What is logged

Operations leave events behind. An event has a source, a level and a message;
`Event.line` is its line in the log.
-/
namespace CurveKit

/-- How important an event is. -/
inductive Level where
  | debug
  | info
  | warning
  deriving DecidableEq, Repr

def Level.name : Level → String
  | debug => "DEBUG"
  | info => "INFO"
  | warning => "WARNING"

def Level.rank : Level → Nat
  | debug => 0
  | info => 1
  | warning => 2

/-- Something worth a line in the log. -/
inductive Event (K : Type) where
  /-- A spline was made. -/
  | created (kind : Kind)
  /-- A spline was handed to a caller who owns it. -/
  | issued (kind : Kind)
  | finalized (kind : Kind) (points terms : Nat)
  /-- A spline gave up its points. -/
  | destroyed (kind : Kind)
  | destroyedAgain (kind : Kind)
  /-- A spline was destroyed while it had several owners. -/
  | destroyedShared (kind : Kind) (owners : Nat)
  /-- The linear system of a natural spline was solved. -/
  | solved (unknowns : Nat)
  | tangentsComputed (points : Nat)
  | clamped (kind : Kind) (shape bound : K)
  | sampling (kind : Kind) (samples : Nat)
  | defaultReplaced (config : Config)

namespace Event

variable {K : Type}

def level : Event K → Level
  | destroyedAgain _ => .warning
  | destroyedShared .. => .warning
  | clamped .. => .warning
  | _ => .debug

/-- Where an event comes from. -/
def source : Event K → String
  | created _ => "scene_splines.core.spline"
  | issued _ => "scene_splines.api"
  | finalized .. => "scene_splines.core.spline"
  | destroyed _ => "scene_splines.core.spline"
  | destroyedAgain _ => "scene_splines.core.ownership"
  | destroyedShared .. => "scene_splines.core.ownership"
  | solved _ => "scene_splines.core.polynomial"
  | tangentsComputed _ => "scene_splines.core.cubic"
  | clamped .. => "scene_splines.core.xspline"
  | sampling .. => "scene_splines.utils.sampling"
  | defaultReplaced _ => "scene_splines.config"

def message : Event Float → String
  | created kind => "Created " ++ kind.name
  | issued kind => "create_spline: " ++ kind.name
  | finalized kind points terms =>
    "Finalized " ++ kind.name ++ " with " ++ points.repr ++ " points, " ++ terms.repr ++ " terms"
  | destroyed kind => "Destroyed " ++ kind.name
  | destroyedAgain kind => "destroy_spline called twice on " ++ kind.name
  | destroyedShared kind owners =>
    "Destroying " ++ kind.name ++ " with " ++ owners.repr ++ " owners left"
  | solved unknowns =>
    "Solved natural spline system for " ++ unknowns.repr ++ " interior points"
  | tangentsComputed points => "Computed TCB tangents for " ++ points.repr ++ " points"
  | clamped kind shape bound =>
    kind.name ++ ": shape " ++ Decimal.shortest shape ++ " clamped to " ++ Decimal.shortest bound
  | sampling kind samples =>
    "Sampling " ++ kind.name ++ " at " ++ samples.repr ++ " parameters"
  | defaultReplaced config => "Default spline configuration set to " ++ config.text

def line (e : Event Float) : String := e.source ++ " - " ++ e.level.name ++ " - " ++ e.message

/-- The lines of the events that are at least of the given level. -/
def lines (least : Level) (events : List (Event Float)) : List String :=
  (events.filter fun e => least.rank ≤ e.level.rank).map line

end Event

end CurveKit
