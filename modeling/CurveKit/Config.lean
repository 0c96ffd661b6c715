import CurveKit.Fault

/-!
# Configurations

What a spline is allowed to hold and how it behaves outside its control points. A
configuration is filled from untyped data and may later be changed to anything,
so its entries are data; `Config.settings` checks them and gives the typed view.

Results:
* `settings_builtin`: the built-in configuration is valid.
* `set_eq_self`: an unknown key changes nothing.
* `agrees_self`: a valid configuration agrees with itself.
-/
namespace CurveKit

/-- The entries of a configuration as they were given. -/
structure Config where
  /-- The widest value that is accepted. -/
  maxTerms : Datum
  /-- Is a stale curve rebuilt when it is evaluated? -/
  lazyFinalize : Datum
  /-- Are shapes outside the range moved into it instead of refused? -/
  clampShapes : Datum
  /-- Do linear and quadratic curves continue past their ends? -/
  extrapolate : Datum

/-- The entries of a valid configuration. -/
structure Settings where
  maxTerms : Nat
  lazyFinalize : Bool
  clampShapes : Bool
  extrapolate : Bool
  deriving DecidableEq, Repr

namespace Config

variable {K : Type}

def builtin : Config where
  maxTerms := .int maxTermsLimit
  lazyFinalize := .bool true
  clampShapes := .bool true
  extrapolate := .bool true

def keys : List String :=
  ["max_terms", Switch.lazyFinalize.key, Switch.clampShapes.key, Switch.extrapolate.key]

/-- The configuration with one entry changed; an unknown key changes nothing. -/
def set (c : Config) (key : String) (d : Datum) : Config :=
  if key == "max_terms" then { c with maxTerms := d }
  else if key == Switch.lazyFinalize.key then { c with lazyFinalize := d }
  else if key == Switch.clampShapes.key then { c with clampShapes := d }
  else if key == Switch.extrapolate.key then { c with extrapolate := d }
  else c

def switch (c : Config) : Switch → Datum
  | .lazyFinalize => c.lazyFinalize
  | .clampShapes => c.clampShapes
  | .extrapolate => c.extrapolate

def isOn (c : Config) (s : Switch) : Bool := (c.switch s).isTruthy

/-- The widest accepted value: an integer from 1 to the limit. -/
def checkMaxTerms : Datum → Except (Fault K) Nat
  | .int n =>
    if 1 ≤ n ∧ n ≤ (maxTermsLimit : Int) then .ok n.toNat else .error (.maxTermsOutside n)
  | d => .error (.maxTermsForm d.form)

/-- A switch that is a truth value. -/
def checkSwitch (c : Config) (s : Switch) : Except (Fault K) Bool :=
  match c.switch s with
  | .bool b => .ok b
  | d => .error (.switchForm s d)

/-- The typed view of a configuration, if every entry is valid; the entries are checked in
order and the first invalid one is reported. -/
def settings (c : Config) : Except (Fault K) Settings := do
  let maxTerms ← checkMaxTerms c.maxTerms
  let lazyFinalize ← c.checkSwitch .lazyFinalize
  let clampShapes ← c.checkSwitch .clampShapes
  let extrapolate ← c.checkSwitch .extrapolate
  pure { maxTerms, lazyFinalize, clampShapes, extrapolate }

def ofEntries (entries : List (String × Datum)) : Config :=
  entries.foldl (fun c e => c.set e.1 e.2) builtin

theorem settings_builtin : (builtin.settings : Except (Fault K) Settings) =
    .ok { maxTerms := 5, lazyFinalize := true, clampShapes := true, extrapolate := true } := rfl

theorem set_eq_self (c : Config) {key : String} (d : Datum) (h : key ∉ keys) :
    c.set key d = c := by
  simp only [keys, List.mem_cons, List.not_mem_nil, or_false, not_or] at h
  simp [set, h]

/-- The keys that name no entry, in the order of their code points. -/
def unknownKeys (entries : List (String × Datum)) : List String :=
  ((entries.map Prod.fst).filter fun key => !keys.contains key).mergeSort fun a b => a ≤ b

/-- How a configuration is asked for: its entries alone, or its entries with all checks. -/
inductive Request where
  | direct (entries : List (String × Datum))
  | checked (entries : List (String × Datum))

/-- The configuration that a request asks for. -/
def Request.build : Request → Except (Fault K) Config
  | direct entries =>
    if (unknownKeys entries).isEmpty then .ok (ofEntries entries) else .error .wrongForm
  | checked entries =>
    if (unknownKeys entries).isEmpty then do
      let c := ofEntries entries
      let _ ← c.settings
      pure c
    else .error (.unknownKeys (unknownKeys entries))

/-- Are both configurations valid, with the same values? -/
def agrees (a b : Config) : Bool :=
  match (a.settings : Except (Fault Float) Settings), (b.settings : Except (Fault Float) Settings)
  with
  | .ok s, .ok t => s == t
  | _, _ => false

theorem agrees_self {c : Config} {s : Settings}
    (h : (c.settings : Except (Fault Float) Settings) = .ok s) : c.agrees c = true := by
  simp [agrees, h]

def text (c : Config) : String :=
  "SplineConfig(max_terms=" ++ c.maxTerms.text ++ ", lazy_finalize=" ++ c.lazyFinalize.text
    ++ ", clamp_shapes=" ++ c.clampShapes.text ++ ", extrapolate=" ++ c.extrapolate.text ++ ")"

end Config

end CurveKit
