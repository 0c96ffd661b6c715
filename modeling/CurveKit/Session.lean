import CurveKit.Datum.Key
import CurveKit.Figure

/-!
# Sessions

A session works on a pool through names: some stand for splines, others for
handles, and a name that is not bound stands for nothing. `Session.step` does one
step and tells its answer, what it left in the log, and the state of the spline
that the step is about.

Results:
* `find_bind_self`, `find_bind_of_ne`, `find_unbind_self`, `find_unbind_of_ne`: what names stand
  for after a change.
-/
namespace CurveKit

/-- What a step does. The spline and the handle it is about are named by the step. -/
inductive Action where
  | create (kind : Datum) (config : Option Config.Request) (unowned : Bool)
  | tag
  | insert (parameter value : Datum)
  | insertTriples (parameter value incoming outgoing : Datum)
  | insertShape (parameter value shape : Datum)
  | insertExtension (parameter value : Datum) (extension : Except (Fault Float) (Extension Float))
  | finalize
  | evaluate (parameter : Datum)
  | get (parameter : Datum)
  | invalidate
  | domain
  | describe
  | points
  | item (index : Datum)
  | extensions
  | coefficient (segment component offset : Datum)
  | config
  | editConfig (key value : Datum)
  | setDefault (config : Option Config.Request)
  | getDefault
  | acquire
  | release
  | destroy
  | copy (target : String)
  | alias (target : String)
  | range (parameters : Datum)
  | uniform (samples margin : Datum)
  | openHandle (adopt : Bool)
  | share (target : String)
  | copyHandle (target : String)
  | close
  | isClosed
  | spline (target : String)
  | describeHandle
  | within (parameter : Datum)
  | plot (samples margin title : Datum)
  /-- Pairs of a label and the name of a spline. -/
  | compare (splines : Datum) (component samples margin : Datum)

structure Step where
  spline : Option String
  handle : Option String
  action : Action

inductive Bends where
  | none
  | tcb (incoming outgoing : List (Tcb Float))
  | shapes (shapes : List Float)
  | shape (shape : Float)

inductive Answer where
  | nothing
  | flag (b : Bool)
  | index (n : Nat)
  | text (s : String)
  | array (t : Tensor Float)
  | vector (v : List Float)
  | range (first last : Float)
  | kind (k : Kind)
  | tag (t : Tag)
  | evaluation (value : List Float) (terms : Nat)
  | point (p : Entry Float (List Float))
  | points (ps : List (Entry Float (List Float)))
  | extensions (e : Bends)
  | config (c : Config)
  | heldConfig (c : Config) (isDefault : Bool)
  | copied (text : String) (sameConfig equalConfig : Bool)
  | grid (g : Grid Float)
  | samples (s : Samples Float)
  | guarded (owners : Nat) (value : List Float)
  | figure (f : Figure)

structure Snapshot where
  points : Nat
  terms : Nat
  owners : Nat
  finalized : Bool
  destroyed : Bool
  deriving DecidableEq, Repr

structure Report where
  answer : Except (Fault Float) Answer
  snapshot : Option Snapshot
  events : List (Event Float)

/-- Names with what they stand for. -/
abbrev Names (α : Type) := List (String × α)

namespace Names

variable {α : Type}

def unbind (names : Names α) (name : String) : Names α := names.filter fun n => n.1 != name

/-- The names with one of them bound anew. -/
def bind (names : Names α) (name : String) (a : α) : Names α := (name, a) :: names.unbind name

/-- The names with one of them standing for something else, or for nothing. -/
def rebind (names : Names α) (name : String) : Option α → Names α
  | some a => names.bind name a
  | none => names.unbind name

/-- What a name stands for; the absent name stands for nothing. -/
def find (names : Names α) (name : Option String) : Option α := name.bind (names.lookup ·)

@[simp] theorem find_bind_self (names : Names α) (name : String) (a : α) :
    (names.bind name a).find (some name) = some a := by
  simp [bind, find]

theorem find_unbind_self (names : Names α) (name : String) :
    (names.unbind name).find (some name) = none := by
  induction names with
  | nil => rfl
  | cons entry names ih =>
    obtain ⟨key, a⟩ := entry
    by_cases h : key = name
    · rwa [unbind, List.filter_cons_of_neg (by simpa using h)]
    · have hb : (name == key) = false := beq_false_of_ne (Ne.symm h)
      rw [unbind, List.filter_cons_of_pos (by simpa using h)]
      simpa only [find, Option.bind_some, List.lookup_cons, hb, unbind] using ih

theorem find_unbind_of_ne (names : Names α) {name other : String} (h : other ≠ name) :
    (names.unbind name).find (some other) = names.find (some other) := by
  induction names with
  | nil => rfl
  | cons entry names ih =>
    obtain ⟨key, a⟩ := entry
    simp only [find, Option.bind_some, unbind] at ih ⊢
    by_cases hk : key = name
    · have hb : (other == key) = false := beq_false_of_ne (hk ▸ h)
      rw [List.filter_cons_of_neg (by simpa using hk)]
      simpa only [List.lookup_cons, hb] using ih
    · rw [List.filter_cons_of_pos (by simpa using hk)]
      simp only [List.lookup_cons, ih]

theorem find_bind_of_ne (names : Names α) {name other : String} (a : α) (h : other ≠ name) :
    (names.bind name a).find (some other) = names.find (some other) := by
  have hb : (other == name) = false := beq_false_of_ne h
  rw [← names.find_unbind_of_ne h]
  simp only [bind, find, Option.bind_some, List.lookup_cons, hb]

end Names

/-- A pool with names for its splines and handles. -/
structure Session where
  pool : Pool Float
  splines : Names SplineId
  handles : Names HandleId

namespace Spline

/-- The control points without their extension data. -/
def plainPoints (s : Spline Float) : List (Entry Float (List Float)) :=
  s.store.entries.map fun e => ⟨e.parameter, e.content.value⟩

/-- The extension data of the control points. -/
def bends (s : Spline Float) : Bends :=
  let kept := s.store.contents.map (·.bend)
  match s.kind.tag with
  | .none => .none
  | .tcb => .tcb (kept.map fun b => b.triple .incoming) (kept.map fun b => b.triple .outgoing)
  | .globalShape => .shape s.globalShape
  | .perPointShape => .shapes (kept.map (·.freedom))

/-- The state of a spline. -/
def snapshot (s : Spline Float) : Snapshot where
  points := s.store.size
  terms := s.terms
  owners := s.owners
  finalized := s.isFinalized
  destroyed := s.destroyed

end Spline

namespace Session

def start : Session where
  pool := .fresh
  splines := []
  handles := []

def splineAt (s : Session) (i : SplineId) : Option (Spline Float) := s.pool.splines[i]?

/-- A session with what an operation on its pool leaves. -/
def settle (s : Session) (r : Run Float (Pool Float) Answer) : Run Float Session Answer :=
  { r with state := { s with pool := r.state } }

def settleSpline (s : Session) (name : Option String) (r : Run Float (Pool Float) SplineId)
    (answer : SplineId → Pool Float → Answer) : Run Float Session Answer :=
  { answer := r.answer.map fun i => answer i r.state
    state := { s with
      pool := r.state
      splines := match name, r.answer with
        | some n, .ok i => s.splines.bind n i
        | _, _ => s.splines }
    events := r.events }

def settleHandle (s : Session) (name : Option String) (r : Run Float (Pool Float) HandleId) :
    Run Float Session Answer :=
  { answer := r.answer.map fun _ => .nothing
    state := { s with
      pool := r.state
      handles := match name, r.answer with
        | some n, .ok h => s.handles.bind n h
        | _, _ => s.handles }
    events := r.events }

/-- The configuration that a request asks for, if there is one. -/
def requested (request : Option Config.Request) : Except (Fault Float) (Option Config) :=
  match request with
  | none => .ok none
  | some r => r.build.map some

/-- Makes a spline and binds it to a name, which is unbound before anything else. -/
def create (s : Session) (name : Option String) (kind : Datum) (request : Option Config.Request)
    (unowned : Bool) : Run Float Session Answer :=
  let s := { s with splines := name.elim s.splines s.splines.unbind }
  let order : Except (Fault Float) (Option Config × Kind) := do
    let config ← requested request
    let k ← kind.kind
    pure (config, k)
  match order with
  | .error f => .fail s f
  | .ok (config, k) =>
    s.settleSpline name (if unowned then s.pool.make k config else s.pool.create k config)
      fun _ _ => .kind k

def copy (s : Session) (source : Option SplineId) (target : String) : Run Float Session Answer :=
  let s := { s with splines := s.splines.unbind target }
  match source with
  | none => .done s .nothing
  | some i =>
    s.settleSpline (some target) (s.pool.clone i) fun j pool =>
      match pool.splines[i]?, pool.splines[j]? with
      | some a, some b =>
        .copied b.text (a.config == b.config) ((pool.config a.config).agrees (pool.config b.config))
      | _, _ => .nothing

def onSpline {α : Type} (s : Session) (i : SplineId)
    (operation : Config → Spline Float → Run Float (Spline Float) α) (answer : α → Answer) :
    Run Float Session Answer :=
  s.settle ((s.pool.on i operation).map answer)

def ask {α : Type} (s : Session) (i : SplineId)
    (question : Spline Float → Except (Fault Float) α) (answer : α → Answer) :
    Run Float Session Answer :=
  s.onSpline i (fun _ t => .ask t (question t)) answer

/-- The spline that a datum names. -/
def named (s : Session) (name : Datum) : Except (Fault Float) SplineId :=
  match name with
  | .str n => match s.splines.find (some n) with
    | some i => .ok i
    | none => .error .unbound
  | d => .error (if d.isKey then .unbound else .wrongForm)

/-- The labelled splines of a comparison; a repeated label keeps its place and takes the later
spline. -/
def labelled (s : Session) :
    List (Datum × SplineId) → List Datum → Except (Fault Float) (List (Datum × SplineId))
  | found, [] => .ok found
  | found, entry :: rest => do
    let (label, name) ← entry.pair
    let i ← s.named name
    if !label.isKey then throw .wrongForm
    let same (e : Datum × SplineId) : Bool := e.1.sameKey label
    labelled s
      (if found.any same then found.map fun e => if same e then (e.1, i) else e
        else found ++ [(label, i)]) rest

def pointAt (t : Spline Float) (index : Datum) :
    Except (Fault Float) (Entry Float (List Float)) := do
  match t.store.get? (← index.index) with
  | some e => pure ⟨e.parameter, e.content.value⟩
  | none => throw .indexOutside

/-- The configuration of a spline, and whether it is the default. -/
def heldConfig (s : Session) (i : SplineId) : Except (Fault Float) Answer :=
  match s.splineAt i with
  | none => .error .unbound
  | some t => .ok (.heldConfig (s.pool.config t.config) (t.config == s.pool.default))

/-- Evaluates the spline of a handle and counts its owners, and closes the handle. -/
def within (s : Session) (h : HandleId) (parameter : Datum) : Run Float Session Answer :=
  s.settle (s.pool.within h fun i p =>
    p.on i fun config t =>
      (t.evaluate config parameter.parameter).map fun v => .guarded t.owners v.1)

/-- Steps about a spline that has to be there. -/
def onBound (s : Session) (i : SplineId) : Action → Run Float Session Answer
  | .tag => s.ask i (fun t => .ok t.kind.tag) .tag
  | .insert p v =>
    s.onSpline i (fun c t => t.insertData c p v .nothing) fun _ => .nothing
  | .insertTriples p v a b =>
    s.onSpline i (fun c t => t.insertTriples c p v a b) fun _ => .nothing
  | .insertShape p v x => s.onSpline i (fun c t => t.insertShape c p v x) fun _ => .nothing
  | .insertExtension p v extension =>
    match extension with
    | .error f => .fail s f
    | .ok e => s.onSpline i (fun c t => t.insertData c p v e) .index
  | .finalize => s.onSpline i (fun _ t => t.finalize) fun _ => .flag true
  | .evaluate p =>
    s.onSpline i (fun c t => t.evaluate c p.parameter) fun v => .evaluation v.1 v.2
  | .get p => s.onSpline i (fun c t => .ask t (t.get c p.parameter)) .vector
  | .invalidate => s.onSpline i (fun _ t => .done t.invalidate ()) fun _ => .nothing
  | .domain => s.ask i Spline.domain fun d => .range d.1 d.2
  | .describe => s.ask i (fun t => .ok t.text) .text
  | .points => s.ask i (fun t => .ok t.plainPoints) .points
  | .item k => s.ask i (fun t => pointAt t k) .point
  | .extensions => s.ask i (fun t => .ok t.bends) .extensions
  | .coefficient j k offset => s.ask i (fun t => t.coefficient j k offset) .array
  | .config => .ask s (s.heldConfig i)
  | .editConfig key value =>
    match s.splineAt i, key with
    | none, _ => .fail s .unbound
    | some t, .str k => .done { s with pool := s.pool.editConfig t.config k value } .nothing
    | some _, _ => .fail s .wrongForm
  | .range d => s.onSpline i (fun c t => t.evaluateRange c d) .grid
  | .uniform samples margin =>
    s.onSpline i (fun c t => t.sampleUniform c samples margin) .samples
  | .plot samples margin title =>
    s.onSpline i (fun c t => Figure.ofComponents .standard c t samples margin title) .figure
  | _ => .fail s .unbound

/-- Steps about a handle that has to be there. -/
def onHandle (s : Session) (h : HandleId) : Action → Run Float Session Answer
  | .share target => s.settleHandle (some target) (s.pool.share h)
  | .copyHandle target => s.settleHandle (some target) (s.pool.cloneHandle h)
  | .close => s.settle ((s.pool.close h).map .flag)
  | .isClosed => .ask s (.ok (.flag (s.pool.held h).toOption.isNone))
  | .spline target => s.settleSpline (some target) (.ask s.pool (s.pool.held h)) fun _ _ => .nothing
  | .describeHandle =>
    let text := match (s.pool.held h).toOption.bind s.splineAt with
      | some t => t.text
      | none => Datum.null.text
    .done s (.text ("SplineRef(" ++ text ++ ")"))
  | .within p => s.within h p
  | _ => .fail s .unbound

/-- Does what a step asks for. -/
def perform (s : Session) (step : Step) : Run Float Session Answer :=
  let named := s.splines.find step.spline
  match step.action with
  | .create kind config unowned => s.create step.spline kind config unowned
  | .setDefault request =>
    match requested request with
    | .error f => .fail s f
    | .ok config => s.settle ((s.pool.setDefault config).map .config)
  | .getDefault => .done s (.config s.pool.defaultConfig)
  | .acquire => match named with
    | none => .done s .nothing
    | some i => s.settle ((s.pool.acquire i).map fun _ => .flag true)
  | .release => match named with
    | none => .done s (.flag false)
    | some i => s.settle ((s.pool.release i).map .flag)
  | .destroy => match named with
    | none => .done s .nothing
    | some i => s.settle ((s.pool.destroy i).map fun _ => .nothing)
  | .copy target => s.copy named target
  | .alias target =>
    .done { s with splines := s.splines.rebind target named } .nothing
  | .openHandle adopt =>
    let s := { s with handles := step.handle.elim s.handles s.handles.unbind }
    s.settleHandle step.handle (s.pool.openHandle named adopt)
  | .compare splines component samples margin =>
    match splines.sequence >>= s.labelled [] with
    | .error f => .fail s f
    | .ok found =>
      s.settle ((Figure.ofComparison .standard s.pool found component samples margin).map .figure)
  | .share _ | .copyHandle _ | .close | .isClosed | .spline _ | .describeHandle | .within _ =>
    match s.handles.find step.handle with
    | none => .fail s .unbound
    | some h => s.onHandle h step.action
  | action => match named with
    | none => .fail s .unbound
    | some i => s.onBound i action

/-- The state of the spline a step is about: the named one, else that of the handle. -/
def snapshot (s : Session) (step : Step) : Option Snapshot :=
  let held : Option SplineId := do
    let h ← s.handles.find step.handle
    (s.pool.held h).toOption
  (((s.splines.find step.spline).orElse fun _ => held).bind s.splineAt).map Spline.snapshot

def step (s : Session) (step : Step) : Session × Report :=
  let r := s.perform step
  (r.state, { answer := r.answer, snapshot := r.state.snapshot step, events := r.events })

/-- All steps, with their reports. -/
def run (s : Session) : List Step → Session × List Report
  | [] => (s, [])
  | step :: rest =>
    let (t, report) := s.step step
    let (u, reports) := t.run rest
    (u, report :: reports)

end Session

end CurveKit
