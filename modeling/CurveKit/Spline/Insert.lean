import CurveKit.Spline.Basic

/-!
# Adding control points

A control point comes with a parameter, a value and extension data. The checks run
in a fixed order, and the first that fails decides the fault. The last of them may
warn of a shape that is moved; then the point is stored, its extension data is put
to it, and the curve is given up.

Results:
* `checkBend_eq_ok`, `checkShape_eq_ok`, `checkPair_eq_ok`: what is kept of extension data.
* `insert_cases`: a control point is stored, or nothing happens at all.
* `size_place`: an accepted point adds one to the size.
-/
namespace CurveKit

variable {K : Type} [Scalar K]

/-- A scalar as read from a caller: a finite number, or why it is none. -/
abbrev Reading (K : Type) := Except (Fault K) K

/-- A scalar of the given name that has to be finite. -/
def Reading.ofScalar (name : Datum) (x : K) : Reading K :=
  if Scalar.isFinite x then .ok x else .error (.notFinite name x)

/-- The datum that names the parameter in a fault. -/
def parameterName : Datum := .str "parameter"

namespace Kind

/-- The smallest shape of a kind: only extended X-splines have negative ones. -/
def shapeLow : Kind → K
  | extendedX => -1
  | _ => 0

/-- The largest shape. -/
def shapeHigh : K := 1

def Holds (kind : Kind) (s : K) : Prop := kind.shapeLow ≤ s ∧ s ≤ shapeHigh

/-- The bound that a shape outside of the range is moved to. -/
def boundFor (kind : Kind) (s : K) : K := if s < kind.shapeLow then kind.shapeLow else shapeHigh

end Kind

namespace Spline

/-- Extension data is there if and only if the kind asks for it. -/
def checkPresence (kind : Kind) (e : Extension K) : Except (Fault K) Unit :=
  if kind.tag == .none then
    if e.isPresent then .error (.extensionRefused kind e.form) else .ok ()
  else if e.isPresent then .ok () else .error (.extensionMissing kind)

/-- A finite shape in the range of the kind, which is kept as it is; one outside is moved to the
nearest bound, with a warning, if `clamp` says so. -/
def checkShape (clamp : Bool) (kind : Kind) (b : Bend K) :
    Except (Fault K) (Bend K × List (Event K)) :=
  let s := b.freedom
  if !Scalar.isFinite s then .error (.shapeNotFinite s)
  else if kind.shapeLow ≤ s ∧ s ≤ Kind.shapeHigh then .ok (b, [])
  else if clamp then .ok (.shape (kind.boundFor s), [.clamped kind s (kind.boundFor s)])
  else .error (.shapeOutside kind kind.shapeLow Kind.shapeHigh s)

/-- A triple of finite numbers. -/
def checkTriple (side : Side) : Except NotNumber (Tcb K) → Except (Fault K) (Tcb K)
  | .error why => .error why.fault
  | .ok t => if t.isFinite then .ok t else .error (.tripleNotFinite side t)

/-- A pair of triples of finite numbers. -/
def checkPair (e : Extension K) : Except (Fault K) (Bend K) :=
  match e.pair? with
  | none => .error (.pairExpected e.form)
  | some (first, second) => do
    let incoming ← checkTriple .incoming first
    let outgoing ← checkTriple .outgoing second
    pure (.tcb incoming outgoing)

/-- The extension data to keep with a control point, and the warnings about it. -/
def checkBend (clamp : Bool) (kind : Kind) (e : Extension K) :
    Except (Fault K) (Bend K × List (Event K)) :=
  match kind.tag with
  | .none => .ok (.none, [])
  | .tcb => (checkPair e).map fun b => (b, [])
  | _ =>
    match e.shape? with
    | none => .error (.shapeExpected kind e.form)
    | some (.error why) => .error why.fault
    | some (.ok b) => checkShape clamp kind b

/-- A shape in range is kept as it is, and one outside moves to its bound if shapes are clamped. -/
theorem checkShape_eq_ok {clamp : Bool} {kind : Kind} {b kept : Bend K} {events : List (Event K)}
    (h : checkShape clamp kind b = .ok (kept, events)) : Scalar.isFinite b.freedom = true ∧
      (kind.Holds b.freedom ∧ kept = b ∧ events = [] ∨
        ¬ kind.Holds b.freedom ∧ clamp = true ∧ kept = .shape (kind.boundFor b.freedom) ∧
          events = [.clamped kind b.freedom (kind.boundFor b.freedom)]) := by
  unfold checkShape at h
  dsimp only at h
  split at h
  · cases h
  · rename_i hf
    refine ⟨by simpa using hf, ?_⟩
    split at h
    · rename_i hin
      cases h
      exact .inl ⟨hin, rfl, rfl⟩
    · rename_i hout
      split at h
      · rename_i hc
        cases h
        exact .inr ⟨hout, hc, rfl, rfl⟩
      · cases h

theorem checkTriple_eq_ok {side : Side} {r : Except NotNumber (Tcb K)} {t : Tcb K}
    (h : checkTriple side r = .ok t) : r = .ok t ∧ t.isFinite = true := by
  unfold checkTriple at h
  split at h
  · cases h
  · split at h
    · rename_i hf
      cases h
      exact ⟨rfl, hf⟩
    · cases h

/-- A pair of triples is kept as it is. -/
theorem checkPair_eq_ok {e : Extension K} {b : Bend K} (h : checkPair e = .ok b) :
    ∃ incoming outgoing, e.pair? = some (.ok incoming, .ok outgoing) ∧
      incoming.isFinite = true ∧ outgoing.isFinite = true ∧ b = .tcb incoming outgoing := by
  unfold checkPair at h
  split at h
  · cases h
  · rename_i first second hp
    obtain ⟨incoming, hin, h⟩ := bind_eq_ok.1 h
    obtain ⟨outgoing, hout, hb⟩ := bind_eq_ok.1 h
    cases hb
    obtain ⟨hfirst, hin⟩ := checkTriple_eq_ok hin
    obtain ⟨hsecond, hout⟩ := checkTriple_eq_ok hout
    rw [hfirst, hsecond] at hp
    exact ⟨incoming, outgoing, hp, hin, hout, rfl⟩

/-- What a kind keeps of extension data: nothing, a pair of triples, or a shape. -/
theorem checkBend_eq_ok {clamp : Bool} {kind : Kind} {e : Extension K} {bend : Bend K}
    {events : List (Event K)} (h : checkBend clamp kind e = .ok (bend, events)) :
    kind.tag = .none ∧ bend = .none ∧ events = [] ∨
      kind.tag = .tcb ∧ checkPair e = .ok bend ∧ events = [] ∨
      (kind.tag ≠ .none ∧ kind.tag ≠ .tcb) ∧
        ∃ b, e.shape? = some (.ok b) ∧ checkShape clamp kind b = .ok (bend, events) := by
  unfold checkBend at h
  split at h
  · rename_i ht
    cases h
    exact .inl ⟨ht, rfl, rfl⟩
  · rename_i ht
    obtain ⟨b, hb, ⟨⟩⟩ := map_eq_ok.1 h
    exact .inr (.inl ⟨ht, hb, rfl⟩)
  · rename_i hn ht
    split at h
    · cases h
    · cases h
    · rename_i b hb
      exact .inr (.inr ⟨⟨hn, ht⟩, b, hb, h⟩)

theorem checkBend_ne_none {clamp : Bool} {kind : Kind} {e : Extension K} {bend : Bend K}
    {events : List (Event K)} (h : checkBend clamp kind e = .ok (bend, events))
    (ht : kind.tag ≠ .none) : bend ≠ .none := by
  rcases checkBend_eq_ok h with ⟨hnone, -, -⟩ | ⟨-, hpair, -⟩ | ⟨-, b, hb, hshape⟩
  · exact absurd hnone ht
  · obtain ⟨_, _, -, -, -, rfl⟩ := checkPair_eq_ok hpair
    exact nofun
  · rcases (checkShape_eq_ok hshape).2 with ⟨-, rfl, -⟩ | ⟨-, -, rfl, -⟩
    · rcases Extension.shape?_cases hb with ⟨g, rfl⟩ | ⟨g, rfl⟩ <;> exact nofun
    · exact nofun

/-- All values of a spline have the width of the first one. -/
def checkWidth (s : Spline K) (value : List K) : Except (Fault K) Unit :=
  if s.terms != 0 && value.length != s.terms then .error (.widthDiffers s.terms value.length)
  else .ok ()

def putPoint (s : Spline K) (p : K) (value : List K) : Run K (Spline K) Nat :=
  .done { s with store := s.store.insert p { value, bend := .none } } (s.store.place p)

/-- Puts extension data to the point at an index, or to all points of a basic X-spline. -/
def putBend (s : Spline K) (index : Nat) (bend : Bend K) : Run K (Spline K) Unit :=
  .done
    { s with
      store := s.store.modify index fun a => { a with bend }
      shared := if s.kind.tag == .globalShape then bend else s.shared }
    ()

/-- Adds a control point. Its presence, its parameter, its value, its width and its extension
data are checked one after the other; then it is stored, and the curve is given up. -/
def insert (clamp : Bool) (s : Spline K) (parameter : Reading K)
    (value : Except (Fault K) (List K)) (e : Extension K) : Run K (Spline K) Nat :=
  (Run.ask s s.checkAlive).andThen fun _ s =>
  (Run.ask s (checkPresence s.kind e)).andThen fun _ s =>
  (Run.ask s parameter).andThen fun p s =>
  (Run.ask s value).andThen fun v s =>
  (Run.ask s (s.checkWidth v)).andThen fun _ s =>
  (Run.log s (checkBend clamp s.kind e)).andThen fun bend s =>
  (s.putPoint p v).andThen fun index s =>
  (s.putBend index bend).andThen fun _ s =>
  .done s.invalidate index

/-- The spline with one more control point. The curve is given up. -/
def place (s : Spline K) (p : K) (value : List K) (bend : Bend K) : Spline K :=
  { s with
    store := s.store.insert p { value, bend }
    shared := if s.kind.tag == .globalShape then bend else s.shared
    curve := none }

@[simp] theorem size_place (s : Spline K) (p : K) (value : List K) (bend : Bend K) :
    (s.place p value bend).store.size = s.store.size + 1 :=
  s.store.size_insert p _

theorem putPoint_andThen (s : Spline K) (p : K) (v : List K) (bend : Bend K) :
    ((s.putPoint p v).andThen fun index s =>
      (s.putBend index bend).andThen fun _ s => .done s.invalidate index) =
      .done (s.place p v bend) (s.store.place p) := by
  have hs : ((s.store.insert p { value := v, bend := .none }).modify (s.store.place p) fun a =>
      { a with bend }) = s.store.insert p { value := v, bend } := s.store.modify_insert p _ _
  simp only [putPoint, putBend, Run.done_andThen, invalidate, place, hs]

/-- **Adding a control point.** The first check that it fails stops everything, and then nothing
has been stored or logged; or it passes all checks and is stored at its place, and the log tells if
its shape was moved. -/
theorem insert_cases (clamp : Bool) (s : Spline K) (parameter : Reading K)
    (value : Except (Fault K) (List K)) (e : Extension K) :
    (∃ f, s.insert clamp parameter value e = .fail s f) ∨
      ∃ p v bend events, s.checkAlive = .ok () ∧ checkPresence s.kind e = .ok () ∧
        parameter = .ok p ∧ value = .ok v ∧ s.checkWidth v = .ok () ∧
        checkBend clamp s.kind e = .ok (bend, events) ∧
        s.insert clamp parameter value e =
          ⟨.ok (s.store.place p), s.place p v bend, events⟩ := by
  unfold insert
  rcases Run.ask_andThen_cases s s.checkAlive _ with ⟨f, -, h⟩ | ⟨⟨⟩, ha, h⟩ <;> rw [h]
  · exact .inl ⟨f, rfl⟩
  rcases Run.ask_andThen_cases s (checkPresence s.kind e) _ with ⟨f, -, h⟩ | ⟨⟨⟩, he, h⟩ <;> rw [h]
  · exact .inl ⟨f, rfl⟩
  rcases Run.ask_andThen_cases s parameter _ with ⟨f, -, h⟩ | ⟨p, hp, h⟩ <;> rw [h]
  · exact .inl ⟨f, rfl⟩
  rcases Run.ask_andThen_cases s value _ with ⟨f, -, h⟩ | ⟨v, hv, h⟩ <;> rw [h]
  · exact .inl ⟨f, rfl⟩
  rcases Run.ask_andThen_cases s (s.checkWidth v) _ with ⟨f, -, h⟩ | ⟨⟨⟩, hw, h⟩ <;> rw [h]
  · exact .inl ⟨f, rfl⟩
  rcases Run.log_andThen_cases s (checkBend clamp s.kind e) _ with
    ⟨f, -, h⟩ | ⟨bend, events, hb, h⟩ <;> rw [h]
  · exact .inl ⟨f, rfl⟩
  · refine .inr ⟨p, v, bend, events, ha, he, hp, hv, hw, hb, ?_⟩
    rw [putPoint_andThen]
    exact congrArg (Run.mk _ _) (List.append_nil events)

theorem answer_insert (clamp : Bool) (s : Spline K) (parameter : Reading K)
    (value : Except (Fault K) (List K)) (e : Extension K) :
    (s.insert clamp parameter value e).answer = (do
      s.checkAlive
      checkPresence s.kind e
      let p ← parameter
      let v ← value
      s.checkWidth v
      (checkBend clamp s.kind e).map fun _ => s.store.place p) := by
  simp only [insert, Run.answer_ask_andThen, Run.answer_log_andThen, putPoint_andThen]
  refine congrArg _ (funext fun _ => congrArg _ (funext fun _ => congrArg _ (funext fun p =>
    congrArg _ (funext fun v => congrArg _ (funext fun _ => ?_)))))
  cases checkBend clamp s.kind e <;> rfl

end Spline

end CurveKit
