import CurveKit.Proofs.Spline.Coherent
import CurveKit.Proofs.Store.Sorted

/-!
# Control points and what they came from

A spline keeps its accepted control points in the order of their parameters, so the
order in which they came is lost. `Records` says which list of accepted control
points a spline goes back to. Splines of one kind that go back to the same control
points are evaluated alike, whatever else has happened to them.

Results:
* `call_cases`: a call adds what it was handed over, if that is accepted, or changes no points.
* `records_call`: what a spline goes back to after a call.
* `store_eq_of_records`: the order of the control points does not matter.
* `answer_evaluate`: lazy evaluation always reads the curve of the current control points.
-/
namespace CurveKit

/-! ## Extension data can be compared -/

namespace Extension

variable {K : Type} [DecidableEq K]

mutual

/-- Is extension data the same? -/
def same : Extension K → Extension K → Bool
  | nothing, nothing => true
  | shape s, shape t => s = t
  | textShape s, textShape t => s = t
  | badShape why, badShape why' => why = why'
  | triple s, triple t => s = t
  | badTriple why, badTriple why' => why = why'
  | items f xs, items g ys => f = g && sameAll xs ys
  | other f, other g => f = g
  | _, _ => false

/-- Are pieces of extension data the same, one by one? -/
def sameAll : List (Extension K) → List (Extension K) → Bool
  | [], [] => true
  | x :: xs, y :: ys => same x y && sameAll xs ys
  | _, _ => false

end

mutual

theorem same_iff : (a b : Extension K) → (same a b = true ↔ a = b)
  | nothing, b => by cases b <;> simp [same]
  | shape s, b => by cases b <;> simp [same]
  | textShape s, b => by cases b <;> simp [same]
  | badShape why, b => by cases b <;> simp [same]
  | triple s, b => by cases b <;> simp [same]
  | badTriple why, b => by cases b <;> simp [same]
  | other f, b => by cases b <;> simp [same]
  | items f xs, b => by cases b <;> simp [same, sameAll_iff xs]

theorem sameAll_iff : (xs ys : List (Extension K)) → (sameAll xs ys = true ↔ xs = ys)
  | [], ys => by cases ys <;> simp [sameAll]
  | x :: xs, ys => by cases ys <;> simp [sameAll, same_iff x, sameAll_iff xs]

end

instance : DecidableEq (Extension K) := fun a b => decidable_of_iff _ (same_iff a b)

end Extension

/-! ## Accepted control points -/

/-- What a caller hands over for a control point. -/
structure Insertion where
  parameter : Float
  value : List Float
  extension : Extension Float
  deriving DecidableEq

namespace Insertion

/-- The extension data that is kept of it. -/
def bend (clamp : Bool) (kind : Kind) (x : Insertion) : Bend Float :=
  match Spline.checkBend clamp kind x.extension with
  | .ok (b, _) => b
  | .error _ => .none

def entry (clamp : Bool) (kind : Kind) (x : Insertion) : Entry Float (Knot Float) :=
  ⟨x.parameter, x.value, x.bend clamp kind⟩

@[simp] theorem parameter_entry (clamp : Bool) (kind : Kind) (x : Insertion) :
    (x.entry clamp kind).parameter = x.parameter := rfl

/-- It passed all checks for itself. -/
structure Admitted (config : Config) (kind : Kind) (x : Insertion) : Prop where
  finite : x.parameter.isFinite = true
  components : ∀ y ∈ x.value, y.isFinite = true
  width : Datum.admitsWidth config.maxTerms x.value.length = .ok true
  extension : ∃ r, Spline.checkBend (config.isOn .clampShapes) kind x.extension = .ok r

theorem bend_of_ok {clamp : Bool} {kind : Kind} {x : Insertion} {b : Bend Float}
    {events : List (Event Float)}
    (h : Spline.checkBend clamp kind x.extension = .ok (b, events)) : x.bend clamp kind = b := by
  unfold bend
  rw [h]

theorem bend_congr {clamp : Bool} {kind : Kind} {x y : Insertion} (ht : kind.tag = .globalShape)
    (h : x.extension.shape? = y.extension.shape?) :
    x.bend clamp kind = y.bend clamp kind := by
  unfold bend Spline.checkBend
  rw [ht]
  dsimp only
  rw [h]
  cases y.extension.shape? with
  | none => rfl
  | some r => cases r <;> rfl

end Insertion

namespace Spline

/-- What a call hands over for a control point, if that is accepted. -/
def accepted (config : Config) (s : Spline Float) : Call → Option Insertion
  | .insert parameter value (.ok e) =>
    match parameter.parameter, value.vector config.maxTerms,
      (s.call config (.insert parameter value (.ok e))).answer with
    | .ok p, .ok v, .ok _ => some ⟨p, v, e⟩
    | _, _, _ => none
  | _ => none

/-- The shape that all control points share after the last of them, if there is one. -/
def lastShape (clamp : Bool) (kind : Kind) (log : List Insertion) : Bend Float :=
  if kind.tag = .globalShape then log.getLast?.elim .none fun x => x.bend clamp kind else .none

/-- A spline goes back to the given control points, in the order in which they came. -/
structure Records (clamp : Bool) (log : List Insertion) (s : Spline Float) : Prop where
  sorted : s.store.Sorted
  entries : s.store.entries.Perm (log.map (Insertion.entry clamp s.kind))
  shared : s.shared = lastShape clamp s.kind log

section Records

variable {clamp : Bool} {log : List Insertion} {config : Config} {s t : Spline Float}

theorem records_empty (clamp : Bool) (kind : Kind) (config : ConfigId) :
    Records clamp [] (.empty kind config) where
  sorted := ⟨fun _ h => (List.not_mem_nil h).elim, List.Pairwise.nil⟩
  entries := List.Perm.refl _
  shared := by
    unfold lastShape
    split <;> rfl

theorem Records.congr (h : Records clamp log s) (hk : t.kind = s.kind) (hs : t.store = s.store)
    (hg : t.shared = s.shared) : Records clamp log t :=
  ⟨hs ▸ h.sorted, by rw [hs, hk]; exact h.entries, by rw [hg, hk]; exact h.shared⟩

/-- **One call.** A call adds the control point that it was handed over, at the place that it
answers, if that is accepted; all other calls leave the control points alone. -/
theorem call_cases (config : Config) (s : Spline Float) (d : Call) :
    (s.accepted config d = none ∧ Recurved s (s.call config d).state) ∨
    ∃ x, s.accepted config d = some x ∧ x.Admitted config s.kind ∧
      (s.call config d).answer = .ok (.index (s.store.place x.parameter)) ∧
      (s.call config d).state =
        s.place x.parameter x.value (x.bend (config.isOn .clampShapes) s.kind) := by
  by_cases hd : ∃ parameter value e, d = .insert parameter value e
  · obtain ⟨parameter, value, extension, rfl⟩ := hd
    cases ha : (s.call config (.insert parameter value extension)).answer with
    | ok a =>
      obtain ⟨e, p, v, b, events, rfl, hp, hv, hb, -, -, rfl, hst⟩ := call_insert_ok ha
      right
      refine ⟨⟨p, v, e⟩, by simp only [accepted, hp, hv, ha], ?_, rfl, ?_⟩
      · exact ⟨Datum.isFinite_of_parameter hp, (Datum.vector_eq_ok hv).2, (Datum.vector_eq_ok hv).1,
          _, hb⟩
      · rw [hst, Insertion.bend_of_ok (x := ⟨p, v, e⟩) hb]
    | error f =>
      refine .inl ⟨?_, by rw [call_insert_error ha]; exact .kept⟩
      cases extension with
      | error g => rfl
      | ok e =>
        unfold accepted
        dsimp only
        rw [ha]
        split
        · rename_i h0; cases h0
        · rfl
  · have hne : ∀ parameter value e, d ≠ .insert parameter value e :=
      fun parameter value e he => hd ⟨_, _, _, he⟩
    refine .inl ⟨?_, recurved_call config s d hne⟩
    cases d with
    | insert parameter value e => exact absurd rfl (hne parameter value e)
    | _ => rfl

theorem Records.place (h : Records clamp log s) {x : Insertion}
    (hp : x.parameter.isFinite = true) :
    Records clamp (log ++ [x]) (s.place x.parameter x.value (x.bend clamp s.kind)) where
  sorted := Store.sorted_insert h.sorted hp _
  entries := by
    rw [List.map_append]
    refine (s.store.perm_insert _ _).trans ?_
    exact (h.entries.cons _).trans (List.perm_append_singleton _ _).symm
  shared := by
    show (if s.kind.tag == .globalShape then x.bend clamp s.kind else s.shared) =
      lastShape clamp s.kind (log ++ [x])
    have hs := h.shared
    unfold lastShape at hs ⊢
    by_cases ht : s.kind.tag = .globalShape
    · simp [ht]
    · simpa [ht] using hs

/-- A call adds the control point that it was handed over, if that is accepted. -/
theorem records_call (h : Records (config.isOn .clampShapes) log s) (d : Call) :
    Records (config.isOn .clampShapes) (log ++ (s.accepted config d).toList)
      (s.call config d).state := by
  rcases call_cases config s d with ⟨hx, hr⟩ | ⟨x, hx, hadm, -, hst⟩
  · rw [hx, Option.toList_none, List.append_nil]
    exact h.congr (change_call config s d).same.1 hr.points.1 hr.points.2
  · rw [hx, hst]
    exact h.place hadm.finite

end Records

section Equal

variable {clamp : Bool} {xs ys : List Insertion} {s t : Spline Float}

/-- Splines that go back to the same control points keep the same, if the parameters differ. -/
theorem store_eq_of_records (hs : Records clamp xs s) (ht : Records clamp ys t)
    (hk : t.kind = s.kind) (hp : xs.Perm ys)
    (hd : xs.Pairwise fun x y => (x.parameter == y.parameter) = false) : t.store = s.store := by
  have hy := ht.entries
  rw [hk] at hy
  have hf : ∀ x ∈ xs, x.parameter.isFinite = true := by
    intro x hx
    have hm : x.entry clamp s.kind ∈ xs.map (Insertion.entry clamp s.kind) := List.mem_map_of_mem hx
    rw [← Insertion.parameter_entry clamp s.kind x]
    exact hs.sorted.finite _ (hs.entries.mem_iff.2 hm)
  have hr : (xs.map (Insertion.entry clamp s.kind)).Pairwise fun a b =>
      Binary64.rank a.parameter ≠ Binary64.rank b.parameter :=
    List.pairwise_map.2 (Binary64.pairwise_rank hf hd)
  have hr' := (hs.entries.pairwise_iff fun {_ _} h => Ne.symm h).2 hr
  have he : s.store.entries.Perm t.store.entries := hs.entries.trans ((hp.map _).trans hy.symm)
  exact (Store.eq_of_perm hs.sorted ht.sorted he hr').symm

theorem shared_eq_of_records (hs : Records clamp xs s) (ht : Records clamp ys t)
    (hk : t.kind = s.kind)
    (hl : s.kind.tag = .globalShape →
      xs.getLast?.map (·.extension.shape?) = ys.getLast?.map (·.extension.shape?)) :
    t.shared = s.shared := by
  rw [hs.shared, ht.shared, hk]
  unfold lastShape
  split
  · rename_i htag
    have h := hl htag
    cases hx : xs.getLast? with
    | none =>
      cases hy : ys.getLast? with
      | none => rfl
      | some y => rw [hx, hy] at h; cases h
    | some x =>
      cases hy : ys.getLast? with
      | none => rw [hx, hy] at h; cases h
      | some y =>
        rw [hx, hy] at h
        exact (Insertion.bend_congr htag (Option.some.inj h)).symm
  · rfl

end Equal

/-! ## Evaluating -/

section Evaluate

variable {config : Config} {s t : Spline Float}

/-- A curve is read by means of the kind and the control points. -/
theorem read_congr {config' : Config} (hc : ∀ w, config'.isOn w = config.isOn w)
    (hk : t.kind = s.kind) (hstore : t.store = s.store) (hg : t.shared = s.shared)
    (c : Curve Float) (p : Float) : t.read config' c p = s.read config c p := by
  have htext : t.hasText = s.hasText := by
    funext i
    rw [hasText, hasText, hk, hstore, hg]
  rw [read, read, readsText, readsText, htext, hc]

/-- Lazy evaluation reads the curve of the current control points, whether it is there or has to
be made; if it cannot be made that is the answer. -/
theorem answer_evaluate (h : s.Coherent) (hl : config.isOn .lazyFinalize = true)
    (x : Reading Float) :
    (s.evaluate config x).answer = s.build.bind fun c => x.bind fun p =>
      (s.read config c p).map fun v => (v, s.terms) := by
  have reads (u : Spline Float) (c : Curve Float) (hu : u.curve = some c) (hb : u.build = .ok c) :
      (u.get config x).map (fun v => (v, u.terms)) =
        x.bind fun p => (u.read config c p).map fun v => (v, u.terms) := by
    obtain ⟨ha, hp, -, -⟩ := build_eq_ok.1 hb
    unfold get
    rw [checkAlive_eq_ok.2 ha, hp, hu]
    cases x with
    | error f => rfl
    | ok p => rfl
  cases hc : s.curve with
  | some c =>
    have hb := h.curve c hc
    have hf : s.isFinalized = true := by rw [isFinalized, hc]; rfl
    rw [evaluate, refresh_of_isFinalized config hf, Run.done_andThen, hb]
    exact reads s c hc hb
  | none =>
    have hr : s.refresh config = s.finalize := by simp [refresh, isFinalized, hc, hl]
    rw [evaluate, hr]
    cases hb : s.build with
    | error f =>
      rw [finalize_of_error hb]
      rfl
    | ok c =>
      rw [finalize_of_build hb]
      exact reads { s with curve := some c } c rfl hb

theorem evaluate_congr {config' : Config} (hs : s.Coherent) (ht : t.Coherent)
    (hl : config.isOn .lazyFinalize = true) (hc : ∀ w, config'.isOn w = config.isOn w)
    (hk : t.kind = s.kind) (hstore : t.store = s.store) (hg : t.shared = s.shared)
    (hd : t.destroyed = s.destroyed) (x : Reading Float) :
    (t.evaluate config' x).answer = (s.evaluate config x).answer := by
  have hterms : t.terms = s.terms := by rw [terms, terms, hstore]
  have hl' : config'.isOn .lazyFinalize = true := (hc _).trans hl
  simp only [answer_evaluate hs hl, answer_evaluate ht hl', build_congr hk hstore hg hd, hterms,
    read_congr hc hk hstore hg]

end Evaluate

end Spline

end CurveKit
