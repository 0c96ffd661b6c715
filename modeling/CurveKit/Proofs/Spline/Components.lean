import CurveKit.Proofs.Exact.Piece

/-!
# Components know nothing of each other

A spline of any width is a bundle of splines of width one: the formulas of a component read
the parameters, the extension data and the values of that component. Taking one component
out commutes with every operation on splines, and over every type of scalars the answers of
the one-component spline are that component of the answers of the whole. Nothing is assumed
about the scalars, so doubles agree to the last bit.

Results:
* `insert_component`: a component takes a control point where the whole spline does.
* `grown_component`: operations on the spline are operations on its components.
* `exists_curve_of_component`: the curve of a component, and its values.
* `component_alone`: what the spline of one component answers.
-/
namespace CurveKit

variable {K : Type}

def Store.map {α β : Type} (f : α → β) (s : Store K α) : Store K β :=
  ⟨s.entries.map fun e => { parameter := e.parameter, content := f e.content }⟩

namespace Store

variable {α β : Type} (f : α → β) (s : Store K α)

@[simp] theorem parameters_map : (s.map f).parameters = s.parameters := by
  simp [map, parameters, Function.comp_def]

@[simp] theorem contents_map : (s.map f).contents = s.contents.map f := by
  simp [map, contents, Function.comp_def]

@[simp] theorem size_map : (s.map f).size = s.size := List.length_map _

variable [Scalar K]

@[simp] theorem place_map (p : K) : (s.map f).place p = s.place p := by
  rw [place, place, parameters_map, size_map]

theorem map_insert (p : K) (a : α) : (s.insert p a).map f = (s.map f).insert p (f a) := by
  rw [insert, insert, place_map]
  simp only [map, map_insertIdx]

end Store

variable [Scalar K]

def Knot.component (j : Nat) (a : Knot K) : Knot K := { a with value := [a.value.getD j 0] }

namespace Spline

variable {s t u : Spline K} {j : Nat}

/-- The spline with component `j` of all values as the only one, without a curve. -/
def component (s : Spline K) (j : Nat) : Spline K :=
  { s with store := s.store.map (Knot.component j), curve := none }

theorem sameFrame_component (s : Spline K) (j : Nat) : s.SameFrame (s.component j) where
  kind := rfl
  parameters := Store.parameters_map _ _
  bends := by
    rw [component, Store.contents_map, List.map_map]
    rfl
  shared := rfl

theorem values_component (s : Spline K) (j : Nat) :
    (s.component j).values = s.values.map fun v => [v.getD j 0] := by
  rw [values, component, Store.contents_map, values, List.map_map, List.map_map]
  rfl

theorem terms_of_components (h : u.values = s.values.map fun v => [v.getD j 0]) :
    u.terms = if s.store.size = 0 then 0 else 1 := by
  rw [terms_eq_values, h, ← length_values]
  cases s.values <;> rfl

/-! ## Taking a component out -/

theorem component_place (s : Spline K) (p : K) (v : List K) (bend : Bend K) (j : Nat) :
    (s.place p v bend).component j = (s.component j).place p [v.getD j 0] bend := by
  unfold component place
  rw [Store.map_insert]
  rfl

/-- Where a spline takes a control point, the spline of a component takes that component of it, at
the same index and with the same warnings. -/
theorem insert_component {clamp : Bool} {p : K} {v : List K} {e : Extension K} {i : Nat}
    (accepted : (s.insert clamp (.ok p) (.ok v) e).answer = .ok i) (j : Nat) :
    (s.component j).insert clamp (.ok p) (.ok [v.getD j 0]) e =
      { s.insert clamp (.ok p) (.ok v) e with
        state := (s.insert clamp (.ok p) (.ok v) e).state.component j } := by
  have hwidth (hterms : (s.component j).terms ≠ 0) :
      [v.getD j 0].length = (s.component j).terms := by
    rw [terms_of_components (values_component s j)] at hterms ⊢
    split at hterms
    · exact absurd rfl hterms
    · rename_i hsize
      rw [if_neg hsize, List.length_singleton]
  obtain ⟨p', v', bend, events, halive, hpresence, ⟨⟩, ⟨⟩, -, hbend, hr⟩ := insert_eq_ok accepted
  have hplace : (s.component j).store.place p = s.store.place p := Store.place_map _ _ p
  rw [hr, insert_of_ok (s := s.component j) halive hpresence hwidth hbend, hplace, component_place]

/-- The operations that lead to a spline lead to the spline of each of its components. -/
theorem grown_component (h : s.Grown) (j : Nat) : (s.component j).Grown := by
  refine h.induct (P := fun s => (s.component j).Grown) ?empty ?place ?rebuilt ?invalidate ?owners
    ?teardown ?duplicate
  case empty => exact .empty
  case place =>
    intro s clamp p v e bend events ih alive nonempty numeric presence width check
    have accepted := insert_of_ok (p := p) alive presence width check
    have hc : Grown ((s.component j).insert clamp (.ok p) (.ok [v.getD j 0]) e).state :=
      ih.insert (List.cons_ne_nil (v.getD j 0) []) numeric
    rwa [insert_component (by rw [accepted]) j, accepted] at hc
  case rebuilt => exact fun ih _ => ih
  case invalidate => exact fun ih => ih
  case owners => exact fun n ih => ih.owners n
  case teardown => exact fun ih => ih.teardown
  case duplicate => exact fun config ih => ih.duplicate config

/-! ## The curve of a component -/

theorem valueAt_component (h : u.values = s.values.map fun v => [v.getD j 0]) :
    u.valueAt 0 = s.valueAt j := by
  funext i
  rw [valueAt_eq, valueAt_eq, h]
  cases hi : s.values[i]? <;> simp [hi]

/-- A live spline of the components `j` in the frame of a spline that has a curve. Its curve has
the values of that component. -/
theorem exists_curve_of_component {c : Curve K} (hb : s.build = .ok c) (hj : j < s.terms)
    (alive : u.destroyed = false) (hframe : s.SameFrame u)
    (hvalues : u.values = s.values.map fun v => [v.getD j 0]) :
    ∃ d, u.build = .ok d ∧ ∀ extrapolate t, ∃ y, (c.eval extrapolate t)[j]? = some y ∧
      d.eval extrapolate t = [y] := by
  obtain ⟨-, hpoints, hcoincident, -⟩ := build_eq_ok.1 hb
  have hn := checkPoints_eq_ok.1 hpoints
  have hterms : u.terms = 1 := by
    rw [terms_of_components hvalues, if_neg]
    have hguides := s.kind.guides_le
    omega
  have hvalue := valueAt_component hvalues
  have hrule : Rule.prepare u.kind u.store.size u.parameterAt (u.valueAt 0) u.bendAt
      u.globalShape = .ok (c.ruleAt j) := by
    rw [hframe.kind, hframe.size, hframe.parameterAt, hvalue, hframe.bendAt, hframe.globalShape]
    exact prepare_of_build hb hj
  obtain ⟨d, hd⟩ : ∃ d, Curve.prepare u.kind u.terms u.store u.globalShape = .ok d := by
    refine Curve.exists_prepare fun k hk => ⟨c.ruleAt j, ?_⟩
    obtain rfl : k = 0 := by omega
    exact hrule
  have hd : u.build = .ok d := by
    refine build_eq_ok.2 ⟨alive, ?_, ?_, hd⟩
    · rwa [checkPoints_eq_ok, hframe.kind, hframe.size]
    · rwa [hframe.parameters]
  have hsame : d.ruleAt 0 = c.ruleAt j :=
    Except.ok.inj ((prepare_of_build hd (by omega)).symm.trans hrule)
  refine ⟨d, hd, fun extrapolate t => ?_⟩
  refine ⟨(c.ruleAt j).eval extrapolate s.store.size s.parameterAt (s.valueAt j) t, ?_, ?_⟩
  · rw [eval_of_build hb]
    simp [hj]
  · rw [eval_of_build hd, hterms, hframe.size, hframe.parameterAt]
    simp [hvalue, hsame]

/-- What the spline of a component answers where the whole spline answers `r`. -/
def Answered (j : Nat) (r : Except (Fault K) (List K)) (answer : Except (Fault K) (List K)) : Prop :=
  (∀ v, r = .ok v → ∃ y, v[j]? = some y ∧ answer = .ok [y]) ∧ ∀ f, r = .error f → answer = .error f

/-- **Components are independent.** Take a spline that can be finalized and one of its components.
The operations that led to the spline lead to one with the same parameters and extension data that
has only this component. However a live spline with these control points came about, it can be
finalized as well, and at every parameter and under every configuration its answer is this component
of what the whole spline answers, and the whole spline answers everywhere if no shape was a text.
That holds over any scalars, over doubles bit for bit. -/
theorem component_alone {events : List (Event K)} (hf : s.finalize = ⟨.ok (), t, events⟩)
    (hj : j < s.terms) :
    ((s.Grown → (s.component j).Grown) ∧ (s.component j).destroyed = false ∧
      (s.component j).config = s.config ∧ s.SameFrame (s.component j) ∧
      (s.component j).values = s.values.map fun v => [v.getD j 0]) ∧
    ∀ u : Spline K, u.destroyed = false → s.SameFrame u →
      u.values = s.values.map (fun v => [v.getD j 0]) →
      ∃ u' events', u.finalize = ⟨.ok (), u', events'⟩ ∧ ∀ config x,
        Answered j (t.get config (.ok x)) (u'.get config (.ok x)) ∧
        (s.Grown → ∃ v y, t.get config (.ok x) = .ok v ∧ v[j]? = some y ∧
          u'.get config (.ok x) = .ok [y]) := by
  rcases s.finalize_cases with ⟨f, -, he⟩ | ⟨c, hb, he⟩
  · rw [hf] at he
    cases he
  rw [hf] at he
  cases he
  refine ⟨⟨fun hs => grown_component hs j, (build_eq_ok.1 hb).1, rfl, sameFrame_component s j,
    values_component s j⟩, fun u alive hframe hvalues => ?_⟩
  obtain ⟨d, hd, heval⟩ := exists_curve_of_component hb hj alive hframe hvalues
  refine ⟨{ u with curve := some d }, u.finalizeEvents, finalize_of_build hd, fun config x => ?_⟩
  obtain ⟨y, hy, hone⟩ := heval (config.isOn .extrapolate) x
  rw [get_of_build hb, get_of_build hd, read, read, hframe.readsText hb hd, hone]
  cases htext : s.readsText c x with
  | true =>
    refine ⟨⟨fun v hv => ?_, fun f hf => hf⟩, fun hs => ?_⟩
    · cases hv
    rw [readsText_of_isNumeric hs.legible.isNumeric] at htext
    cases htext
  | false =>
    refine ⟨⟨fun v hv => ?_, fun f hf => ?_⟩, fun _ => ⟨_, y, rfl, hy, rfl⟩⟩
    · cases hv
      exact ⟨y, hy, rfl⟩
    · cases hf

/-- Four points of doubles with two components, which came out of order. -/
theorem component_alone_doubles :
    let s : Spline Float := ((((empty .akima 0).place 0.1 [1, 0.3] .none).place 2.5 [-1, 4]
      .none).place 0.7 [0.2, 5] .none).place 1 [6, -0.1] .none
    s.Grown ∧ ∃ t events u' events', s.finalize = ⟨.ok (), t, events⟩ ∧
      (s.component 1).finalize = ⟨.ok (), u', events'⟩ ∧ ∀ config x, ∃ v y,
        t.get config (.ok x) = .ok v ∧ v[1]? = some y ∧ u'.get config (.ok x) = .ok [y] := by
  intro s
  have hs : s.Grown := by
    refine .place_plain (.place_plain (.place_plain (.place_plain (.empty .akima 0) rfl rfl ?_ ?_)
      rfl rfl ?_ ?_) rfl rfl ?_ ?_) rfl rfl ?_ ?_
    all_goals decide +kernel
  obtain ⟨c, hc⟩ : ∃ c, s.build = .ok c := exists_ok_of_isOk (by decide +kernel)
  have hterms : 1 < s.terms := by decide +kernel
  obtain ⟨⟨-, alive, -, hframe, hvalues⟩, hall⟩ := component_alone (finalize_of_build hc) hterms
  obtain ⟨u', events', hu, hget⟩ := hall (s.component 1) alive hframe hvalues
  exact ⟨hs, _, _, u', events', finalize_of_build hc, hu, fun config x => (hget config x).2 hs⟩

end Spline

end CurveKit
