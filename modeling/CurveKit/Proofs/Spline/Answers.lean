import CurveKit.Proofs.Scalar.Rules

/-!
# What a finalized spline is asked

A finalized spline has an answer at every finite parameter. Its curve keeps an entry for
every control point or segment, and the formulas look at no others; the extension data of
the control points has the form that the kind reads. This holds over all scalars, and of
doubles in particular.

Results:
* `Rule.sized_of_prepare`, `Spline.sized_of_build`: how many entries a curve keeps.
* `Spline.follows_of_build`: what stands for a curve over other scalars does what the curve does.
* `Spline.Legible.answers`: all of this for a finalized spline.
-/
namespace CurveKit

section Generic

variable {K : Type} [Scalar K]

/-! ## How much is kept -/

/-- A rule keeps an entry for each of `n` control points, or a cubic for each segment. -/
def Rule.Sized (n : Nat) : Rule K → Prop
  | lines => True
  | parabolas => True
  | natural m => m.size = n
  | chords => True
  | guided p => p.size = n - 1
  | cubics p => p.size = n - 1
  | tangents incoming outgoing => incoming.size = n ∧ outgoing.size = n
  | blends _ shapes => shapes.size = n

/-- A curve for `n` control points keeps all of them, and so do the rules of its components. -/
structure Curve.Sized (n : Nat) (c : Curve K) : Prop where
  parameters : c.parameters.size = n
  values : ∀ p ∈ c.components, p.values.size = n
  rules : ∀ p ∈ c.components, p.rule.Sized n

omit [Scalar K] in
@[simp] theorem size_tabulate {α : Type} (n : Nat) (f : Nat → α) : (tabulate n f).size = n := by
  simp [tabulate]

theorem Rule.sized_of_prepare {kind : Kind} {n : Nat} {x y : Nat → K} {bend : Nat → Bend K}
    {shape : K} {r : Rule K} (hn : kind.minPoints ≤ n)
    (h : prepare kind n x y bend shape = .ok r) : r.Sized n := by
  cases kind with
  | natural =>
    obtain ⟨m, hm, rfl⟩ := map_eq_ok.1 h
    exact Scheme.length_moments hn hm
  | tcb =>
    cases h
    exact ⟨size_tabulate n _, size_tabulate n _⟩
  | linear | quadratic | catmullRom =>
    cases h
    trivial
  | sor | akima | basicX | extendedX | generalX =>
    cases h
    exact size_tabulate _ _

theorem Rule.quadratic_of_prepare {kind : Kind} {n : Nat} {x y : Nat → K} {bend : Nat → Bend K}
    {shape : K} (h : prepare kind n x y bend shape = .ok .parabolas) : kind = .quadratic := by
  cases kind with
  | quadratic => rfl
  | natural =>
    obtain ⟨m, -, hm⟩ := map_eq_ok.1 h
    cases hm
  | _ => cases h

namespace Spline

variable {s : Spline K} {c : Curve K}

/-- A curve keeps the control points it is built from. -/
theorem sized_of_build (hb : s.build = .ok c) : c.Sized s.store.size := by
  obtain ⟨hpar, -, hall⟩ := Curve.prepare_eq_ok (build_eq_ok.1 hb).2.2.2
  have hn := minPoints_le_of_build hb
  refine ⟨by simp [hpar], fun p hp => ?_, fun p hp => ?_⟩
  · obtain ⟨k, hk⟩ := List.getElem?_of_mem hp
    rw [(hall k p hk).1]
    simp [Curve.column]
  · obtain ⟨k, hk⟩ := List.getElem?_of_mem hp
    exact Rule.sized_of_prepare hn (hall k p hk).2

end Spline

end Generic

/-! ## What is looked at -/

namespace Spline

section Follows

variable {K' K : Type} [Scalar K'] [Scalar K]

/-- Sequences over other scalars that stand for the control points of a spline and their component
`k`. They may have any entries beyond the control points. -/
structure StandsFor (R : K' → K → Prop) (s : Spline K) (k : Nat) (x' y' : Nat → K')
    (bend' : Nat → Bend K') (shape' : K') : Prop where
  parameters : Entries R s.store.size x' s.parameterAt
  values : Entries R s.store.size y' (s.valueAt k)
  bends : ∀ i < s.store.size, Bend.Related R (bend' i) (s.bendAt i)
  shared : R shape' s.globalShape

/-- What stands for the control points of a spline follows its curve: the schemes compute in advance
what corresponds to the rules of the curve, and whatever corresponds to them, as far as there are
points and segments, gives what corresponds to the components of the curve. -/
structure Follows (R : K' → K → Prop) (s : Spline K) (c : Curve K) : Prop where
  prepare : ∀ k < s.terms, ∀ {x' y' bend' shape'}, s.StandsFor R k x' y' bend' shape' →
    ∃ r', Rule.prepare s.kind s.store.size x' y' bend' shape' = .ok r' ∧
      r'.Related R s.store.size (c.ruleAt k)
  eval : ∀ k < s.terms, ∀ {x' y' bend' shape'}, s.StandsFor R k x' y' bend' shape' →
    ∀ {r' : Rule K'}, r'.Related R s.store.size (c.ruleAt k) →
    ∀ extrapolate {t' t}, R t' t →
      R (r'.eval extrapolate s.store.size x' y' t')
        ((c.ruleAt k).eval extrapolate s.store.size s.parameterAt (s.valueAt k) t)

variable {R : K' → K → Prop} {D : K → Prop} {s : Spline K} {c : Curve K}

/-- Over scalars whose operations correspond, as far as they divide by what may be divided by,
everything follows the curve. -/
theorem follows_of_build (h : Simulation R D) (hb : s.build = .ok c)
    (hd : Spaced D s.store.size s.parameterAt)
    (hblend : ∀ k < s.terms, ∀ f shapes, c.ruleAt k = .blends f shapes → ∀ t,
      ¬ t ≤ s.parameterAt 0 → ¬ s.parameterAt (s.store.size - 1) ≤ t →
      Scheme.Blendable D f s.store.size s.parameterAt (nth shapes)
        (segment s.store.size s.parameterAt t) t) : s.Follows R c where
  prepare k hk _ _ _ _ hs :=
    Rule.prepare_related h hs.parameters hd hs.values hs.bends hs.shared (minPoints_le_of_build hb)
      (prepare_of_build hb hk)
  eval k hk _ _ _ _ hs _ hr extrapolate _ t ht := by
    have hprepare := prepare_of_build hb hk
    have hn := minPoints_le_of_build hb
    have hguides : 2 * (c.ruleAt k).guides + 2 ≤ s.store.size := by
      rw [Rule.guides_of_prepare hprepare]
      exact s.kind.guides_le.trans hn
    have hthree (hp : c.ruleAt k = .parabolas) : 3 ≤ s.store.size := by
      rw [hp] at hprepare
      rwa [Rule.quadratic_of_prepare hprepare] at hn
    exact Rule.eval_related h hs.parameters hd hs.values hr ht hguides hthree
      (fun f shapes hf => hblend k hk f shapes hf t) extrapolate

end Follows

section Answers

variable {K : Type} [Scalar K] {s : Spline K} {c : Curve K}

theorem simulation_eq : Simulation (Eq : K → K → Prop) fun _ => True where
  literal _ := rfl
  add := by rintro _ _ _ _ rfl rfl; rfl
  sub := by rintro _ _ _ _ rfl rfl; rfl
  mul := by rintro _ _ _ _ rfl rfl; rfl
  div := by rintro _ _ _ _ rfl rfl _; rfl
  neg := by rintro _ _ rfl; rfl
  magnitude := by rintro _ _ rfl; rfl
  cube := by rintro _ _ rfl; rfl
  isFinite := by rintro _ _ rfl; rfl
  lt := by rintro _ _ _ _ rfl rfl; rfl
  le := by rintro _ _ _ _ rfl rfl; rfl
  beq := by rintro _ _ _ _ rfl rfl; rfl
  numeral _ _ := trivial
  product _ _ := trivial
  tested _ := trivial
  larger _ := trivial

/-- A spline with a curve can be asked at every finite parameter. -/
structure Answers (s : Spline K) (c : Curve K) : Prop where
  get : ∀ config t, Scalar.isFinite t = true →
    ∃ v, s.get config (.ofScalar parameterName t) = .ok v ∧ v.length = s.terms
  /-- Its extension data is read as what it is. -/
  form : ∀ a ∈ s.store.contents, a.bend.IsFor s.kind
  /-- There is an entry for every control point or segment. -/
  sized : c.Sized s.store.size
  /-- No others are looked at. -/
  within : s.Follows Eq c

/-- A finalized spline can be asked, if all that it keeps can be read. -/
theorem Legible.answers (h : s.Legible) (hs : s.Coherent) (hc : s.curve = some c) :
    s.Answers c where
  get config t ht := by
    refine ⟨c.eval (config.isOn .extrapolate) t, ?_, ?_⟩
    · rw [Reading.ofScalar, if_pos ht]
      exact h.get_eq hs hc config t
    · rw [eval_of_build (hs.curve c hc), List.length_map, List.length_range]
  form := h.points
  sized := sized_of_build (hs.curve c hc)
  within := by
    have hd : Spaced (fun _ : K => True) s.store.size s.parameterAt :=
      ⟨fun _ _ _ _ _ => trivial, fun _ _ => trivial⟩
    have hblunt (f : Scheme.Family) (a : K) : Scheme.Blunt (fun _ => True) f a :=
      fun _ => ⟨trivial, trivial⟩
    exact follows_of_build simulation_eq (hs.curve c hc) hd
      fun _ _ _ _ _ _ _ _ => ⟨hblunt _ _, hblunt _ _, hblunt _ _, trivial⟩

end Answers

end Spline

end CurveKit
