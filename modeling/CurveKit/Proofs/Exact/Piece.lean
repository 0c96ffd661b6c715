import CurveKit.Proofs.Exact.Segment
import CurveKit.Proofs.Spline.Grown

/-!
# Curves segment by segment

Every scheme has one formula for each segment. Between the ends of the curve a parameter
is put into the formula of its segment; beyond them the curve is held, or the formula of
the outer segment is continued. The segments of a guided curve that only steer it are
held as well.

Results:
* `Rule.eval_eq`: a component at any parameter, from the formulas of its segments.
* `Rule.eval_congr`: rules with the same formulas give the same.
* `Spline.eval_of_build`, `Spline.piece_of_build`: the same for a curve, component by component.
* `Spline.Coherent.value_eq`: the value of a control point, component by component.
* `Spline.Grown.get_components`: the answer of a finalized spline, component by component.
* `segment_point`, `pieced_eq`: the segment of a control point, and the two formulas there.
* `Spline.Grown.get_piece`, `Spline.Grown.get_between`: what a finalized spline answers
  between its ends.
* `Spline.points_of_build`, `Spline.exists_build`: which splines have a curve.
-/
namespace CurveKit

section Generic

variable {K : Type} [Scalar K]

namespace Rule

/-- The formula of segment `i`. The parabola of a segment goes through the point before it, that
of the first segment through the point behind it. -/
def piece (r : Rule K) (n : Nat) (x y : Nat → K) (i : Nat) (t : K) : K :=
  match r with
  | lines => Scheme.linePiece x y i t
  | parabolas => Scheme.parabolaPiece x y (i - 1) t
  | natural m => Scheme.naturalPiece x y (nth m) i t
  | chords => Scheme.catmullRomPiece n x y i t
  | guided p => Scheme.cubicPiece x (nthCubic p) i t
  | cubics p => Scheme.cubicPiece x (nthCubic p) i t
  | tangents incoming outgoing => Scheme.tangentPiece x y (nth incoming) (nth outgoing) i t
  | blends family shapes => Scheme.blendPiece family n x y (nth shapes) i t

/-- How many control points at each end are beyond the end of the curve and only steer it. -/
def guides : Rule K → Nat
  | guided _ => 1
  | _ => 0

/-- Does the curve continue past its ends? -/
def continues (r : Rule K) (extrapolate : Bool) : Bool :=
  match r with
  | lines => extrapolate
  | parabolas => extrapolate
  | _ => false

/-- A component at any parameter: the formula of the segment between the ends, and the end values
beyond them, if the curve does not continue there. -/
theorem eval_eq (r : Rule K) (extrapolate : Bool) (n : Nat) (x y : Nat → K) (t : K) :
    r.eval extrapolate n x y t =
      if r.continues extrapolate then r.piece n x y (segment n x t) t
      else if t ≤ x r.guides then y r.guides
      else if x (n - 1 - r.guides) ≤ t then y (n - 1 - r.guides)
      else r.piece n x y (segment n x t) t := by
  have held (z : K) : (Scheme.held? n x y t).getD z =
      if t ≤ x 0 then y 0 else if x (n - 1) ≤ t then y (n - 1) else z := by
    unfold Scheme.held?
    split
    · rfl
    · split <;> rfl
  cases r with
  | lines => cases extrapolate <;> simp [eval, piece, continues, guides, held, Scheme.linear]
  | parabolas => cases extrapolate <;> simp [eval, piece, continues, guides, held, Scheme.quadratic]
  | natural m => simp [eval, piece, continues, guides, held, Scheme.natural]
  | chords => simp [eval, piece, continues, guides, held, Scheme.catmullRom]
  | guided p => simp [eval, piece, continues, guides, Scheme.guided, Nat.sub_sub]
  | cubics p => simp [eval, piece, continues, guides, held, Scheme.cubics]
  | tangents a b => simp [eval, piece, continues, guides, held, Scheme.kochanekBartels]
  | blends f s => simp [eval, piece, continues, guides, held, Scheme.blended]

/-- Two rules with the same formulas that end in the same way give the same everywhere. -/
theorem eval_congr {r q : Rule K} {e e' : Bool} {n : Nat} {x y : Nat → K} {t : K}
    (hn : 2 ≤ n) (hcontinues : r.continues e = q.continues e') (hguides : r.guides = q.guides)
    (h : ∀ i, i + 1 < n → r.piece n x y i t = q.piece n x y i t) :
    r.eval e n x y t = q.eval e' n x y t := by
  have hsegment := segment_le n x t
  rw [eval_eq, eval_eq, hcontinues, hguides, h _ (by omega)]

end Rule

/-- How many control points at each end of a curve of a kind only steer it. -/
def Kind.guides : Kind → Nat
  | sor => 1
  | _ => 0

theorem Kind.guides_of_ne {kind : Kind} (h : kind ≠ .sor) : kind.guides = 0 := by
  cases kind with
  | sor => exact absurd rfl h
  | _ => rfl

theorem Rule.guides_of_prepare {kind : Kind} {n : Nat} {x y : Nat → K} {bend : Nat → Bend K}
    {shape : K} {r : Rule K} (h : prepare kind n x y bend shape = .ok r) :
    r.guides = kind.guides := by
  cases kind with
  | natural =>
    obtain ⟨m, -, rfl⟩ := map_eq_ok.1 h
    rfl
  | _ =>
    cases h
    rfl

/-- Does a curve of a kind continue past its ends? -/
def Kind.continues (kind : Kind) (extrapolate : Bool) : Bool :=
  match kind with
  | linear => extrapolate
  | quadratic => extrapolate
  | _ => false

theorem Rule.continues_of_prepare {kind : Kind} {n : Nat} {x y : Nat → K} {bend : Nat → Bend K}
    {shape : K} {r : Rule K} (h : prepare kind n x y bend shape = .ok r) (extrapolate : Bool) :
    r.continues extrapolate = kind.continues extrapolate := by
  cases kind with
  | natural =>
    obtain ⟨m, -, rfl⟩ := map_eq_ok.1 h
    rfl
  | _ =>
    cases h
    rfl

/-- No scheme breaks down but that of natural splines. -/
theorem Rule.exists_prepare_of_ne {kind : Kind} (h : kind ≠ .natural) (n : Nat) (x y : Nat → K)
    (bend : Nat → Bend K) (shape : K) : ∃ r, prepare kind n x y bend shape = .ok r := by
  cases kind with
  | natural => exact absurd rfl h
  | _ => exact ⟨_, rfl⟩

/-- A curve has at least one segment that is not held. -/
theorem Kind.guides_le (kind : Kind) : 2 * kind.guides + 2 ≤ kind.minPoints := by
  cases kind <;> decide

def Curve.piece (c : Curve K) (i : Nat) (t : K) : List K :=
  c.components.map fun p =>
    p.rule.piece c.parameters.size (nth c.parameters) (nth p.values) i t

def Curve.ruleAt (c : Curve K) (k : Nat) : Rule K := c.components[k]?.elim .lines (·.rule)

/-! ## The components of a curve -/

namespace Spline

variable {s : Spline K} {c : Curve K}

def parameterAt (s : Spline K) : Nat → K := nth s.store.parameters.toArray

def valueAt (s : Spline K) (k : Nat) : Nat → K := nth (Curve.column s.store.contents k)

def values (s : Spline K) : List (List K) := s.store.contents.map (·.value)

/-- The extension data of control point `i`. -/
def bendAt (s : Spline K) (i : Nat) : Bend K :=
  (s.store.contents.map (·.bend)).toArray.getD i .none

theorem parameterAt_eq {i : Nat} {a : Entry K (Knot K)} (h : s.store.entries[i]? = some a) :
    s.parameterAt i = a.parameter := by
  simp [parameterAt, nth, Store.parameters, h]

omit [Scalar K] in
theorem bendAt_eq {i : Nat} {a : Entry K (Knot K)} (h : s.store.entries[i]? = some a) :
    s.bendAt i = a.content.bend := by
  simp [bendAt, Store.contents, h]

omit [Scalar K] in
theorem getElem?_values (s : Spline K) (i : Nat) :
    s.values[i]? = s.store.entries[i]?.map (·.content.value) := by
  simp [values, Store.contents, Function.comp_def]

omit [Scalar K] in
theorem bendAt_mem {i : Nat} (hi : i < s.store.size) :
    ∃ a ∈ s.store.contents, s.bendAt i = a.bend := by
  rw [← Store.length_contents] at hi
  refine ⟨_, List.getElem_mem hi, ?_⟩
  simp [bendAt, List.getElem?_eq_getElem hi]

theorem valueAt_eq (s : Spline K) (k i : Nat) : s.valueAt k i = (s.values.getD i []).getD k 0 := by
  cases hi : s.store.contents[i]? <;> simp [valueAt, nth, Curve.column, values, hi]

theorem valueAt_congr {t : Spline K} (h : t.values = s.values) (k : Nat) :
    t.valueAt k = s.valueAt k := by
  funext i
  rw [valueAt_eq, valueAt_eq, h]

omit [Scalar K] in
theorem terms_eq_values (s : Spline K) : s.terms = s.values.head?.elim 0 List.length := by
  cases hs : s.store.contents <;> simp [terms, values, hs]

omit [Scalar K] in
theorem length_values (s : Spline K) : s.values.length = s.store.size := by
  rw [values, List.length_map, Store.length_contents]

theorem Coherent.length_of_mem_values (hs : s.Coherent) {v : List K} (hv : v ∈ s.values) :
    v.length = s.terms := by
  obtain ⟨a, ha, rfl⟩ := List.mem_map.1 hv
  exact (hs.width a ha).1

omit [Scalar K] in
theorem entry_eq {i : Nat} {p : K} {a : Knot K} (hp : s.store.parameters[i]? = some p)
    (ha : s.store.contents[i]? = some a) : s.store.entries[i]? = some ⟨p, a⟩ := by
  rw [Store.parameters, List.getElem?_map, Option.map_eq_some_iff] at hp
  rw [Store.contents, List.getElem?_map, Option.map_eq_some_iff] at ha
  obtain ⟨e, he, rfl⟩ := hp
  obtain ⟨e', he', rfl⟩ := ha
  rw [he] at he'
  cases he'
  exact he

/-- The value of a control point has the width of the spline. -/
theorem Coherent.value_eq (hs : s.Coherent) {i : Nat} {a : Entry K (Knot K)}
    (h : s.store.entries[i]? = some a) :
    a.content.value = (List.range s.terms).map fun k => s.valueAt k i := by
  have hi : i < s.store.contents.length := by
    rw [Store.length_contents]
    exact (List.getElem?_eq_some_iff.1 h).1
  have ha : s.store.contents[i] = a.content := by
    obtain ⟨hlt, rfl⟩ := List.getElem?_eq_some_iff.1 h
    simp [Store.contents]
  have hlen : a.content.value.length = s.terms :=
    (hs.width _ (ha ▸ List.getElem_mem hi)).1
  rw [← Curve.map_getD_range a.content.value 0, hlen]
  refine List.map_congr_left fun k _ => ?_
  rw [valueAt, Curve.nth_column hi, ha]

theorem map_components {α : Type} (hb : s.build = .ok c)
    (f : (n : Nat) → (x y : Nat → K) → Rule K → α) :
    c.components.map (fun p => f c.parameters.size (nth c.parameters) (nth p.values) p.rule) =
      (List.range s.terms).map fun k =>
        f s.store.size s.parameterAt (s.valueAt k) (c.ruleAt k) := by
  obtain ⟨hpar, hlen, hall⟩ := Curve.prepare_eq_ok (build_eq_ok.1 hb).2.2.2
  have hsize : c.parameters.size = s.store.size := by simp [hpar]
  rw [hsize, hpar]
  apply List.ext_getElem
  · simp [hlen]
  · intro k h1 h2
    have hk : k < c.components.length := by simpa using h1
    have hp : c.components[k]? = some c.components[k] := List.getElem?_eq_getElem hk
    rw [List.getElem_map, List.getElem_map, List.getElem_range, (hall k _ hp).1, Curve.ruleAt, hp]
    rfl

omit [Scalar K] in
/-- A spline without control points has too few for every kind. -/
theorem checkPoints_eq_ok : s.checkPoints = .ok () ↔ s.kind.minPoints ≤ s.store.size := by
  have hguides := s.kind.guides_le
  unfold checkPoints
  constructor
  · intro h
    split at h
    · cases h
    · split at h
      · cases h
      · omega
  · intro h
    have hne : ¬ (s.store.size == 0) = true := by
      rw [beq_iff_eq]
      omega
    rw [if_neg hne, if_neg (Nat.not_lt.2 h)]

theorem minPoints_le_of_build (hb : s.build = .ok c) : s.kind.minPoints ≤ s.store.size :=
  checkPoints_eq_ok.1 (build_eq_ok.1 hb).2.1

/-- The rule of a component is the one that the scheme computes for its values. -/
theorem ruleAt_of_build (hb : s.build = .ok c) {k : Nat} (hk : k < s.terms) :
    Curve.ruleOf s.kind s.store s.globalShape (Curve.column s.store.contents k) =
      .ok (c.ruleAt k) := by
  obtain ⟨-, hlen, hall⟩ := Curve.prepare_eq_ok (build_eq_ok.1 hb).2.2.2
  obtain ⟨p, hp⟩ : ∃ p, c.components[k]? = some p := ⟨_, List.getElem?_eq_getElem (hlen ▸ hk)⟩
  obtain ⟨hval, hr⟩ := hall k p hp
  rw [Curve.ruleAt, hp, ← hval]
  exact hr

theorem prepare_of_build (hb : s.build = .ok c) {k : Nat} (hk : k < s.terms) :
    Rule.prepare s.kind s.store.size s.parameterAt (s.valueAt k) s.bendAt s.globalShape =
      .ok (c.ruleAt k) :=
  ruleAt_of_build hb hk

/-- Two splines that differ at most in the values of their control points. -/
structure SameFrame (s u : Spline K) : Prop where
  kind : u.kind = s.kind
  parameters : u.store.parameters = s.store.parameters
  bends : u.store.contents.map (·.bend) = s.store.contents.map (·.bend)
  shared : u.shared = s.shared

namespace SameFrame

variable {u : Spline K}

section

omit [Scalar K]

theorem refl (s : Spline K) : s.SameFrame s := ⟨rfl, rfl, rfl, rfl⟩

theorem size (h : s.SameFrame u) : u.store.size = s.store.size := by
  rw [← Store.length_parameters, h.parameters, Store.length_parameters]

theorem bendAt (h : s.SameFrame u) : u.bendAt = s.bendAt := by
  funext i
  rw [Spline.bendAt, h.bends, Spline.bendAt]

theorem hasText (h : s.SameFrame u) : u.hasText = s.hasText := by
  funext i
  have hbends (t : Spline K) : (t.store.contents[i]?).any (fun a => a.bend.isText) =
      ((t.store.contents.map (·.bend))[i]?).any Bend.isText := by
    rw [List.getElem?_map]
    cases t.store.contents[i]? <;> rfl
  rw [Spline.hasText, Spline.hasText, h.kind, h.shared, hbends, hbends, h.bends]

end

theorem globalShape (h : s.SameFrame u) : u.globalShape = s.globalShape :=
  congrArg Bend.freedom h.shared

end SameFrame

theorem SameFrame.parameterAt {u : Spline K} (h : s.SameFrame u) :
    u.parameterAt = s.parameterAt := by
  rw [Spline.parameterAt, h.parameters, Spline.parameterAt]

theorem SameFrame.readsText {u : Spline K} {cu : Curve K} (h : s.SameFrame u) (hb : s.build = .ok c)
    (hu : u.build = .ok cu) (t : K) : u.readsText cu t = s.readsText c t := by
  have hc := (Curve.prepare_eq_ok (build_eq_ok.1 hb).2.2.2).1
  have hcu := (Curve.prepare_eq_ok (build_eq_ok.1 hu).2.2.2).1
  rw [Spline.readsText, Spline.readsText, h.hasText, hc, hcu, h.parameters]

theorem SameFrame.prepare {u : Spline K} {cu : Curve K} {k : Nat} (h : s.SameFrame u)
    (hb : u.build = .ok cu) (hk : k < u.terms) :
    Rule.prepare s.kind s.store.size s.parameterAt (u.valueAt k) s.bendAt s.globalShape =
      .ok (cu.ruleAt k) := by
  rw [← h.kind, ← h.size, ← h.parameterAt, ← h.bendAt, ← h.globalShape]
  exact prepare_of_build hb hk

theorem eval_of_build (hb : s.build = .ok c) (extrapolate : Bool) (t : K) :
    c.eval extrapolate t = (List.range s.terms).map fun k =>
      (c.ruleAt k).eval extrapolate s.store.size s.parameterAt (s.valueAt k) t :=
  map_components hb fun n x y r => r.eval extrapolate n x y t

theorem piece_of_build (hb : s.build = .ok c) (i : Nat) (t : K) :
    c.piece i t = (List.range s.terms).map fun k =>
      (c.ruleAt k).piece s.store.size s.parameterAt (s.valueAt k) i t :=
  map_components hb fun n x y r => r.piece n x y i t

/-- Where all components of a formula are those of a control point, it gives the value of that
point. -/
theorem Coherent.piece_point (hs : s.Coherent) (hb : s.build = .ok c) {i j : Nat} {t : K}
    {a : Entry K (Knot K)} (ha : s.store.entries[i]? = some a)
    (h : ∀ k < s.terms, (c.ruleAt k).piece s.store.size s.parameterAt (s.valueAt k) j t =
      s.valueAt k i) : c.piece j t = a.content.value := by
  rw [piece_of_build hb, hs.value_eq ha]
  exact List.map_congr_left fun k hk => h k (List.mem_range.1 hk)

/-- A finalized spline, component by component. -/
theorem Grown.get_components (hs : s.Grown) (hc : s.curve = some c) (config : Config) {t : K}
    {f : Nat → K} (h : ∀ k < s.terms, (c.ruleAt k).eval (config.isOn .extrapolate) s.store.size
      s.parameterAt (s.valueAt k) t = f k) :
    s.get config (.ok t) = .ok ((List.range s.terms).map f) := by
  rw [hs.get_eq hc, eval_of_build (hs.coherent.curve c hc)]
  exact congrArg _ (List.map_congr_left fun k hk => h k (List.mem_range.1 hk))

theorem Grown.get_point (hs : s.Grown) (hc : s.curve = some c) (config : Config) {i : Nat}
    {t : K} {a : Entry K (Knot K)} (ha : s.store.entries[i]? = some a)
    (h : ∀ k < s.terms, (c.ruleAt k).eval (config.isOn .extrapolate) s.store.size s.parameterAt
      (s.valueAt k) t = s.valueAt k i) : s.get config (.ok t) = .ok a.content.value := by
  rw [hs.coherent.value_eq ha]
  exact hs.get_components hc config h

theorem eval_between (hb : s.build = .ok c) (extrapolate : Bool) {t : K}
    (hl : ¬ t ≤ s.parameterAt s.kind.guides)
    (hr : ¬ s.parameterAt (s.store.size - 1 - s.kind.guides) ≤ t) :
    c.eval extrapolate t = c.piece (segment s.store.size s.parameterAt t) t := by
  rw [eval_of_build hb, piece_of_build hb]
  refine List.map_congr_left fun k hk => ?_
  have hguides := Rule.guides_of_prepare (ruleAt_of_build hb (List.mem_range.1 hk))
  rw [Rule.eval_eq, hguides, if_neg hl, if_neg hr, ite_self]

theorem Grown.get_piece (hs : s.Grown) (hc : s.curve = some c) (config : Config) {t : K}
    (hl : ¬ t ≤ s.parameterAt s.kind.guides)
    (hr : ¬ s.parameterAt (s.store.size - 1 - s.kind.guides) ≤ t) :
    s.get config (.ok t) = .ok (c.piece (segment s.store.size s.parameterAt t) t) := by
  rw [hs.get_eq hc, eval_between (hs.coherent.curve c hc) _ hl hr]

end Spline

end Generic

/-! ## Formulas at the control points -/

open scoped Exact

section Pieces

variable {K : Type} [Field K] [LinearOrder K] {n i : Nat} {x : Nat → K} {t : K}

/-- A control point is found in the segment behind it. -/
theorem segment_point (h : Ascending n x) (hi : i + 1 < n) : segment n x (x i) = i := by
  obtain ⟨hl, hr, hlt⟩ := segment_spec (t := x i) h (h.le (Nat.zero_le i) (by omega))
    (h i (n - 1) (by omega) (by omega)) (by omega)
  have hle : ¬ i < segment n x (x i) := fun hlt' => absurd (h _ _ hlt' (by omega)) (not_lt.2 hl)
  have hge : i < segment n x (x i) + 1 := (h.lt_iff (by omega) hlt).1 hr
  omega

/-- A parameter in a segment with its ends can be put into the formula of that segment, if the
formulas of neighbours agree at the control point between them. -/
theorem pieced_eq {f : Nat → K → K} (h : Ascending n x)
    (hf : ∀ i, i + 2 < n → f i (x (i + 1)) = f (i + 1) (x (i + 1))) (hi : i + 1 < n)
    (hl : x i ≤ t) (hr : t ≤ x (i + 1)) : f (segment n x t) t = f i t := by
  have h0 : x 0 ≤ t := (h.le (Nat.zero_le i) (by omega)).trans hl
  rcases (h.le (i := i + 1) (j := n - 1) (by omega) (by omega)).eq_or_lt with hlast | hlast
  · have hin : i + 1 = n - 1 := by
      by_contra hne
      exact absurd hlast (h (i + 1) (n - 1) (by omega) (by omega)).ne
    by_cases ht : t < x (n - 1)
    · rcases InSegment.cases (.inr ⟨hi, hl, hr⟩) h h0 ht (by omega) with hs | ⟨-, rfl⟩
      · rw [hs]
      · exact absurd ht (hlast ▸ lt_irrefl _)
    · rw [segment_of_ge h (not_lt.1 ht) (by omega), show n - 2 = i by omega]
  · rcases InSegment.cases (.inr ⟨hi, hl, hr⟩) h h0 (lt_of_le_of_lt hr hlast) (by omega) with
      hs | ⟨hs, rfl⟩
    · rw [hs]
    · rw [hs, hf i]
      by_contra hn
      exact absurd hlast (by rw [show i + 1 = n - 1 by omega]; exact lt_irrefl _)

/-- Between the ends a curve is what the formula of the segment gives. -/
theorem Spline.Grown.get_between {s : Spline K} {c : Curve K} (hs : s.Grown)
    (hc : s.curve = some c) (config : Config) (hl : s.parameterAt s.kind.guides < t)
    (hr : t < s.parameterAt (s.store.size - 1 - s.kind.guides)) :
    s.get config (.ok t) = .ok (c.piece (segment s.store.size s.parameterAt t) t) :=
  hs.get_piece hc config (not_le.2 hl) (not_le.2 hr)

theorem Spline.Grown.get_inside {s : Spline K} {c : Curve K} (hs : s.Grown)
    (hc : s.curve = some c) (config : Config) (hguides : s.kind.guides = 0)
    (hl : s.parameterAt 0 < t) (hr : t < s.parameterAt (s.store.size - 1)) :
    s.get config (.ok t) = .ok (c.piece (segment s.store.size s.parameterAt t) t) := by
  refine hs.get_between hc config ?_ ?_
  · rwa [hguides]
  · rwa [hguides]

/-- The parameters of a curve ascend, and there are as many as the kind needs. -/
theorem Spline.points_of_build {s : Spline K} {c : Curve K} (hb : s.build = .ok c) :
    Ascending s.store.size s.parameterAt ∧ s.kind.minPoints ≤ s.store.size := by
  refine ⟨?_, minPoints_le_of_build hb⟩
  rw [← Store.length_parameters]
  exact ascending_of_firstCoincident? (build_eq_ok.1 hb).2.2.1

/-- A live spline with enough control points at ascending parameters has a curve, if the scheme
breaks down for no component. -/
theorem Spline.exists_build {s : Spline K} (alive : s.destroyed = false)
    (hn : s.kind.minPoints ≤ s.store.size) (hx : Ascending s.store.size s.parameterAt)
    (h : ∀ k < s.terms, ∃ r,
      Curve.ruleOf s.kind s.store s.globalShape (Curve.column s.store.contents k) = .ok r) :
    ∃ c, s.build = .ok c := by
  rw [← Store.length_parameters] at hx
  obtain ⟨c, hc⟩ := Curve.exists_prepare h
  exact ⟨c, build_eq_ok.2 ⟨alive, checkPoints_eq_ok.2 hn, firstCoincident?_of_ascending hx, hc⟩⟩

end Pieces

end CurveKit
