import CurveKit.Proofs.Spline.Changes

/-!
# Curves that agree with their control points

A spline keeps the curve it was finalized with until its control points change. The
curve holds the parameters and the values of the control points, and for every
component what its scheme computes in advance; `Coherent` says that all of this is
what the control points give now, not what they gave earlier.

Results:
* `build_eq_ok`, `prepare_eq_ok`: what holds of a curve that could be built.
* `rows_of_prepare`: the values of all components together are the values of the store.
* `coherent_invariant`: nothing that happens to a spline takes its curve apart from its points.
-/
namespace CurveKit

/-! ## Building a curve -/

theorem mapM_range_eq_ok {ε α : Type} {f : Nat → Except ε α} {n : Nat} {l : List α}
    (h : (List.range n).mapM f = .ok l) :
    l.length = n ∧ ∀ k a, l[k]? = some a → f k = .ok a := by
  induction n generalizing l with
  | zero =>
    cases h
    exact ⟨rfl, nofun⟩
  | succ n ih =>
    rw [List.range_succ, List.mapM_append] at h
    obtain ⟨front, hf, h⟩ := bind_eq_ok.1 h
    obtain ⟨last, hl, h⟩ := bind_eq_ok.1 h
    obtain ⟨hlen, hall⟩ := ih hf
    rw [List.mapM_cons, List.mapM_nil] at hl
    obtain ⟨a, ha, hl⟩ := bind_eq_ok.1 hl
    cases hl
    cases h
    refine ⟨by simp [hlen], fun k b hk => ?_⟩
    by_cases hkn : k < front.length
    · rw [List.getElem?_append_left hkn] at hk
      exact hall k b hk
    · obtain ⟨hlt, -⟩ := List.getElem?_eq_some_iff.1 hk
      simp only [List.length_append, List.length_singleton] at hlt
      obtain rfl : k = n := by omega
      rw [← hlen, List.getElem?_concat_length] at hk
      cases hk
      exact ha

theorem exists_mapM_range {ε α : Type} {f : Nat → Except ε α} {n : Nat}
    (h : ∀ k < n, ∃ a, f k = .ok a) : ∃ l, (List.range n).mapM f = .ok l := by
  induction n with
  | zero => exact ⟨[], rfl⟩
  | succ n ih =>
    obtain ⟨front, hf⟩ := ih fun k hk => h k (Nat.lt_succ_of_lt hk)
    obtain ⟨last, hl⟩ := h n (Nat.lt_succ_self n)
    refine ⟨front ++ [last], ?_⟩
    rw [List.range_succ, List.mapM_append, hf, List.mapM_cons, hl]
    rfl

section Generic

variable {K : Type} [Scalar K]

namespace Curve

/-- The values at the control points, one row for each. -/
def rows (c : Curve K) : List (List K) :=
  (List.range c.parameters.size).map fun i => c.components.map fun p => nth p.values i

/-- The rule that a component of a store gets. -/
def ruleOf (kind : Kind) (store : Store K (Knot K)) (globalShape : K) (values : Array K) :
    Except Breakdown (Rule K) :=
  let parameters := store.parameters.toArray
  let bends := (store.contents.map (·.bend)).toArray
  Rule.prepare kind store.size (nth parameters) (nth values) (fun i => bends.getD i .none)
    globalShape

/-- A curve has the parameters of the store, and for every component its column with the rule
for that. -/
theorem prepare_eq_ok {kind : Kind} {terms : Nat} {store : Store K (Knot K)} {globalShape : K}
    {c : Curve K} (h : prepare kind terms store globalShape = .ok c) :
    c.parameters = store.parameters.toArray ∧ c.components.length = terms ∧
      ∀ k p, c.components[k]? = some p → p.values = column store.contents k ∧
        ruleOf kind store globalShape p.values = .ok p.rule := by
  unfold prepare at h
  obtain ⟨components, hc, h⟩ := bind_eq_ok.1 h
  cases h
  obtain ⟨hlen, hall⟩ := mapM_range_eq_ok hc
  refine ⟨rfl, hlen, fun k p hk => ?_⟩
  have hp := hall k p hk
  unfold prepareComponent at hp
  obtain ⟨rule, hr, rfl⟩ := map_eq_ok.1 hp
  refine ⟨rfl, ?_⟩
  simpa [ruleOf] using hr

theorem exists_prepare {kind : Kind} {terms : Nat} {store : Store K (Knot K)} {globalShape : K}
    (h : ∀ k < terms, ∃ r, ruleOf kind store globalShape (column store.contents k) = .ok r) :
    ∃ c, prepare kind terms store globalShape = .ok c := by
  obtain ⟨components, hc⟩ :=
    exists_mapM_range (f := prepareComponent kind store.parameters.toArray store.contents
      globalShape) fun k hk => by
      obtain ⟨r, hr⟩ := h k hk
      refine ⟨⟨column store.contents k, r⟩, ?_⟩
      unfold prepareComponent
      refine map_eq_ok.2 ⟨r, ?_, rfl⟩
      simpa [ruleOf] using hr
  exact ⟨_, by rw [prepare, hc]; rfl⟩

omit [Scalar K] in
theorem map_getD_range (l : List K) (d : K) :
    (List.range l.length).map (fun k => l.getD k d) = l := by
  apply List.ext_getElem
  · simp
  · intro i h1 h2
    simp [List.getD_eq_getElem?_getD, h2]

theorem nth_column {knots : List (Knot K)} {i : Nat} (hi : i < knots.length) (k : Nat) :
    nth (column knots k) i = knots[i].value.getD k 0 := by
  simp [nth, column, hi]

/-- The values of all components are those of the store, if these have the width of the curve. -/
theorem rows_of_prepare {kind : Kind} {terms : Nat} {store : Store K (Knot K)} {globalShape : K}
    {c : Curve K} (h : prepare kind terms store globalShape = .ok c)
    (hw : ∀ a ∈ store.contents, a.value.length = terms) :
    c.rows = store.contents.map (·.value) := by
  obtain ⟨hp, hlen, hall⟩ := prepare_eq_ok h
  unfold rows
  apply List.ext_getElem
  · simp [hp]
  · intro i h1 h2
    have hi : i < store.contents.length := by simpa using h2
    have hval : store.contents[i].value.length = terms := hw _ (List.getElem_mem hi)
    rw [List.getElem_map, List.getElem_map, List.getElem_range]
    rw [← map_getD_range store.contents[i].value 0, hval]
    apply List.ext_getElem
    · simp [hlen]
    · intro k h3 h4
      have hk : k < c.components.length := by simpa using h3
      rw [List.getElem_map, List.getElem_map, List.getElem_range]
      rw [(hall k c.components[k] (List.getElem?_eq_getElem hk)).1, nth_column hi]

end Curve

namespace Spline

theorem checkApart_eq_ok {s : Spline K} :
    s.checkApart = .ok () ↔ firstCoincident? s.store.parameters = none := by
  unfold checkApart refuseCoincident
  cases firstCoincident? s.store.parameters <;> simp

/-- A curve can be built for a live spline with enough control points at different parameters,
if the scheme does not break down. -/
theorem build_eq_ok {s : Spline K} {c : Curve K} : s.build = .ok c ↔
    s.destroyed = false ∧ s.checkPoints = .ok () ∧
      firstCoincident? s.store.parameters = none ∧
      Curve.prepare s.kind s.terms s.store s.globalShape = .ok c := by
  unfold build
  constructor
  · intro h
    obtain ⟨⟨⟩, ha, h⟩ := bind_eq_ok.1 h
    obtain ⟨⟨⟩, hp, h⟩ := bind_eq_ok.1 h
    obtain ⟨⟨⟩, hn, h⟩ := bind_eq_ok.1 h
    refine ⟨checkAlive_eq_ok.1 ha, hp, checkApart_eq_ok.1 hn, ?_⟩
    cases hc : Curve.prepare s.kind s.terms s.store s.globalShape with
    | error b => rw [hc] at h; cases h
    | ok c' => rw [hc] at h; cases h; rfl
  · rintro ⟨ha, hp, hn, hc⟩
    rw [checkAlive_eq_ok.2 ha, hp, checkApart_eq_ok.2 hn, hc]
    rfl

theorem build_congr {s t : Spline K} (hk : t.kind = s.kind) (hs : t.store = s.store)
    (hg : t.shared = s.shared) (hd : t.destroyed = s.destroyed) : t.build = s.build := by
  unfold build checkAlive checkPoints checkApart terms globalShape
  rw [hk, hs, hg, hd]

theorem get_of_build {s : Spline K} {c : Curve K} (hb : s.build = .ok c)
    (config : Config) (t : K) :
    get config { s with curve := some c } (.ok t) = s.read config c t := by
  obtain ⟨alive, hpoints, -, -⟩ := build_eq_ok.1 hb
  have alive' : checkAlive { s with curve := some c } = .ok () := checkAlive_eq_ok.2 alive
  have hpoints' : checkPoints { s with curve := some c } = .ok () := hpoints
  rw [get, alive', hpoints']
  rfl

theorem finalize_self {s : Spline K} {c : Curve K} (hc : s.curve = some c)
    (hb : s.build = .ok c) : s.finalize = ⟨.ok (), s, s.finalizeEvents⟩ := by
  rw [finalize_of_build hb, ← hc]

end Spline

end Generic

/-! ## What holds of every spline -/

namespace Spline

section Generic

variable {K : Type} [Scalar K] {s t : Spline K}

/-- The values of a spline have one width, and its curve is the one of its control points. -/
structure Coherent (s : Spline K) : Prop where
  width : ∀ a ∈ s.store.contents, a.value.length = s.terms ∧ a.value ≠ []
  curve : ∀ c, s.curve = some c → s.build = .ok c

omit [Scalar K] in
theorem terms_eq {n : Nat} {a : Knot K} (ha : a ∈ s.store.contents)
    (h : ∀ a ∈ s.store.contents, a.value.length = n) : s.terms = n := by
  unfold terms
  cases hc : s.store.contents with
  | nil => rw [hc] at ha; cases ha
  | cons b l => exact h b (by rw [hc]; exact List.mem_cons_self)

theorem mem_contents_place {p : K} {v : List K} {bend : Bend K} {a : Knot K} :
    a ∈ (s.place p v bend).store.contents ↔ a = ⟨v, bend⟩ ∨ a ∈ s.store.contents := by
  unfold place
  rw [Store.contents_insert]
  exact List.mem_insertIdx (by rw [Store.length_contents]; exact s.store.place_le_size p)

/-- A control point of the right width keeps the values of one width. -/
theorem width_place {p : K} {v : List K} {bend : Bend K}
    (h : ∀ a ∈ s.store.contents, a.value.length = s.terms ∧ a.value ≠ []) (hv : v ≠ [])
    (hw : s.terms ≠ 0 → v.length = s.terms) :
    ∀ a ∈ (s.place p v bend).store.contents,
      a.value.length = (s.place p v bend).terms ∧ a.value ≠ [] := by
  have hlen : ∀ a ∈ (s.place p v bend).store.contents, a.value.length = v.length := by
    intro a ha
    rcases mem_contents_place.1 ha with rfl | ha
    · rfl
    · obtain ⟨hl, hne⟩ := h a ha
      have ht : s.terms ≠ 0 := by
        rw [← hl]
        exact fun h0 => hne (List.length_eq_zero_iff.1 h0)
      rw [hl, hw ht]
  intro a ha
  refine ⟨(hlen a ha).trans (terms_eq ha hlen).symm, ?_⟩
  rcases mem_contents_place.1 ha with rfl | ha
  · exact hv
  · exact (h a ha).2

theorem coherent_of_empty (hs : s.store = .empty) (hc : s.curve = none) : s.Coherent where
  width a ha := by rw [hs] at ha; cases ha
  curve c h := by rw [hc] at h; cases h

theorem Coherent.stale (h : s.Coherent) (hs : t.store = s.store) (hc : t.curve = none) :
    t.Coherent where
  width := by rw [terms, hs]; exact h.width
  curve c h := by rw [hc] at h; cases h

theorem Coherent.owners (h : s.Coherent) (n : Nat) : Coherent { s with owners := n } :=
  ⟨h.width, fun c hc => (build_congr rfl rfl rfl rfl).trans (h.curve c hc)⟩

theorem Coherent.rebuilt (h : s.Coherent) {c : Curve K} (hb : s.build = .ok c) :
    Coherent { s with curve := some c } := by
  refine ⟨h.width, ?_⟩
  rintro c ⟨⟩
  exact (build_congr rfl rfl rfl rfl).trans hb

theorem Coherent.insert (h : s.Coherent) {clamp : Bool} {parameter : Reading K} {v : List K}
    {e : Extension K} {i : Nat} (hv : v ≠ [])
    (hi : (s.insert clamp parameter (.ok v) e).answer = .ok i) :
    (s.insert clamp parameter (.ok v) e).state.Coherent := by
  obtain ⟨p, v, bend, events, -, -, -, hval, hw, -, hr⟩ := insert_eq_ok hi
  cases hval
  rw [hr]
  exact ⟨width_place h.width hv hw, nofun⟩

/-- The curve of the control points has their parameters and values, and for every component the
rule that the scheme computes for them. -/
theorem Coherent.curve_of_build (h : s.Coherent) {c : Curve K} (hb : s.build = .ok c) :
    c.parameters = s.store.parameters.toArray ∧ c.rows = s.store.contents.map (·.value) ∧
      c.components.length = s.terms ∧
      ∀ p ∈ c.components, Curve.ruleOf s.kind s.store s.globalShape p.values = .ok p.rule := by
  obtain ⟨-, -, -, hp⟩ := build_eq_ok.1 hb
  obtain ⟨hpar, hlen, hall⟩ := Curve.prepare_eq_ok hp
  refine ⟨hpar, Curve.rows_of_prepare hp fun a ha => (h.width a ha).1, hlen, fun p hm => ?_⟩
  obtain ⟨k, hk⟩ := List.getElem?_of_mem hm
  exact (hall k p hk).2

theorem Coherent.get_eq (h : s.Coherent) {c : Curve K} (hc : s.curve = some c) (config : Config)
    (t : K) : s.get config (.ok t) = s.read config c t := by
  obtain ⟨ha, hp, -, -⟩ := build_eq_ok.1 (h.curve c hc)
  unfold get
  rw [checkAlive_eq_ok.2 ha, hp, hc]
  rfl

/-- A coherent spline that is destroyed has no curve. -/
theorem Coherent.curve_of_destroyed (h : s.Coherent) (hd : s.destroyed = true) :
    s.curve = none := by
  cases hc : s.curve with
  | none => rfl
  | some c =>
    have hb := h.curve c hc
    rw [build_of_destroyed hd] at hb
    cases hb

/-- If finalizing a coherent spline fails, it has no curve. -/
theorem Coherent.curve_of_error (h : s.Coherent) {f : Fault K} (hf : s.build = .error f) :
    s.curve = none := by
  cases hc : s.curve with
  | none => rfl
  | some c =>
    have hb := h.curve c hc
    rw [hf] at hb
    cases hb

end Generic

theorem Coherent.change {config : Config} {s t : Spline Float} (h : s.Coherent)
    (ht : Change config s t) : t.Coherent := by
  cases ht with
  | recurved ht =>
    cases ht with
    | kept => exact h
    | rebuilt hb => exact h.rebuilt hb
    | invalidated => exact h.stale rfl rfl
  | placed _ nonempty accepted => exact h.insert nonempty accepted

/-- **Invariant.** Nothing takes the curve of a spline apart from its control points. -/
theorem coherent_invariant : Invariant Coherent where
  empty _ _ := coherent_of_empty rfl rfl
  owners _ n h := h.owners n
  call config s c h := h.change (s.change_call config c)
  teardown _ _ := coherent_of_empty rfl rfl
  duplicate _ _ h := h.stale rfl rfl

end Spline

end CurveKit
