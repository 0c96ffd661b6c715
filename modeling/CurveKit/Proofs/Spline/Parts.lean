import CurveKit.Proofs.Spline.Coherent
import CurveKit.Spline.Parts

/-!
# Splines and their parts

The parts of a spline go through the same operations as the spline itself, one part after the
other. Between two of their steps they do not fit together, and a failing step may leave a
snapshot behind; but what they answer, what they log and what they leave is always the same as what
the spline does. So the lists stay side by side, and what is read of the snapshot and the cache is
the curve of the control points that are there.

The proof is a simulation. `Fits` relates parts to a spline, `Agree` relates what two operations
leave, and there is one lemma for each operation.

Results:
* `Fits.place`, `Fits.prepare`: adding a control point, and what the scheme computes.
* `agree_insert`, `agree_finalize`, `agree_call`: every operation answers, logs and leaves the same.
* `InStep.fits`: parts that have gone through the same operations fit.
* `inStep_invariant`: every spline has such parts.
* `Fits.stored_eq`: parts that fit the same control points differ in their curves only.
-/
namespace CurveKit

/-- Items that are made one by one may be put into their form later. -/
theorem mapM_range_map {ε α β : Type} (n : Nat) (f : Nat → Except ε α) (g : Nat → α → β) :
    ((List.range n).mapM fun k => (f k).map (g k)) =
      ((List.range n).mapM f).map (List.mapIdx g) := by
  have hlength {n : Nat} {l : List α} (h : (List.range n).mapM f = .ok l) : l.length = n :=
    (mapM_range_eq_ok h).1
  induction n with
  | zero => rfl
  | succ n ih =>
    rw [List.range_succ, List.mapM_append, List.mapM_append, ih]
    cases hl : (List.range n).mapM f with
    | error e => rfl
    | ok l =>
      simp only [List.mapM_cons, List.mapM_nil]
      cases f n with
      | error e => rfl
      | ok a =>
        refine congrArg Except.ok ?_
        simp [List.mapIdx_append, hlength hl]

section Caches

variable {K : Type} [Scalar K] {kind : Kind} {n : Nat}

theorem Cache.prepare_congr {x y : Nat → K} {incoming incoming' outgoing outgoing' : Nat → Tcb K}
    (hin : kind.tag = .tcb → incoming' = incoming)
    (hout : kind.tag = .tcb → outgoing' = outgoing) :
    prepare kind n x y incoming' outgoing' = prepare kind n x y incoming outgoing := by
  cases kind with
  | tcb => rw [hin rfl, hout rfl]
  | _ => rfl

omit [Scalar K] in
theorem Cache.rule_congr {shape shape' : Nat → K}
    (h : kind.tag ≠ .none → kind.tag ≠ .tcb → shape' = shape) :
    rule kind n shape' = rule kind n shape := by
  cases kind with
  | basicX => rw [h nofun nofun]
  | extendedX => rw [h nofun nofun]
  | generalX => rw [h nofun nofun]
  | _ => rfl

end Caches

namespace Parts

variable {K : Type} [Scalar K]

/-- What has been computed belongs to the lists as they are. -/
structure Cached (p : Parts K) : Prop where
  snapshot : p.snapshot = some p.lists
  cache : p.precompute p.lists = .ok p.cache

/-- A shape that all control points share; it is 0 before the first. -/
def sharedShape : Bend K → Bend K
  | .none => .shape 0
  | b => b

theorem freedom_sharedShape (b : Bend K) : (sharedShape b).freedom = b.freedom := by
  cases b <;> rfl

theorem isText_sharedShape (b : Bend K) : (sharedShape b).isText = b.isText := by
  cases b <;> rfl

theorem sharedShape_of_ne {b : Bend K} (h : b ≠ .none) : sharedShape b = b := by
  cases b with
  | none => exact absurd rfl h
  | _ => rfl

/-- Lists that show the control points of a spline, side by side. -/
structure Shows (p : Parts K) (s : Spline K) : Prop where
  parameters : p.parameters = s.store.parameters
  values : p.values = s.store.contents.map (·.value)
  incoming : p.incoming =
    if s.kind.tag = .tcb then s.store.contents.map (·.bend.triple .incoming) else []
  outgoing : p.outgoing =
    if s.kind.tag = .tcb then s.store.contents.map (·.bend.triple .outgoing) else []
  shapes : p.shapes = if s.kind.tag = .perPointShape then s.store.contents.map (·.bend) else []
  shape : p.shape = sharedShape s.shared
  terms : p.terms = s.terms

/-- Only the lists and the width of parts show control points, and only the store and the shared
shape of a spline are shown. -/
theorem Shows.update {p : Parts K} {s : Spline K} (h : p.Shows s) {config config' : ConfigId}
    {owners owners' : Nat} {stale destroyed destroyed' : Bool} {snapshot : Option (Snapshot K)}
    {cache : List (Cache K)} {curve : Option (Curve K)} :
    Shows { p with config, owners, stale, snapshot, cache, destroyed }
      { s with config := config', owners := owners', curve, destroyed := destroyed' } :=
  ⟨h.parameters, h.values, h.incoming, h.outgoing, h.shapes, h.shape, h.terms⟩

/-- Parts that fit a spline: they show its control points, and if they are not stale, what has been
computed makes the curve of the spline. -/
structure Fits (p : Parts K) (s : Spline K) : Prop where
  kind : p.kind = s.kind
  config : p.config = s.config
  owners : p.owners = s.owners
  destroyed : p.destroyed = s.destroyed
  shows : p.Shows s
  stale : p.stale = s.curve.isNone
  coherent : s.Coherent
  cached : ∀ c, s.curve = some c → p.Cached ∧ p.curve p.lists p.cache = c

/-- The parts with one more control point, in all lists at one place. The curve is given up. -/
def place (p : Parts K) (t : K) (value : List K) (bend : Bend K) : Parts K :=
  { p with
    parameters := p.parameters.insertIdx (p.indexFor t) t
    values := p.values.insertIdx (p.indexFor t) value
    incoming := if p.kind.tag = Tag.tcb then
        p.incoming.insertIdx (p.indexFor t) (bend.triple .incoming) else p.incoming
    outgoing := if p.kind.tag = Tag.tcb then
        p.outgoing.insertIdx (p.indexFor t) (bend.triple .outgoing) else p.outgoing
    shapes := if p.kind.tag = Tag.perPointShape then p.shapes.insertIdx (p.indexFor t) bend
      else p.shapes
    shape := if p.kind.tag = Tag.globalShape then bend else p.shape
    terms := value.length }.invalidate

theorem putPoint_andThen (p : Parts K) (t : K) (v : List K) (bend : Bend K) :
    ((p.putPoint t v).andThen fun index p => (p.putBend index bend).andThen fun _ p =>
      .done { p with terms := v.length }.invalidate index) =
      .done (p.place t v bend) (p.indexFor t) := rfl

theorem precompute_snapshot (p : Parts K) (a b : Snapshot K) :
    Parts.precompute { p with snapshot := some a } b = p.precompute b := rfl

namespace Fits

variable {p q : Parts K} {s t : Spline K}

/-! ## What fitting parts have in common with their spline -/

theorem size (h : p.Fits s) : p.parameters.length = s.store.size := by
  rw [h.shows.parameters, Store.length_parameters]

theorem checkAlive (h : p.Fits s) : p.checkAlive = s.checkAlive := by
  rw [Parts.checkAlive, Spline.checkAlive, h.destroyed, h.kind]

theorem checkPoints (h : p.Fits s) : p.checkPoints = s.checkPoints := by
  rw [Parts.checkPoints, Spline.checkPoints, h.size, h.kind]

theorem checkApart (h : p.Fits s) : p.checkApart = s.checkApart := by
  rw [Parts.checkApart, Spline.checkApart, h.shows.parameters]

theorem checkWidth (h : p.Fits s) (v : List K) : p.checkWidth v = s.checkWidth v := by
  rw [Parts.checkWidth, Spline.checkWidth, h.shows.terms]

theorem domain (h : p.Fits s) : p.domain = s.domain := by
  rw [Parts.domain, Spline.domain, h.shows.parameters, h.kind]

theorem hasText (h : p.Fits s) : p.hasText = s.hasText := by
  funext i
  rw [Parts.hasText, Spline.hasText, h.kind, h.shows.shape, isText_sharedShape]
  cases ht : s.kind.tag with
  | perPointShape =>
    rw [h.shows.shapes, if_pos ht, List.getElem?_map, Option.any_map]
  | _ => rfl

/-- Parts that fit the same control points differ in what has been computed, and in nothing
else. -/
theorem stored_eq (hp : p.Fits s) (hq : q.Fits t) (hkind : t.kind = s.kind)
    (hconfig : t.config = s.config) (hstore : t.store = s.store) (hshared : t.shared = s.shared)
    (howners : t.owners = s.owners) (hdestroyed : t.destroyed = s.destroyed) :
    q.invalidate = p.invalidate := by
  have hterms : t.terms = s.terms := by rw [Spline.terms, Spline.terms, hstore]
  simp only [invalidate, mk.injEq]
  refine ⟨?_, ?_, ?_, ?_, ?_, ?_, ?_, ?_, ?_, ?_, trivial, trivial, trivial, ?_⟩
  · rw [hp.kind, hq.kind, hkind]
  · rw [hp.config, hq.config, hconfig]
  · rw [hp.shows.parameters, hq.shows.parameters, hstore]
  · rw [hp.shows.values, hq.shows.values, hstore]
  · rw [hp.shows.incoming, hq.shows.incoming, hstore, hkind]
  · rw [hp.shows.outgoing, hq.shows.outgoing, hstore, hkind]
  · rw [hp.shows.shapes, hq.shows.shapes, hstore, hkind]
  · rw [hp.shows.shape, hq.shows.shape, hshared]
  · rw [hp.shows.terms, hq.shows.terms, hterms]
  · rw [hp.owners, hq.owners, howners]
  · rw [hp.destroyed, hq.destroyed, hdestroyed]

/-! ## What the scheme computes -/

theorem shapeAt (h : p.Fits s) (hn : s.kind.tag ≠ .none) (ht : s.kind.tag ≠ .tcb) (i : Nat) :
    p.shapeAt i = if s.kind.tag = .globalShape then s.globalShape
      else ((s.store.contents.map Knot.bend).getD i .none).freedom := by
  rw [Parts.shapeAt, h.kind, h.shows.shape, freedom_sharedShape, h.shows.shapes, Spline.globalShape]
  cases htag : s.kind.tag with
  | none => exact absurd htag hn
  | tcb => exact absurd htag ht
  | globalShape => rfl
  | perPointShape => rfl

theorem column (h : p.Fits s) (k : Nat) :
    p.lists.column k = Curve.column s.store.contents k := by
  rw [Snapshot.column, Curve.column, lists, h.shows.values, List.map_map]
  rfl

theorem triples_map (l : List (Knot K)) (side : Side) (i : Nat) :
    triples (l.map fun a => a.bend.triple side) i =
      ((l.map Knot.bend).getD i .none).triple side := by
  rw [triples, List.getD_eq_getElem?_getD, List.getD_eq_getElem?_getD, List.getElem?_map,
    List.getElem?_map]
  cases l[i]? with
  | none => cases side <;> rfl
  | some a => rfl

/-- What the scheme computes for one component, and the rule that is made of it. -/
theorem prepareComponent (h : p.Fits s) (k : Nat) :
    Curve.prepareComponent s.kind s.store.parameters.toArray s.store.contents s.globalShape k =
      (Cache.prepare p.kind p.lists.parameters.length (nth p.lists.parameters.toArray)
        (nth (p.lists.column k)) (triples p.incoming) (triples p.outgoing)).map fun c =>
          ⟨p.lists.column k, c.rule p.kind p.lists.parameters.length p.shapeAt⟩ := by
  have hbend (i : Nat) : (s.store.contents.map Knot.bend).toArray.getD i .none =
      (s.store.contents.map Knot.bend).getD i .none := by simp
  have hin (ht : s.kind.tag = .tcb) : (fun i =>
      ((s.store.contents.map Knot.bend).getD i .none).triple .incoming) = triples p.incoming := by
    rw [h.shows.incoming, if_pos ht]
    exact funext fun i => (triples_map _ _ i).symm
  have hout (ht : s.kind.tag = .tcb) : (fun i =>
      ((s.store.contents.map Knot.bend).getD i .none).triple .outgoing) = triples p.outgoing := by
    rw [h.shows.outgoing, if_pos ht]
    exact funext fun i => (triples_map _ _ i).symm
  have hparameters : p.lists.parameters = s.store.parameters := h.shows.parameters
  rw [Curve.prepareComponent]
  simp only [hbend]
  rw [Rule.prepare_eq, Cache.prepare_congr hin hout,
    Cache.rule_congr fun hn ht => funext fun i => (h.shapeAt hn ht i).symm, h.column, h.kind,
    hparameters, List.size_toArray, map_map]

/-- The scheme computes of the lists what it computes of the store. -/
theorem prepare (h : p.Fits s) : Curve.prepare s.kind s.terms s.store s.globalShape =
    (p.precompute p.lists).map (p.curve p.lists) := by
  rw [Curve.prepare, precompute, h.shows.terms, funext h.prepareComponent, mapM_range_map,
    ← h.shows.parameters]
  exact (bind_pure_comp (fun components => (⟨p.parameters.toArray, components⟩ : Curve K)) _).trans
    (map_map _ _ _)

/-! ## What the operations leave of fitting parts -/

theorem owned (h : p.Fits s) (n : Nat) :
    Fits { p with owners := n } { s with owners := n } where
  kind := h.kind
  config := h.config
  owners := rfl
  destroyed := h.destroyed
  shows := h.shows.update
  stale := h.stale
  coherent := h.coherent.owners n
  cached c hc := ⟨⟨(h.cached c hc).1.snapshot, (h.cached c hc).1.cache⟩, (h.cached c hc).2⟩

theorem invalidate (h : p.Fits s) : p.invalidate.Fits s.invalidate where
  kind := h.kind
  config := h.config
  owners := h.owners
  destroyed := h.destroyed
  shows := h.shows.update
  stale := rfl
  coherent := h.coherent.stale rfl rfl
  cached c hc := by cases hc

theorem duplicate (h : p.Fits s) (config : ConfigId) :
    (p.duplicate config).Fits (s.duplicate config) where
  kind := h.kind
  config := rfl
  owners := rfl
  destroyed := h.destroyed
  shows := h.shows.update
  stale := rfl
  coherent := h.coherent.stale rfl rfl
  cached c hc := by cases hc

theorem shows_of_empty {p : Parts K} {s : Spline K} (hs : s.store = .empty)
    (hshared : s.shared = .none) (hp : p.parameters = [] ∧ p.values = [] ∧ p.incoming = [] ∧
      p.outgoing = [] ∧ p.shapes = [] ∧ p.shape = .shape 0 ∧ p.terms = 0) : p.Shows s := by
  obtain ⟨h1, h2, h3, h4, h5, h6, h7⟩ := hp
  refine ⟨?_, ?_, ?_, ?_, ?_, ?_, ?_⟩
  · rw [h1, hs]; rfl
  · rw [h2, hs]; rfl
  · rw [h3, hs]; simp [Store.contents, Store.empty]
  · rw [h4, hs]; simp [Store.contents, Store.empty]
  · rw [h5, hs]; simp [Store.contents, Store.empty]
  · rw [h6, hshared]; rfl
  · rw [h7, Spline.terms, hs]; rfl

theorem empty (kind : Kind) (config : ConfigId) :
    (Parts.empty kind config : Parts K).Fits (.empty kind config) where
  kind := rfl
  config := rfl
  owners := rfl
  destroyed := rfl
  shows := shows_of_empty rfl rfl ⟨rfl, rfl, rfl, rfl, rfl, rfl, rfl⟩
  stale := rfl
  coherent := Spline.coherent_of_empty rfl rfl
  cached c hc := by cases hc

theorem teardown (h : p.Fits s) : p.teardown.Fits s.teardown where
  kind := h.kind
  config := h.config
  owners := rfl
  destroyed := rfl
  shows := shows_of_empty rfl rfl ⟨rfl, rfl, rfl, rfl, rfl, rfl, rfl⟩
  stale := rfl
  coherent := Spline.coherent_of_empty rfl rfl
  cached c hc := by cases hc

theorem indexFor (h : p.Fits s) (t : K) : p.indexFor t = s.store.place t := by
  rw [Parts.indexFor, h.size, h.shows.parameters, Store.place]

/-- A list that a kind with the right tag keeps beside the store gets its new entry where the store
gets the control point, and a list of another kind stays empty. -/
theorem list_place {β : Type} (h : p.Fits s) (t : K) (v : List K) (bend : Bend K) {tag : Tag}
    {f : Knot K → β} {l : List β}
    (hl : l = if s.kind.tag = tag then s.store.contents.map f else []) :
    (if p.kind.tag = tag then l.insertIdx (p.indexFor t) (f ⟨v, bend⟩) else l) =
      if s.kind.tag = tag then (s.place t v bend).store.contents.map f else [] := by
  rw [h.kind, h.indexFor, hl]
  split
  · rw [Spline.place, Store.contents_insert, Store.map_insertIdx]
  · rfl

theorem shows_place (h : p.Fits s) (t : K) {v : List K} {bend : Bend K} (hv : v ≠ [])
    (hw : s.terms ≠ 0 → v.length = s.terms) (hb : s.kind.tag ≠ .none → bend ≠ .none) :
    (p.place t v bend).Shows (s.place t v bend) where
  parameters := by
    simp only [Parts.place, Spline.place, Parts.invalidate, h.indexFor, h.shows.parameters,
      Store.parameters_insert]
  values := by
    simp only [Parts.place, Spline.place, Parts.invalidate, h.indexFor, h.shows.values,
      Store.contents_insert, Store.map_insertIdx]
  incoming := h.list_place t v bend h.shows.incoming
  outgoing := h.list_place t v bend h.shows.outgoing
  shapes := h.list_place t v bend h.shows.shapes
  shape := by
    simp only [Parts.place, Spline.place, Parts.invalidate, h.kind, h.shows.shape, beq_iff_eq]
    split
    · rename_i htag
      exact (sharedShape_of_ne (hb (by rw [htag]; decide))).symm
    · rfl
  terms := by
    have hmem : (⟨v, bend⟩ : Knot K) ∈ (s.place t v bend).store.contents :=
      Spline.mem_contents_place.2 (.inl rfl)
    exact (Spline.width_place h.coherent.width hv hw _ hmem).1

/-- A control point is put into all lists at one place, and the curve is given up. -/
theorem place (h : p.Fits s) (t : K) {v : List K} {bend : Bend K} (hv : v ≠ [])
    (hw : s.terms ≠ 0 → v.length = s.terms) (hb : s.kind.tag ≠ .none → bend ≠ .none) :
    (p.place t v bend).Fits (s.place t v bend) where
  kind := h.kind
  config := h.config
  owners := h.owners
  destroyed := h.destroyed
  shows := h.shows_place t hv hw hb
  stale := rfl
  coherent := ⟨Spline.width_place h.coherent.width hv hw, nofun⟩
  cached c hc := by cases hc

end Fits

/-! ## Operations on both -/

/-- Two operations answer and log the same, and what they leave fits together. -/
structure Agree {α : Type} (r : Run K (Parts K) α) (q : Run K (Spline K) α) : Prop where
  answer : r.answer = q.answer
  events : r.events = q.events
  fits : r.state.Fits q.state

section Agree

variable {α β : Type} {p : Parts K} {s : Spline K} {r : Run K (Parts K) α} {q : Run K (Spline K) α}

omit [Scalar K] in
theorem agree_ask [Scalar K] (h : p.Fits s) {a b : Except (Fault K) α} (hab : a = b) :
    Agree (.ask p a) (.ask s b) := ⟨hab, rfl, h⟩

theorem agree_done (h : p.Fits s) (a : α) : Agree (.done p a) (.done s a) := ⟨rfl, rfl, h⟩

theorem agree_fail (h : p.Fits s) (f : Fault K) :
    Agree (.fail p f : Run K (Parts K) α) (.fail s f) := ⟨rfl, rfl, h⟩

theorem Agree.map (h : Agree r q) (f : α → β) : Agree (r.map f) (q.map f) :=
  ⟨congrArg (Except.map f) h.answer, h.events, h.fits⟩

theorem Agree.andThen (h : Agree r q) {next : α → Parts K → Run K (Parts K) β}
    {next' : α → Spline K → Run K (Spline K) β}
    (hn : ∀ a, q.answer = .ok a → Agree (next a r.state) (next' a q.state)) :
    Agree (r.andThen next) (q.andThen next') := by
  cases hq : q.answer with
  | error f =>
    rw [Run.andThen_error (h.answer.trans hq), Run.andThen_error hq]
    exact ⟨rfl, h.events, h.fits⟩
  | ok a =>
    obtain ⟨hanswer, hevents, hfits⟩ := hn a hq
    rw [Run.andThen_ok (h.answer.trans hq), Run.andThen_ok hq]
    exact ⟨hanswer, by rw [h.events, hevents], hfits⟩

theorem Fits.ask_andThen (h : p.Fits s) {a b : Except (Fault K) α} (hab : a = b)
    {next : α → Parts K → Run K (Parts K) β} {next' : α → Spline K → Run K (Spline K) β}
    (hn : ∀ x, b = .ok x → Agree (next x p) (next' x s)) :
    Agree ((Run.ask p a).andThen next) ((Run.ask s b).andThen next') :=
  (agree_ask h hab).andThen hn

end Agree

namespace Fits

variable {p : Parts K} {s : Spline K}

/-- **Adding a control point.** All checks come before the lists are touched, and nothing fails
once they are. -/
theorem agree_insert (h : p.Fits s) (clamp : Bool) (parameter : Reading K)
    {value : Except (Fault K) (List K)} (e : Extension K) (hvalue : ∀ v, value = .ok v → v ≠ []) :
    Agree (p.insert clamp parameter value e) (s.insert clamp parameter value e) := by
  refine h.ask_andThen h.checkAlive fun _ _ => ?_
  refine h.ask_andThen (by rw [h.kind]) fun _ _ => ?_
  refine h.ask_andThen rfl fun t _ => ?_
  refine h.ask_andThen rfl fun v hv => ?_
  refine h.ask_andThen (h.checkWidth v) fun _ hw => ?_
  rw [h.kind]
  rcases Run.log_andThen_cases s (Spline.checkBend clamp s.kind e) _ with
    ⟨f, hb, hs⟩ | ⟨bend, events, hb, hs⟩
  · rw [hs, hb]
    exact agree_fail h f
  · rw [hs, hb, Run.log_ok_andThen, putPoint_andThen, Spline.putPoint_andThen, h.indexFor]
    exact ⟨rfl, rfl, h.place t (hvalue v hv) (Spline.checkWidth_eq_ok.1 hw)
      (Spline.checkBend_ne_none hb)⟩

theorem snapshot (h : p.Fits s) : Fits { p with snapshot := some p.lists } s where
  kind := h.kind
  config := h.config
  owners := h.owners
  destroyed := h.destroyed
  shows := h.shows.update
  stale := h.stale
  coherent := h.coherent
  cached c hc := ⟨⟨rfl, (h.cached c hc).1.cache⟩, (h.cached c hc).2⟩

theorem finalized (h : p.Fits s) {cache : List (Cache K)}
    (hcache : p.precompute p.lists = .ok cache) (hb : s.build = .ok (p.curve p.lists cache)) :
    Fits { p with snapshot := some p.lists, cache, stale := false }
      { s with curve := some (p.curve p.lists cache) } where
  kind := h.kind
  config := h.config
  owners := h.owners
  destroyed := h.destroyed
  shows := h.shows.update
  stale := rfl
  coherent := h.coherent.rebuilt hb
  cached c hc := by
    cases hc
    exact ⟨⟨rfl, hcache⟩, rfl⟩

/-- **Finalizing.** A snapshot that is left behind by a scheme that breaks down is not read, since
the curve is stale then. -/
theorem agree_finalize (h : p.Fits s) : Agree p.finalize s.finalize := by
  refine h.ask_andThen h.checkAlive fun _ halive => ?_
  refine h.ask_andThen h.checkPoints fun _ hpoints => ?_
  refine h.ask_andThen h.checkApart fun _ hapart => ?_
  rw [Run.done_andThen]
  have hsize : p.lists.parameters.length = s.store.size := h.size
  have hprepare := h.prepare
  cases hcache : p.precompute p.lists with
  | error b =>
    rw [hcache] at hprepare
    have hs : s.precompute = .error (.breakdown b) := by
      rw [Spline.precompute, hprepare]
      rfl
    rw [hs, precompute_snapshot, hcache]
    exact agree_fail h.snapshot (.breakdown b)
  | ok cache =>
    rw [hcache] at hprepare
    have hb : s.build = .ok (p.curve p.lists cache) := Spline.build_eq_ok.2
      ⟨Spline.checkAlive_eq_ok.1 halive, hpoints, Spline.checkApart_eq_ok.1 hapart, hprepare⟩
    have hs : s.precompute = .ok (p.curve p.lists cache, s.precomputeEvents) := by
      rw [Spline.precompute, hprepare]
      rfl
    rw [hs, precompute_snapshot, hcache]
    refine ⟨rfl, ?_, h.finalized hcache hb⟩
    show p.kind.precomputeEvents p.lists.parameters.length ++
      [.finalized p.kind p.lists.parameters.length p.terms] = s.finalizeEvents
    rw [hsize, h.kind, h.shows.terms]
    rfl

/-- Parts that are not stale have been computed of their lists, and finalizing them once more
changes none of them. -/
theorem finalize_self (h : p.Fits s) (hp : p.stale = false) :
    p.Cached ∧ p.finalize = ⟨.ok (), p, s.finalizeEvents⟩ := by
  have hsome : s.curve.isSome = true := by simpa [h.stale] using hp
  obtain ⟨c, hc⟩ := Option.isSome_iff_exists.1 hsome
  obtain ⟨hcached, -⟩ := h.cached c hc
  have hb := h.coherent.curve c hc
  obtain ⟨halive, hpoints, hapart, -⟩ := Spline.build_eq_ok.1 hb
  obtain ⟨hanswer, hevents, -⟩ := h.agree_finalize
  rw [Spline.finalize_self hc hb] at hanswer hevents
  have hstate : p.finalize.state =
      { p with snapshot := some p.lists, cache := p.cache, stale := false } := by
    rw [finalize, h.checkAlive, Spline.checkAlive_eq_ok.2 halive, Run.ask_ok_andThen,
      h.checkPoints, hpoints, Run.ask_ok_andThen, h.checkApart, Spline.checkApart_eq_ok.2 hapart,
      Run.ask_ok_andThen, Run.done_andThen, precompute_snapshot, hcached.cache]
    rfl
  have hself : { p with snapshot := some p.lists, cache := p.cache, stale := false } = p := by
    rw [← hcached.snapshot, ← hp]
  exact ⟨hcached, Run.ext hanswer (hstate.trans hself) hevents⟩

/-! ## Reading and evaluating -/

theorem read (h : p.Fits s) {c : Curve K} (hc : s.curve = some c) (config : Config) (t : K) :
    p.read config t = s.read config c t := by
  obtain ⟨hcached, hcurve⟩ := h.cached c hc
  have hparameters : p.lists.parameters.toArray = c.parameters := by
    rw [← hcurve]
    rfl
  rw [Parts.read, hcached.snapshot]
  dsimp only
  rw [hcurve, h.hasText, hparameters]
  rfl

theorem get (h : p.Fits s) (config : Config) (parameter : Reading K) :
    p.get config parameter = s.get config parameter := by
  rw [Parts.get, Spline.get, h.checkAlive, h.checkPoints, h.stale, h.kind]
  cases hc : s.curve with
  | none => rfl
  | some c => simp only [h.read hc, Option.isNone_some, Bool.false_eq_true, if_false]

theorem agree_refresh (h : p.Fits s) (config : Config) :
    Agree (p.refresh config) (s.refresh config) := by
  have hstale : p.stale = !s.isFinalized := by
    rw [h.stale, Spline.isFinalized, Option.not_isSome]
  rw [Parts.refresh, Spline.refresh, hstale]
  split
  · exact h.agree_finalize
  · exact agree_done h ()

theorem agree_evaluate (h : p.Fits s) (config : Config) (parameter : Reading K) :
    Agree (p.evaluate config parameter) (s.evaluate config parameter) :=
  (h.agree_refresh config).andThen fun _ _ =>
    let hr := (h.agree_refresh config).fits
    agree_ask hr (by rw [hr.get, hr.shows.terms])

theorem agree_evaluateAll (h : p.Fits s) (config : Config) (ts : List K) :
    Agree (p.evaluateAll config ts) (s.evaluateAll config ts) := by
  induction ts generalizing p s with
  | nil => exact agree_done h []
  | cons t ts ih =>
    have ht := h.agree_evaluate config (.ofScalar parameterName t)
    exact ht.andThen fun v _ => (ih ht.fits).map (v.1 :: ·)

/-- Samples are a batch, which is not spread before there is something to evaluate. -/
theorem agree_sample (h : p.Fits s) (config : Config) {samples : Except (Fault K) Nat}
    (margin : Reading K) (hn : ∀ n, samples = .ok n → 2 ≤ n) :
    Agree (p.sample config samples margin) (s.sample config samples margin) := by
  rw [Parts.sample, Spline.sample, h.domain]
  cases hspread : Spline.spread s.domain samples margin with
  | error f => exact agree_fail h f
  | ok range =>
    obtain ⟨n, start, stop⟩ := range
    have hn2 : 2 ≤ n := by
      obtain ⟨_, -, hspread⟩ := bind_eq_ok.1 hspread
      obtain ⟨m, -, hspread⟩ := bind_eq_ok.1 hspread
      obtain ⟨k, hk, hspread⟩ := bind_eq_ok.1 hspread
      cases hspread
      exact hn _ hk
    obtain ⟨hanswer, hevents, hfits⟩ := h.agree_evaluateAll config (Spline.spaced n start stop)
    dsimp only
    rw [Spline.sampleBetween_eq config s hn2, h.kind, h.shows.terms]
    refine ⟨?_, ?_, hfits⟩
    · simp only [Run.map, Spline.evaluateGrid, hanswer, map_map]
    · simp only [Run.map, Spline.evaluateGrid, hevents]

end Fits

end Parts

/-! ## Parts at work -/

/-- Where there is a last sample, there is a first one before it. -/
theorem Datum.two_le_of_sampleCount {d : Datum} {n : Nat} (hc : d.checkSamples = .ok ())
    (hn : d.sampleCount = .ok n) : 2 ≤ n := by
  cases d with
  | int k =>
    have hk : ¬ k < 2 := by
      intro hk
      simp [checkSamples, hk] at hc
    simp only [sampleCount] at hn
    repeat' split at hn
    all_goals cases hn
    omega
  | _ => cases hn

namespace Parts

variable {p : Parts Float} {s : Spline Float}

def call (config : Config) (p : Parts Float) : Spline.Call → Run Float (Parts Float) Answer
  | .insert parameter value extension =>
    (Run.ask p extension).andThen fun e p =>
      (p.insert (config.isOn .clampShapes) parameter.parameter (value.vector config.maxTerms)
        e).map .index
  | .finalize => p.finalize.map fun _ => .flag true
  | .invalidate => .done p.invalidate .nothing
  | .get parameter => (Run.ask p (p.get config parameter.parameter)).map .vector
  | .evaluate parameter =>
    (p.evaluate config parameter.parameter).map fun v => .evaluation v.1 v.2
  | .range parameters =>
    (Run.ask p parameters.parameters).andThen fun ts p =>
      ((p.evaluateAll config ts).map fun rows => (⟨p.terms, rows⟩ : Grid Float)).map .grid
  | .uniform samples margin =>
    (Run.ask p samples.checkSamples).andThen fun _ p =>
      (p.sample config samples.sampleCount margin.factor).map .samples

/-- **Calls.** A call on the parts answers and logs what the call on the spline does, and leaves
parts that fit what that leaves. -/
theorem Fits.agree_call (h : p.Fits s) (config : Config) (c : Spline.Call) :
    Agree (p.call config c) (s.call config c) := by
  cases c with
  | insert parameter value extension =>
    cases extension with
    | error f => exact agree_fail h f
    | ok e =>
      refine Agree.map (h.agree_insert _ _ e fun v hv => ?_) Answer.index
      exact Datum.ne_nil_of_admitsWidth (Datum.vector_eq_ok hv).1
  | finalize => exact h.agree_finalize.map _
  | invalidate => exact agree_done h.invalidate Answer.nothing
  | get parameter => exact (agree_ask h (h.get config _)).map Answer.vector
  | evaluate parameter => exact (h.agree_evaluate config _).map _
  | range parameters =>
    rw [call, Spline.call, Spline.evaluateRange]
    cases parameters.parameters with
    | error f => exact agree_fail h f
    | ok ts =>
      rw [Run.ask_ok_andThen, h.shows.terms]
      exact ((h.agree_evaluateAll config ts).map _).map Answer.grid
  | uniform samples margin =>
    rw [call, Spline.call, Spline.sampleUniform]
    cases hc : samples.checkSamples with
    | error f => exact agree_fail h f
    | ok _ =>
      exact (h.agree_sample config margin.factor
        fun n hn => Datum.two_le_of_sampleCount hc hn).map Answer.samples

/-- Parts that have gone through the same calls as a spline. -/
inductive InStep : Parts Float → Spline Float → Prop
  | empty (kind : Kind) (config : ConfigId) : InStep (.empty kind config) (.empty kind config)
  | call {p : Parts Float} {s : Spline Float} (config : Config) (c : Spline.Call)
      (before : InStep p s) : InStep (p.call config c).state (s.call config c).state
  | owners {p : Parts Float} {s : Spline Float} (n : Nat) (before : InStep p s) :
      InStep { p with owners := n } { s with owners := n }
  | teardown {p : Parts Float} {s : Spline Float} (before : InStep p s) :
      InStep p.teardown s.teardown
  | duplicate {p : Parts Float} {s : Spline Float} (config : ConfigId) (before : InStep p s) :
      InStep (p.duplicate config) (s.duplicate config)

/-- **Parts at work.** Parts that have gone through the same calls as a spline fit it. -/
theorem InStep.fits (h : p.InStep s) : p.Fits s := by
  induction h with
  | empty kind config => exact .empty kind config
  | call config c _ ih => exact (ih.agree_call config c).fits
  | owners n _ ih => exact ih.owned n
  | teardown _ ih => exact ih.teardown
  | duplicate config _ ih => exact ih.duplicate config

/-- Every spline has parts that have gone through what it has gone through. -/
theorem inStep_invariant : Spline.Invariant fun s => ∃ p : Parts Float, p.InStep s where
  empty kind config := ⟨_, .empty kind config⟩
  owners _ n := fun ⟨_, h⟩ => ⟨_, h.owners n⟩
  call config _ c := fun ⟨_, h⟩ => ⟨_, h.call config c⟩
  teardown _ := fun ⟨_, h⟩ => ⟨_, h.teardown⟩
  duplicate _ config := fun ⟨_, h⟩ => ⟨_, h.duplicate config⟩

end Parts

end CurveKit
