import CurveKit.Proofs.Spline.Parts
import CurveKit.Proofs.Spline.Points
import CurveKit.Proofs.Store.Stable

/-!
# How control points are kept

A live spline keeps its accepted control points sorted stably by their parameters, and
their extension data in the same order: the triples as they came, the shapes moved into
the range of the kind. A shape that all points share is that of the last one that came.

Results:
* `keep_of_checkShape`: an accepted shape is kept, or the nearest bound is.
* `keeps_call`: a call adds an accepted control point behind those with its parameter.
* `Keeps.represents`: points, extension data and width, told from what was accepted.
-/
namespace CurveKit

/-! ## Shapes in range -/

namespace Kind

open Binary64

variable {kind : Kind} {g : Float} {b : Bend Float}

/-- What is kept of a shape: itself in the range, and the nearest bound outside. -/
def keep (kind : Kind) (b : Bend Float) : Bend Float :=
  if b.freedom < kind.shapeLow then .shape kind.shapeLow
  else if shapeHigh < b.freedom then .shape shapeHigh else b

theorem isFinite_shapeLow (kind : Kind) : (kind.shapeLow : Float).isFinite = true := by
  cases kind <;> decide +kernel

theorem isFinite_shapeHigh : (shapeHigh : Float).isFinite = true := by decide +kernel

theorem holds_iff (hg : g.isFinite = true) :
    kind.Holds g ↔ ¬ g < kind.shapeLow ∧ ¬ shapeHigh < g := by
  rw [Holds, le_iff_rank kind.isFinite_shapeLow hg, le_iff_rank hg isFinite_shapeHigh,
    lt_iff_rank hg kind.isFinite_shapeLow, lt_iff_rank isFinite_shapeHigh hg, not_lt, not_lt]

theorem keep_of_holds (hg : b.freedom.isFinite = true) (h : kind.Holds b.freedom) :
    kind.keep b = b := by
  obtain ⟨hlow, hhigh⟩ := (holds_iff hg).1 h
  rw [keep, if_neg hlow, if_neg hhigh]

theorem keep_of_not_holds (hg : b.freedom.isFinite = true) (h : ¬ kind.Holds b.freedom) :
    kind.keep b = .shape (kind.boundFor b.freedom) := by
  unfold keep boundFor
  split
  · rfl
  · rename_i hlow
    rw [if_pos]
    by_contra hhigh
    exact h ((holds_iff hg).2 ⟨hlow, hhigh⟩)

end Kind

/-- An accepted shape is kept, or its bound is. -/
theorem Spline.keep_of_checkShape {clamp : Bool} {kind : Kind} {b kept : Bend Float}
    {events : List (Event Float)} (h : checkShape clamp kind b = .ok (kept, events)) :
    kept = kind.keep b := by
  obtain ⟨hf, ⟨hin, rfl, -⟩ | ⟨hout, -, rfl, -⟩⟩ := checkShape_eq_ok h
  · exact (Kind.keep_of_holds hf hin).symm
  · exact (Kind.keep_of_not_holds hf hout).symm

/-! ## What accepted control points tell -/

namespace Insertion

/-- The point without its extension data. -/
def point (x : Insertion) : Entry Float (List Float) := ⟨x.parameter, x.value⟩

/-- What a kind keeps of the extension data that it came with: a pair as it came, or a shape as it
came or moved to the nearest bound. -/
def kept (kind : Kind) (x : Insertion) : Bend Float :=
  match kind.tag with
  | .none => .none
  | .tcb =>
    match x.extension.pair? with
    | some (.ok incoming, .ok outgoing) => .tcb incoming outgoing
    | _ => .none
  | _ =>
    match x.extension.shape? with
    | some (.ok b) => kind.keep b
    | _ => .none

/-- Does it come with the extension data that the kind asks for? -/
def fits (kind : Kind) (x : Insertion) : Bool :=
  match kind.tag with
  | .none => true
  | .tcb => (x.extension.pair? matches some (.ok _, .ok _))
  | _ => (x.extension.shape? matches some (.ok _))

/-- What is kept of an accepted control point is told from what it came with. -/
theorem Admitted.bend_eq {config : Config} {kind : Kind} {x : Insertion}
    (h : x.Admitted config kind) :
    x.bend (config.isOn .clampShapes) kind = x.kept kind ∧ x.fits kind = true := by
  obtain ⟨⟨b, events⟩, hb⟩ := h.extension
  rw [bend_of_ok hb]
  unfold kept fits
  rcases Spline.checkBend_eq_ok hb with ⟨ht, rfl, -⟩ | ⟨ht, hpair, -⟩ | ⟨⟨hn, ht⟩, c, hc, hs⟩
  · rw [ht]
    exact ⟨rfl, rfl⟩
  · obtain ⟨incoming, outgoing, hp, -, -, rfl⟩ := Spline.checkPair_eq_ok hpair
    rw [ht, hp]
    exact ⟨rfl, rfl⟩
  · rw [hc]
    cases htag : kind.tag with
    | none => exact absurd htag hn
    | tcb => exact absurd htag ht
    | globalShape => exact ⟨Spline.keep_of_checkShape hs, rfl⟩
    | perPointShape => exact ⟨Spline.keep_of_checkShape hs, rfl⟩

end Insertion

/-- Control points in the order of their parameters; those with equal parameters stay in the
order in which they came. -/
def arranged (log : List Insertion) : List Insertion :=
  log.mergeSort fun x y => decide (x.parameter ≤ y.parameter)

theorem mem_arranged {log : List Insertion} {x : Insertion} : x ∈ arranged log ↔ x ∈ log :=
  (List.mergeSort_perm log _).mem_iff

theorem entries_of_arranges {store : Store Float (Knot Float)} {log : List Insertion}
    {f : Insertion → Entry Float (Knot Float)} (h : store.Arranges (log.map f))
    (hf : ∀ x, (f x).parameter = x.parameter) : store.entries = (arranged log).map f := by
  rw [h.entries_eq]
  exact (List.map_mergeSort (f := f) (s := fun a b => decide (a.parameter ≤ b.parameter))
    fun x _ y _ => by rw [hf, hf]).symm

/-- The extension data that a spline shows of control points: in the order of the points, or the
last shape that came, 0 if none did. -/
def extensionData (kind : Kind) (log : List Insertion) : Bends :=
  let kept := (arranged log).map (Insertion.kept kind)
  match kind.tag with
  | .none => .none
  | .tcb => .tcb (kept.map fun b => b.triple .incoming) (kept.map fun b => b.triple .outgoing)
  | .globalShape => .shape (log.getLast?.elim 0 fun x => (x.kept kind).freedom)
  | .perPointShape => .shapes (kept.map (·.freedom))

theorem Datum.admitsWidth_int {m : Int} {n : Nat} :
    admitsWidth (.int m) n = .ok (decide (1 ≤ n ∧ n ≤ m.toNat)) := by
  unfold admitsWidth
  by_cases hn : n = 0
  · simp [hn]
  · rw [if_neg (by simpa using hn)]
    dsimp only
    rw [decide_eq_decide.2]
    omega

/-- What parts show of accepted control points: each list has an entry for each of them, and all
lists have them in one order. -/
structure Parts.Represents (log : List Insertion) (p : Parts Float) : Prop where
  parameters : p.parameters = (arranged log).map (·.parameter)
  values : p.values = (arranged log).map (·.value)
  incoming : p.kind.tag = .tcb →
    p.incoming = (arranged log).map fun x => (x.kept p.kind).triple .incoming
  outgoing : p.kind.tag = .tcb →
    p.outgoing = (arranged log).map fun x => (x.kept p.kind).triple .outgoing
  shapes : p.kind.tag = .perPointShape → p.shapes = (arranged log).map (Insertion.kept p.kind)
  shape : p.kind.tag = .globalShape →
    p.shape = log.getLast?.elim (.shape 0) (Insertion.kept p.kind)
  width : ∀ v ∈ p.values, v.length = p.terms

namespace Spline

/-- A spline keeps the accepted control points, and those at equal parameters in the order in
which they came. -/
structure Keeps (config : Config) (log : List Insertion) (s : Spline Float) : Prop
    extends Records (config.isOn .clampShapes) log s where
  stable : ∀ k, atKey Store.key k s.store.entries =
    atKey Store.key k (log.map (Insertion.entry (config.isOn .clampShapes) s.kind))
  admitted : ∀ x ∈ log, x.Admitted config s.kind

/-- What a spline shows of its control points, if these are the accepted ones. -/
structure Represents (settings : Settings) (log : List Insertion) (s : Spline Float) : Prop where
  points : s.plainPoints = (arranged log).map Insertion.point
  fits : ∀ x ∈ log, x.fits s.kind = true
  kept : s.store.contents.map (·.bend) = (arranged log).map (Insertion.kept s.kind)
  extensions : s.bends = extensionData s.kind log
  finite : ∀ e ∈ s.plainPoints,
    e.parameter.isFinite = true ∧ ∀ y ∈ e.content, y.isFinite = true
  width : ∀ e ∈ s.plainPoints, e.content.length = s.terms
  terms : s.plainPoints ≠ [] → 1 ≤ s.terms ∧ s.terms ≤ settings.maxTerms
  noTerms : s.plainPoints = [] → s.terms = 0

section Keeps

variable {config : Config} {log : List Insertion} {s t : Spline Float}

theorem Keeps.arranges (h : Keeps config log s) :
    s.store.Arranges (log.map (Insertion.entry (config.isOn .clampShapes) s.kind)) :=
  ⟨h.sorted, h.stable⟩

theorem keeps_empty (config : Config) (kind : Kind) (id : ConfigId) :
    Keeps config [] (.empty kind id) where
  toRecords := records_empty _ kind id
  stable := Store.arranges_empty.stable
  admitted _ hx := (List.not_mem_nil hx).elim

theorem Keeps.congr (h : Keeps config log s) (hk : t.kind = s.kind) (hs : t.store = s.store)
    (hg : t.shared = s.shared) : Keeps config log t where
  toRecords := h.toRecords.congr hk hs hg
  stable := by rw [hs, hk]; exact h.stable
  admitted := by rw [hk]; exact h.admitted

/-- **One call.** A call adds an accepted control point behind those with its parameter. -/
theorem keeps_call (h : Keeps config log s) (d : Call) :
    Keeps config (log ++ (s.accepted config d).toList) (s.call config d).state := by
  rcases call_cases config s d with ⟨hx, hr⟩ | ⟨x, hx, hadm, -, hst⟩
  · rw [hx, Option.toList_none, List.append_nil]
    exact h.congr (change_call config s d).same.1 hr.points.1 hr.points.2
  · rw [hx, hst]
    refine ⟨h.place hadm.finite, ?_, fun y hy => ?_⟩
    · rw [Option.toList_some, List.map_append]
      exact (h.arranges.insert hadm.finite _).stable
    · rcases List.mem_append.1 hy with hy | hy
      · exact h.admitted y hy
      · rw [Option.toList_some, List.mem_singleton] at hy
        rw [hy]
        exact hadm

theorem Keeps.entries_eq (h : Keeps config log s) : s.store.entries =
    (arranged log).map (Insertion.entry (config.isOn .clampShapes) s.kind) :=
  entries_of_arranges h.arranges fun _ => rfl

theorem Keeps.plainPoints_eq (h : Keeps config log s) :
    s.plainPoints = (arranged log).map Insertion.point := by
  rw [plainPoints, h.entries_eq, List.map_map]
  rfl

theorem Keeps.kept_eq (h : Keeps config log s) :
    s.store.contents.map (·.bend) = (arranged log).map (Insertion.kept s.kind) := by
  rw [Store.contents, h.entries_eq, List.map_map, List.map_map]
  exact List.map_congr_left fun x hx => (h.admitted x (mem_arranged.1 hx)).bend_eq.1

/-- What a spline shows of its extension data is told from what it keeps. -/
theorem bends_eq_of_kept (hpoints : s.store.contents.map (·.bend) =
      (arranged log).map (Insertion.kept s.kind))
    (hshared : s.kind.tag = .globalShape →
      s.shared = log.getLast?.elim .none (Insertion.kept s.kind)) :
    s.bends = extensionData s.kind log := by
  unfold bends extensionData
  dsimp only
  rw [hpoints]
  cases ht : s.kind.tag with
  | none => rfl
  | tcb => rfl
  | perPointShape => rfl
  | globalShape =>
    refine congrArg Bends.shape ((congrArg Bend.freedom (hshared ht)).trans ?_)
    cases log.getLast? <;> rfl

/-- The shape that all points share is what is kept of the last one. -/
theorem Keeps.shared_eq (h : Keeps config log s) (ht : s.kind.tag = .globalShape) :
    s.shared = log.getLast?.elim .none (Insertion.kept s.kind) := by
  rw [h.shared, lastShape, if_pos ht]
  cases hl : log.getLast? with
  | none => rfl
  | some x => exact (h.admitted x (List.mem_of_getLast? hl)).bend_eq.1

theorem Keeps.bends_eq (h : Keeps config log s) : s.bends = extensionData s.kind log :=
  bends_eq_of_kept h.kept_eq h.shared_eq

/-- **Parts.** The lists of a spline in parts stand side by side: the accepted control points are
in each of them, in the order of their parameters. -/
theorem Keeps.parts {p : Parts Float} (h : Keeps config log s) (hp : p.Fits s) :
    p.Represents log where
  parameters := by
    rw [hp.shows.parameters, Store.parameters, h.entries_eq, List.map_map]
    rfl
  values := by
    rw [hp.shows.values, Store.contents, h.entries_eq, List.map_map, List.map_map]
    rfl
  incoming ht := by
    rw [hp.kind] at ht ⊢
    have hkept := congrArg (List.map fun b => b.triple .incoming) h.kept_eq
    rw [List.map_map, List.map_map] at hkept
    rw [hp.shows.incoming, if_pos ht]
    exact hkept
  outgoing ht := by
    rw [hp.kind] at ht ⊢
    have hkept := congrArg (List.map fun b => b.triple .outgoing) h.kept_eq
    rw [List.map_map, List.map_map] at hkept
    rw [hp.shows.outgoing, if_pos ht]
    exact hkept
  shapes ht := by
    rw [hp.kind] at ht ⊢
    rw [hp.shows.shapes, if_pos ht, h.kept_eq]
  shape ht := by
    rw [hp.kind] at ht ⊢
    rw [hp.shows.shape, h.shared_eq ht]
    cases hl : log.getLast? with
    | none => rfl
    | some x =>
      have hx := h.admitted x (List.mem_of_getLast? hl)
      obtain ⟨⟨b, events⟩, hb⟩ := hx.extension
      rw [Option.elim_some, Option.elim_some, ← hx.bend_eq.1, Insertion.bend_of_ok hb]
      exact Parts.sharedShape_of_ne (checkBend_ne_none hb (by rw [ht]; decide))
  width v hv := by
    rw [hp.shows.values] at hv
    obtain ⟨a, ha, rfl⟩ := List.mem_map.1 hv
    rw [hp.shows.terms]
    exact (hp.coherent.width a ha).1

theorem entries_of_settings {settings : Settings}
    (hv : (config.settings : Except (Fault Float) Settings) = .ok settings) :
    (∃ m : Int, config.maxTerms = .int m ∧ settings.maxTerms = m.toNat) ∧
      config.isOn .clampShapes = settings.clampShapes := by
  unfold Config.settings at hv
  obtain ⟨limit, hm, hv⟩ := bind_eq_ok.1 hv
  obtain ⟨_, -, hv⟩ := bind_eq_ok.1 hv
  obtain ⟨clamp, hc, hv⟩ := bind_eq_ok.1 hv
  obtain ⟨_, -, hv⟩ := bind_eq_ok.1 hv
  cases hv
  constructor
  · unfold Config.checkMaxTerms at hm
    split at hm
    · rename_i m hmax
      split at hm
      · cases hm
        exact ⟨m, hmax, rfl⟩
      · cases hm
    · cases hm
  · unfold Config.checkSwitch at hc
    split at hc
    · rename_i b hb
      cases hc
      rw [Config.isOn, hb]
      rfl
    · cases hc

theorem admitted_width {settings : Settings} {n : Nat}
    (hv : (config.settings : Except (Fault Float) Settings) = .ok settings)
    (h : Datum.admitsWidth config.maxTerms n = .ok true) : 1 ≤ n ∧ n ≤ settings.maxTerms := by
  obtain ⟨⟨m, hm, hterms⟩, -⟩ := entries_of_settings hv
  rw [hm, Datum.admitsWidth_int] at h
  rw [hterms]
  exact of_decide_eq_true (Except.ok.inj h)

/-- **Representation.** Points, extension data and width of a coherent spline are told from the
accepted control points. -/
theorem Keeps.represents (h : Keeps config log s) (hc : s.Coherent) {settings : Settings}
    (hv : (config.settings : Except (Fault Float) Settings) = .ok settings) :
    Represents settings log s := by
  have hmem : ∀ e ∈ s.plainPoints, ∃ x ∈ log, x.point = e := by
    intro e he
    rw [h.plainPoints_eq] at he
    obtain ⟨x, hx, rfl⟩ := List.mem_map.1 he
    exact ⟨x, mem_arranged.1 hx, rfl⟩
  have hwidth : ∀ e ∈ s.plainPoints, e.content.length = s.terms := by
    intro e he
    obtain ⟨a, ha, rfl⟩ := List.mem_map.1 he
    exact (hc.width a.content (List.mem_map_of_mem ha)).1
  refine ⟨h.plainPoints_eq, fun x hx => (h.admitted x hx).bend_eq.2, h.kept_eq, h.bends_eq, ?_,
    hwidth, ?_, ?_⟩
  · intro e he
    obtain ⟨x, hx, rfl⟩ := hmem e he
    exact ⟨(h.admitted x hx).finite, (h.admitted x hx).components⟩
  · intro hne
    obtain ⟨e, he⟩ := List.exists_mem_of_ne_nil _ hne
    obtain ⟨x, hx, rfl⟩ := hmem e he
    rw [← hwidth _ he]
    exact admitted_width hv (h.admitted x hx).width
  · intro hnil
    have hentries : s.store.entries = [] := List.map_eq_nil_iff.1 hnil
    rw [terms, Store.contents, hentries]
    rfl

/-- An accepted control point goes behind all that have a parameter that is not greater. -/
theorem Keeps.place_eq (h : Keeps config log s) {p : Float} (hp : p.isFinite = true) :
    s.store.place p = log.countP fun x => decide (x.parameter ≤ p) := by
  rw [h.arranges.place_eq hp, List.countP_map]
  rfl

theorem plainPoints_place (s : Spline Float) (p : Float) (v : List Float) (b : Bend Float) :
    (s.place p v b).plainPoints = s.plainPoints.insertIdx (s.store.place p) ⟨p, v⟩ :=
  Store.map_insertIdx _ _ _ _

end Keeps

end Spline

end CurveKit
