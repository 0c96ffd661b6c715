import CurveKit.Proofs.Spline.Coherent

/-!
# Splines that come from operations

The operations on a spline are the same over all scalars. `Grown` says that they have
led to a spline from a new one, and that no shape among its extension data was a text.

Results:
* `Grown.coherent`: the curve of such a spline is the one of its control points.
* `Grown.get_eq`: such a spline answers at every parameter, and what its curve gives.
-/
namespace CurveKit

/-- Extension data of the form that a kind reads, which is never a text. -/
def Bend.IsFor {K : Type} (kind : Kind) : Bend K → Prop
  | none => kind.tag = .none
  | tcb _ _ => kind.tag = .tcb
  | shape _ => kind.tag = .globalShape ∨ kind.tag = .perPointShape
  | text _ => False

theorem Bend.IsFor.isText {K : Type} {kind : Kind} {b : Bend K} (h : b.IsFor kind) :
    b.isText = false := by
  cases b with
  | text s => exact h.elim
  | _ => rfl

namespace Spline


section Generic

variable {K : Type} [Scalar K]

/-- A new spline, and what operations make of it. -/
inductive Grown : Spline K → Prop
  | empty (kind : Kind) (config : ConfigId) : Grown (.empty kind config)
  | insert {s : Spline K} {clamp : Bool} {p : K} {v : List K} {e : Extension K}
      (grown : Grown s) (nonempty : v ≠ []) (numeric : e.isText = false) :
      Grown (s.insert clamp (.ok p) (.ok v) e).state
  | finalize {s : Spline K} (grown : Grown s) : Grown s.finalize.state
  | invalidate {s : Spline K} (grown : Grown s) : Grown s.invalidate
  | owners {s : Spline K} (n : Nat) (grown : Grown s) : Grown { s with owners := n }
  | teardown {s : Spline K} (grown : Grown s) : Grown s.teardown
  | duplicate {s : Spline K} (config : ConfigId) (grown : Grown s) : Grown (s.duplicate config)

theorem Grown.place {s : Spline K} (h : s.Grown) {clamp : Bool} {p : K} {v : List K}
    {e : Extension K} {bend : Bend K} {events : List (Event K)} (alive : s.destroyed = false)
    (nonempty : v ≠ []) (numeric : e.isText = false) (presence : checkPresence s.kind e = .ok ())
    (width : s.terms ≠ 0 → v.length = s.terms)
    (check : checkBend clamp s.kind e = .ok (bend, events)) : (s.place p v bend).Grown := by
  have hs : Grown (s.insert clamp (.ok p) (.ok v) e).state := h.insert nonempty numeric
  rwa [insert_of_ok alive presence width check] at hs

theorem Grown.place_plain {s : Spline K} (h : s.Grown) {p : K} {v : List K}
    (alive : s.destroyed = false) (plain : s.kind.tag = .none) (nonempty : v ≠ [])
    (width : s.terms ≠ 0 → v.length = s.terms) : (s.place p v .none).Grown := by
  have presence : checkPresence s.kind (.nothing : Extension K) = .ok () := by
    simp [checkPresence, plain, Extension.isPresent]
  have check : checkBend true s.kind (.nothing : Extension K) = .ok (.none, []) := by
    simp [checkBend, plain]
  exact h.place alive nonempty rfl presence width check

theorem Grown.rebuilt {s : Spline K} (h : s.Grown) {c : Curve K} (hb : s.build = .ok c) :
    Grown { s with curve := some c } := by
  have hs := h.finalize
  rwa [finalize_of_build hb] at hs

/-- What holds of new splines, and is not lost by accepted control points, a curve of the current
ones, or the other operations, holds of all splines that operations lead to. -/
theorem Grown.induct {P : Spline K → Prop} (empty : ∀ kind config, P (.empty kind config))
    (place : ∀ {s : Spline K} {clamp p v e bend events}, P s → s.destroyed = false → v ≠ [] →
      e.isText = false → checkPresence s.kind e = .ok () → (s.terms ≠ 0 → v.length = s.terms) →
      checkBend clamp s.kind e = .ok (bend, events) → P (s.place p v bend))
    (rebuilt : ∀ {s : Spline K} {c}, P s → s.build = .ok c → P { s with curve := some c })
    (invalidate : ∀ {s : Spline K}, P s → P s.invalidate)
    (owners : ∀ {s : Spline K} n, P s → P { s with owners := n })
    (teardown : ∀ {s : Spline K}, P s → P s.teardown)
    (duplicate : ∀ {s : Spline K} config, P s → P (s.duplicate config)) {s : Spline K}
    (h : s.Grown) : P s := by
  induction h with
  | empty kind config => exact empty kind config
  | @insert s clamp p v e _ nonempty numeric ih =>
    rcases s.insert_cases clamp (.ok p) (.ok v) e with
      ⟨f, hf⟩ | ⟨p, v, bend, events, ha, he, ⟨⟩, ⟨⟩, hw, hb, hr⟩
    · rw [hf]
      exact ih
    · rw [hr]
      exact place ih (checkAlive_eq_ok.1 ha) nonempty numeric he (checkWidth_eq_ok.1 hw) hb
  | @finalize s _ ih =>
    rcases s.finalize_cases with ⟨f, -, hf⟩ | ⟨c, hb, hs⟩
    · rw [hf]
      exact ih
    · rw [hs]
      exact rebuilt ih hb
  | invalidate _ ih => exact invalidate ih
  | owners n _ ih => exact owners n ih
  | teardown _ ih => exact teardown ih
  | duplicate config _ ih => exact duplicate config ih

/-- The curve of a spline is the one of its control points, and their values have one width. -/
theorem Grown.coherent {s : Spline K} (h : s.Grown) : s.Coherent := by
  refine h.induct ?empty ?place ?rebuilt ?invalidate ?owners ?teardown ?duplicate
  case empty => exact fun kind config => coherent_of_empty rfl rfl
  case place => exact fun ih _ nonempty _ _ width _ => ⟨width_place ih.width nonempty width, nofun⟩
  case rebuilt => exact fun ih hb => ih.rebuilt hb
  case invalidate => exact fun ih => ih.stale rfl rfl
  case owners => exact fun n ih => ih.owners n
  case teardown => exact fun _ => coherent_of_empty rfl rfl
  case duplicate => exact fun config ih => ih.stale rfl rfl

/-! ## What can be read -/

theorem isFor_of_checkBend {clamp : Bool} {kind : Kind} {e : Extension K} {b : Bend K}
    {events : List (Event K)} (h : checkBend clamp kind e = .ok (b, events))
    (he : e.isText = false) : b.IsFor kind := by
  rcases checkBend_eq_ok h with ⟨ht, rfl, -⟩ | ⟨ht, hpair, -⟩ | ⟨⟨hnone, htcb⟩, c, hc, hs⟩
  · exact ht
  · obtain ⟨incoming, outgoing, -, -, -, rfl⟩ := checkPair_eq_ok hpair
    exact ht
  · have htag : kind.tag = .globalShape ∨ kind.tag = .perPointShape := by
      cases htag : kind.tag with
      | none => exact absurd htag hnone
      | tcb => exact absurd htag htcb
      | globalShape => exact .inl rfl
      | perPointShape => exact .inr rfl
    rcases (checkShape_eq_ok hs).2 with ⟨-, rfl, -⟩ | ⟨-, -, rfl, -⟩
    · cases e <;> cases hc
      · exact htag
      · cases he
    · exact htag

/-- All extension data that is kept can be read. -/
structure Legible (s : Spline K) : Prop where
  points : ∀ a ∈ s.store.contents, a.bend.IsFor s.kind
  shared : s.shared.isText = false

omit [Scalar K] in
theorem Legible.congr {s t : Spline K} (h : s.Legible) (hk : t.kind = s.kind)
    (hs : t.store = s.store) (hg : t.shared = s.shared) : t.Legible where
  points := by rw [hs, hk]; exact h.points
  shared := by rw [hg]; exact h.shared

omit [Scalar K] in
theorem Legible.isNumeric {s : Spline K} (h : s.Legible) : s.IsNumeric := by
  intro i
  unfold hasText
  split
  · exact h.shared
  · cases ha : s.store.contents[i]? with
    | none => rfl
    | some a => exact (h.points a (List.mem_of_getElem? ha)).isText
  · rfl

theorem Legible.place {s : Spline K} (h : s.Legible) {clamp : Bool} {p : K} {v : List K}
    {e : Extension K} {bend : Bend K} {events : List (Event K)}
    (check : checkBend clamp s.kind e = .ok (bend, events)) (numeric : e.isText = false) :
    (s.place p v bend).Legible where
  points a ha := by
    rcases mem_contents_place.1 ha with rfl | ha
    · exact isFor_of_checkBend check numeric
    · exact h.points a ha
  shared := by
    show (if s.kind.tag == .globalShape then bend else s.shared).isText = false
    split
    · exact (isFor_of_checkBend check numeric).isText
    · exact h.shared

omit [Scalar K] in
theorem legible_of_empty {s : Spline K} (hs : s.store = .empty) (hshared : s.shared = .none) :
    s.Legible where
  points a ha := by rw [hs] at ha; cases ha
  shared := by rw [hshared]; rfl

theorem Grown.legible {s : Spline K} (h : s.Grown) : s.Legible := by
  refine h.induct ?empty ?place ?rebuilt ?invalidate ?owners ?teardown ?duplicate
  case empty => exact fun kind config => legible_of_empty rfl rfl
  case place => exact fun ih _ _ numeric _ _ check => ih.place check numeric
  case rebuilt => exact fun ih _ => ⟨ih.points, ih.shared⟩
  case invalidate => exact fun ih => ⟨ih.points, ih.shared⟩
  case owners => exact fun _ ih => ⟨ih.points, ih.shared⟩
  case teardown => exact fun _ => legible_of_empty rfl rfl
  case duplicate => exact fun _ ih => ⟨ih.points, ih.shared⟩

/-- A spline of which all can be read gives what its curve gives. -/
theorem Legible.get_of_build {s : Spline K} (h : s.Legible) {c : Curve K} (hb : s.build = .ok c)
    (config : Config) (t : K) : get config { s with curve := some c } (.ok t) =
      .ok (c.eval (config.isOn .extrapolate) t) :=
  (Spline.get_of_build hb config t).trans (read_of_isNumeric h.isNumeric config c t)

theorem Legible.get_eq {s : Spline K} (h : s.Legible) (hs : s.Coherent) {c : Curve K}
    (hc : s.curve = some c) (config : Config) (t : K) :
    s.get config (.ok t) = .ok (c.eval (config.isOn .extrapolate) t) :=
  (hs.get_eq hc config t).trans (read_of_isNumeric h.isNumeric config c t)

/-- A finalized spline answers at every parameter. -/
theorem Grown.get_eq {s : Spline K} (h : s.Grown) {c : Curve K} (hc : s.curve = some c)
    (config : Config) (t : K) :
    s.get config (.ok t) = .ok (c.eval (config.isOn .extrapolate) t) :=
  h.legible.get_eq h.coherent hc config t

end Generic

end Spline

end CurveKit
