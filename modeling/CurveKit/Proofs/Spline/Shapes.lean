import CurveKit.Proofs.Spline.Arranged
import CurveKit.Proofs.Spline.Events

/-!
# Shapes in range

An X-spline keeps a shape as it came if it is in the range of the kind, and else the nearest
bound; a warning tells of the latter. It makes no difference to what is kept whether shapes are
clamped, only to what is accepted.

Results:
* `holds_keep`: what is kept is in range.
* `checkBend_shape`: what is kept of a shape, and what is logged.
* `shapes_call`: whatever the configuration is, a call keeps the nearest shapes.
* `takes_call`, `clamped_call`: what an accepted shape leaves, and which warnings a call leaves.
-/
namespace CurveKit

namespace Kind

open Binary64

variable {kind : Kind} {b : Bend Float}

/-- The warning about a shape that is not kept as it is. -/
def warnings (kind : Kind) (b : Bend Float) : List (Event Float) :=
  if kind.keep b = b then [] else [.clamped kind b.freedom (kind.keep b).freedom]

theorem holds_iff_rank {g : Float} (hg : g.isFinite = true) : kind.Holds g ↔
    rank kind.shapeLow ≤ rank g ∧ rank g ≤ rank shapeHigh := by
  rw [Holds, le_iff_rank kind.isFinite_shapeLow hg, le_iff_rank hg isFinite_shapeHigh]

theorem rank_bounds (kind : Kind) : rank kind.shapeLow ≤ rank shapeHigh := by
  rw [← le_iff_rank kind.isFinite_shapeLow isFinite_shapeHigh]
  cases kind <;> decide +kernel

/-- What is kept is in range. -/
theorem holds_keep (kind : Kind) (hb : b.freedom.isFinite = true) :
    kind.Holds (kind.keep b).freedom := by
  unfold keep
  split
  · exact (holds_iff_rank kind.isFinite_shapeLow).2 ⟨le_refl _, kind.rank_bounds⟩
  · rename_i hlow
    split
    · exact (holds_iff_rank isFinite_shapeHigh).2 ⟨kind.rank_bounds, le_refl _⟩
    · rename_i hhigh
      exact (holds_iff hb).2 ⟨hlow, hhigh⟩

theorem keep_cases (kind : Kind) (b : Bend Float) :
    (∃ g, kind.keep b = .shape g) ∨ kind.keep b = b := by
  unfold keep
  split
  · exact .inl ⟨_, rfl⟩
  · split
    · exact .inl ⟨_, rfl⟩
    · exact .inr rfl

theorem keep_of_lt (h : b.freedom < kind.shapeLow) : kind.keep b = .shape kind.shapeLow := if_pos h

theorem keep_of_gt (hb : b.freedom.isFinite = true) (h : shapeHigh < b.freedom) :
    kind.keep b = .shape shapeHigh := by
  have hlow : ¬ b.freedom < kind.shapeLow := by
    rw [lt_iff_rank hb kind.isFinite_shapeLow, not_lt]
    exact kind.rank_bounds.trans ((lt_iff_rank isFinite_shapeHigh hb).1 h).le
  rw [keep, if_neg hlow, if_pos h]

theorem warnings_of_holds (hb : b.freedom.isFinite = true) (h : kind.Holds b.freedom) :
    kind.warnings b = [] := if_pos (keep_of_holds hb h)

theorem warnings_of_not_holds (hb : b.freedom.isFinite = true) (h : ¬ kind.Holds b.freedom) :
    kind.warnings b = [.clamped kind b.freedom (kind.boundFor b.freedom)] := by
  have hne : kind.keep b ≠ b := fun he => h (he ▸ kind.holds_keep hb)
  rw [warnings, if_neg hne, keep_of_not_holds hb h]
  rfl

end Kind

namespace Spline

variable {clamp : Bool} {kind : Kind} {f : Scheme.Family} {e : Extension Float} {b : Bend Float}
  {events : List (Event Float)}

/-- An X-spline accepts finite shapes; the nearest one in range is kept, with a warning if that is
another one; and without clamping it never is. -/
theorem checkBend_shape (hf : kind.family? = some f)
    (h : checkBend clamp kind e = .ok (b, events)) :
    ∃ given, e.shape? = some (.ok given) ∧ given.freedom.isFinite = true ∧ b = kind.keep given ∧
      events = kind.warnings given ∧ (clamp = false → kind.Holds given.freedom) := by
  obtain ⟨hnone, htcb⟩ := Kind.tag_of_family hf
  rcases checkBend_eq_ok h with ⟨ht, -, -⟩ | ⟨ht, -, -⟩ | ⟨-, given, hgiven, hs⟩
  · exact absurd ht hnone
  · exact absurd ht htcb
  · refine ⟨given, hgiven, (checkShape_eq_ok hs).1, keep_of_checkShape hs, ?_⟩
    obtain ⟨hfin, ⟨hin, -, rfl⟩ | ⟨hout, hc, -, rfl⟩⟩ := checkShape_eq_ok hs
    · exact ⟨(Kind.warnings_of_holds hfin hin).symm, fun _ => hin⟩
    · exact ⟨(Kind.warnings_of_not_holds hfin hout).symm, fun hn => nomatch hc.symm.trans hn⟩

theorem checkBend_silent (hf : kind.family? = none) (h : checkBend clamp kind e = .ok (b, events)) :
    events = [] := by
  rcases checkBend_eq_ok h with ⟨-, -, he⟩ | ⟨-, -, he⟩ | ⟨⟨hnone, htcb⟩, -⟩
  · exact he
  · exact he
  · rcases Kind.tag_of_no_family hf with ht | ht
    · exact absurd ht hnone
    · exact absurd ht htcb

end Spline

namespace Insertion

/-- What is kept of a control point. -/
def keptEntry (kind : Kind) (x : Insertion) : Entry Float (Knot Float) :=
  ⟨x.parameter, x.value, x.kept kind⟩

theorem kept_eq_keep {kind : Kind} {f : Scheme.Family} {x : Insertion} {b : Bend Float}
    (hf : kind.family? = some f) (h : x.extension.shape? = some (.ok b)) :
    x.kept kind = kind.keep b := by
  obtain ⟨hnone, htcb⟩ := Kind.tag_of_family hf
  unfold kept
  rw [h]
  cases ht : kind.tag with
  | none => exact absurd ht hnone
  | tcb => exact absurd ht htcb
  | globalShape => rfl
  | perPointShape => rfl

/-- The warnings that an accepted control point is worth; only those of X-splines are worth any. -/
def warnings (kind : Kind) (x : Insertion) : List (Event Float) :=
  match kind.family?, x.extension.shape? with
  | some _, some (.ok b) => kind.warnings b
  | _, _ => []

end Insertion

namespace Spline

/-- An X-spline keeps the accepted control points, sorted stably, with the nearest shapes. -/
structure KeepsShapes (log : List Insertion) (s : Spline Float) : Prop where
  arranges : s.store.Arranges (log.map (Insertion.keptEntry s.kind))
  shared : s.shared =
    if s.kind.tag = .globalShape then log.getLast?.elim .none (Insertion.kept s.kind) else .none
  given : ∀ x ∈ log, ∃ b, x.extension.shape? = some (.ok b) ∧ b.freedom.isFinite = true

section Shapes

variable {config : Config} {log : List Insertion} {s t : Spline Float} {f : Scheme.Family}

theorem keepsShapes_empty (kind : Kind) (id : ConfigId) : KeepsShapes [] (.empty kind id) where
  arranges := Store.arranges_empty
  shared := by split <;> rfl
  given := nofun

theorem KeepsShapes.congr (h : KeepsShapes log s) (hk : t.kind = s.kind) (hs : t.store = s.store)
    (hg : t.shared = s.shared) : KeepsShapes log t where
  arranges := by rw [hs, hk]; exact h.arranges
  shared := by rw [hg, hk]; exact h.shared
  given := h.given

theorem KeepsShapes.place (h : KeepsShapes log s) {x : Insertion}
    (hp : x.parameter.isFinite = true) {b : Bend Float} (hx : x.extension.shape? = some (.ok b))
    (hb : b.freedom.isFinite = true) :
    KeepsShapes (log ++ [x]) (s.place x.parameter x.value (x.kept s.kind)) where
  arranges := by
    rw [List.map_append]
    exact h.arranges.insert hp _
  shared := by
    rw [List.getLast?_append]
    by_cases ht : s.kind.tag = .globalShape
    · simp [Spline.place, ht]
    · simpa [Spline.place, ht] using h.shared
  given := by
    rw [List.forall_mem_append, List.forall_mem_singleton]
    exact ⟨h.given, b, hx, hb⟩

/-- **One call.** Whatever the configuration is, an X-spline keeps the nearest shapes. -/
theorem shapes_call (hf : s.kind.family? = some f) (h : KeepsShapes log s) (d : Call) :
    KeepsShapes (log ++ (s.accepted config d).toList) (s.call config d).state := by
  rcases call_cases config s d with ⟨hx, hr⟩ | ⟨x, hx, hadm, -, hst⟩
  · rw [hx, Option.toList_none, List.append_nil]
    exact h.congr (change_call config s d).same.1 hr.points.1 hr.points.2
  · obtain ⟨⟨b, events⟩, hb⟩ := hadm.extension
    obtain ⟨given, hgiven, hfin, -⟩ := checkBend_shape hf hb
    rw [hx, hst, hadm.bend_eq.1]
    exact h.place hadm.finite hgiven hfin

theorem KeepsShapes.holds_kept (h : KeepsShapes log s) (hf : s.kind.family? = some f)
    {x : Insertion} (hx : x ∈ log) : ∃ g, (x.kept s.kind = .shape g ∨ x.kept s.kind = .text g) ∧
      s.kind.Holds g := by
  obtain ⟨b, hb, hfin⟩ := h.given x hx
  have hholds := s.kind.holds_keep hfin
  rw [Insertion.kept_eq_keep hf hb]
  rcases s.kind.keep_cases b with ⟨g, hg⟩ | hself
  · rw [hg] at hholds ⊢
    exact ⟨g, .inl rfl, hholds⟩
  · rw [hself] at hholds ⊢
    rcases Extension.shape?_cases hb with ⟨g, rfl⟩ | ⟨g, rfl⟩
    · exact ⟨g, .inl rfl, hholds⟩
    · exact ⟨g, .inr rfl, hholds⟩

theorem KeepsShapes.holds (h : KeepsShapes log s) (hf : s.kind.family? = some f) {a : Knot Float}
    (ha : a ∈ s.store.contents) :
    ∃ g, (a.bend = .shape g ∨ a.bend = .text g) ∧ s.kind.Holds g := by
  obtain ⟨e, he, rfl⟩ := List.mem_map.1 ha
  obtain ⟨x, hx, rfl⟩ := List.mem_map.1 (h.arranges.mem_iff.1 he)
  exact h.holds_kept hf hx

/-- The shape that all points share is in range, too. -/
theorem KeepsShapes.holds_shared (h : KeepsShapes log s) (hf : s.kind.family? = some f) :
    s.kind.Holds s.globalShape := by
  have hzero : s.kind.Holds (0 : Float) := by
    unfold Kind.Holds
    cases s.kind <;> decide +kernel
  unfold globalShape
  rw [h.shared]
  split
  · cases hl : log.getLast? with
    | none => exact hzero
    | some x =>
      obtain ⟨g, hg | hg, hholds⟩ := h.holds_kept hf (List.mem_of_getLast? hl)
      · rwa [Option.elim_some, hg]
      · rwa [Option.elim_some, hg]
  · exact hzero

theorem KeepsShapes.kept_eq (h : KeepsShapes log s) :
    s.store.contents.map (·.bend) = (arranged log).map (Insertion.kept s.kind) := by
  rw [Store.contents, entries_of_arranges h.arranges fun _ => rfl, List.map_map, List.map_map]
  rfl

theorem KeepsShapes.bends_eq (h : KeepsShapes log s) : s.bends = extensionData s.kind log :=
  bends_eq_of_kept h.kept_eq fun ht => by rw [h.shared, if_pos ht]

end Shapes

/-! ## What is logged -/

/-- What is kept of a shape that is accepted, and what is logged about it. -/
structure Takes (clamp : Bool) (kind : Kind) (given kept : Bend Float)
    (events : List (Event Float)) : Prop where
  finite : given.freedom.isFinite = true
  holds : kind.Holds kept.freedom
  same : kind.Holds given.freedom → kept = given
  low : given.freedom < kind.shapeLow → kept = .shape kind.shapeLow
  high : Kind.shapeHigh < given.freedom → kept = .shape Kind.shapeHigh
  unclamped : clamp = false → kept = given
  warned : kept ≠ given → events = [.clamped kind given.freedom kept.freedom]
  silent : kept = given → events = []

theorem takes_keep {clamp : Bool} {kind : Kind} {given : Bend Float}
    (hg : given.freedom.isFinite = true) (hoff : clamp = false → kind.Holds given.freedom) :
    Takes clamp kind given (kind.keep given) (kind.warnings given) where
  finite := hg
  holds := kind.holds_keep hg
  same := Kind.keep_of_holds hg
  low := Kind.keep_of_lt
  high := Kind.keep_of_gt hg
  unclamped h := Kind.keep_of_holds hg (hoff h)
  warned h := by rw [Kind.warnings, if_neg h]
  silent h := by rw [Kind.warnings, if_pos h]

section Logged

variable {f : Scheme.Family} {config : Config} {s : Spline Float} {parameter value : Datum}
  {extension : Except (Fault Float) (Extension Float)}

/-- An accepted control point is noted, and its extension data decides what is logged. -/
theorem call_insert_logs {a : Answer}
    (h : (s.call config (.insert parameter value extension)).answer = .ok a) :
    ∃ x b events, extension = .ok x.extension ∧
      s.accepted config (.insert parameter value extension) = some x ∧
      checkBend (config.isOn .clampShapes) s.kind x.extension = .ok (b, events) ∧
      a = .index (s.store.place x.parameter) ∧
      s.call config (.insert parameter value extension) =
        ⟨.ok (.index (s.store.place x.parameter)), s.place x.parameter x.value b, events⟩ := by
  obtain ⟨e, p, v, b, events, rfl, hp, hv, hb, -, -, ha, hrun⟩ := call_insert_ok h
  exact ⟨⟨p, v, e⟩, b, events, rfl, by simp only [accepted, hp, hv, h], hb, ha, hrun⟩

/-- **One insertion.** An accepted shape is kept in range, and a warning tells if it was moved. -/
theorem takes_call (hf : s.kind.family? = some f) {a : Answer}
    (h : (s.call config (.insert parameter value extension)).answer = .ok a) :
    ∃ e given kept i, extension = .ok e ∧ e.shape? = some (.ok given) ∧ a = .index i ∧
      Takes (config.isOn .clampShapes) s.kind given kept
        (s.call config (.insert parameter value extension)).events ∧
      (s.call config (.insert parameter value extension)).state.store.contents[i]?.map (·.bend) =
        some kept ∧
      (s.kind.tag = .globalShape →
        (s.call config (.insert parameter value extension)).state.shared = kept) := by
  obtain ⟨x, b, events, he, -, hb, ha, hrun⟩ := call_insert_logs h
  obtain ⟨given, hgiven, hfin, rfl, rfl, hoff⟩ := checkBend_shape hf hb
  refine ⟨x.extension, given, s.kind.keep given, _, he, hgiven, ha, ?_, ?_, fun ht => ?_⟩
  · rw [hrun]
    exact takes_keep hfin hoff
  · have hle : s.store.place x.parameter ≤ s.store.contents.length := by
      rw [Store.length_contents]
      exact s.store.place_le_size _
    rw [hrun, Spline.place, Store.contents_insert, List.getElem?_insertIdx_self, if_pos hle]
    rfl
  · rw [hrun]
    simp [Spline.place, ht]

/-- **Warnings.** A call warns of the shapes that it moves, and of nothing else. -/
theorem clamped_call (config : Config) (s : Spline Float) (d : Call) :
    (s.call config d).events.filter Event.isClamped =
      (s.accepted config d).toList.flatMap (Insertion.warnings s.kind) := by
  by_cases hd : ∃ parameter value e, d = .insert parameter value e
  · obtain ⟨parameter, value, extension, rfl⟩ := hd
    cases ha : (s.call config (.insert parameter value extension)).answer with
    | error f =>
      rcases call_cases config s (.insert parameter value extension) with ⟨hx, -⟩ | ⟨x, -, -, h, -⟩
      · rw [call_insert_error ha, hx]
        rfl
      · rw [ha] at h
        cases h
    | ok a =>
      obtain ⟨x, b, events, -, hx, hb, -, hrun⟩ := call_insert_logs ha
      rw [hx, hrun, List.filter_eq_self.2 (logs_checkBend hb), Option.toList_some,
        List.flatMap_singleton, Insertion.warnings]
      cases hf : s.kind.family? with
      | none => exact checkBend_silent hf hb
      | some f =>
        obtain ⟨given, hgiven, -, -, hevents, -⟩ := checkBend_shape hf hb
        rw [hevents, hgiven]
  · have hne : ∀ parameter value e, d ≠ .insert parameter value e :=
      fun parameter value e he => hd ⟨_, _, _, he⟩
    have hnone : s.accepted config d = none := by
      cases d with
      | insert parameter value e => exact absurd rfl (hne parameter value e)
      | _ => rfl
    rw [hnone]
    exact List.filter_eq_nil_iff.2 fun e he => by
      simp [Event.not_isClamped_of_isRoutine (logs_call config s hne e he)]

end Logged

end Spline

end CurveKit
