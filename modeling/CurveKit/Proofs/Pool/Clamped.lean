import CurveKit.Proofs.Pool.Arranged
import CurveKit.Proofs.Pool.Destroyed
import CurveKit.Proofs.Spline.Shapes

/-!
# No shape is moved silently

Callers add control points with shapes to X-splines, and may switch clamping on and off in
between. Whatever they do, all shapes that are kept are in range, and each is the nearest one
to what was handed over. The log warns of every accepted shape that was moved, once, and of
nothing else.

Results:
* `unclamped_call`: which calls leave no warnings about shapes.
* `clamped_log`: all warnings about shapes along a run.
* `shapes_after`: the shapes of an X-spline after any calls, and those that come next.
-/
namespace CurveKit.Pool

open Spline (KeepsShapes Takes Gone)

/-! ## The log -/

/-- All that calls leave in the log. -/
def log (cs : List Call) : List (Event Float) :=
  fresh.follow (fun p c events => events ++ (p.call c).events) [] cs

/-- The warnings about shapes that a call is worth: those of the control point that it adds. -/
def Call.warnings (p : Pool Float) : Call → List (Event Float)
  | .spline i d => (p.splines[i]?).elim [] fun s =>
    (s.accepted (p.config s.config) d).toList.flatMap (Insertion.warnings s.kind)
  | _ => []

/-- The warnings about shapes that calls are worth, in their order. -/
def warnings (cs : List Call) : List (Event Float) :=
  fresh.follow (fun p c events => events ++ c.warnings p) [] cs

section Logs

variable {p : Pool Float} {c : Call}

theorem logs_on {α : Type} {q : Event Float → Prop} (i : SplineId)
    {operation : Config → Spline Float → Run Float (Spline Float) α}
    (h : ∀ config s, (operation config s).Logs q) : (p.on i operation).Logs q := by
  unfold on
  split
  · exact Run.logs_fail p _
  · exact h _ _

theorem unclamped_acquire (i : SplineId) : (p.acquire i).Logs (·.isClamped = false) := by
  refine logs_on i fun config s => ?_
  split
  · exact Run.logs_fail s _
  · exact Run.logs_done _ _

theorem unclamped_release (p : Pool Float) (i : SplineId) :
    (p.release i).Logs (·.isClamped = false) := by
  refine logs_on i fun config s => ?_
  split
  · exact Run.logs_fail s _
  · split
    · exact Run.logs_done _ _
    · exact List.forall_mem_singleton.2 rfl

theorem unclamped_openHandle (target : Option SplineId) (adopt : Bool) :
    (p.openHandle target adopt).Logs (·.isClamped = false) := by
  refine Run.logs_andThen ?_ fun _ _ => Run.logs_done _ _
  split
  · split
    · exact Run.logs_done _ _
    · exact unclamped_acquire _
  · exact Run.logs_done _ _

theorem unclamped_clone (i : SplineId) : (p.clone i).Logs (·.isClamped = false) := by
  rcases p.clone_eq i with ⟨f, h⟩ | ⟨s, -, -, h⟩
  · rw [h]; exact Run.logs_fail p f
  · rw [h]; exact List.forall_mem_singleton.2 rfl

/-- Only calls on a spline leave warnings about shapes. -/
theorem unclamped_call (hc : ∀ i d, c ≠ .spline i d) : (p.call c).Logs (·.isClamped = false) := by
  cases c with
  | make kind config =>
    refine Run.logs_map ?_ _
    rcases p.make_eq kind config with ⟨f, h⟩ | h
    · rw [h]; exact Run.logs_fail p f
    · rw [h]; exact List.forall_mem_singleton.2 rfl
  | create kind config =>
    refine Run.logs_map ?_ _
    rcases p.create_eq kind config with ⟨f, h⟩ | h
    · rw [h]; exact Run.logs_fail p f
    · rw [h]; exact List.forall_mem_cons.2 ⟨rfl, List.forall_mem_singleton.2 rfl⟩
  | copy i => exact Run.logs_map (unclamped_clone i) _
  | spline i d => exact absurd rfl (hc i d)
  | acquire i => exact Run.logs_map (unclamped_acquire i) _
  | release i => exact Run.logs_map (p.unclamped_release i) _
  | destroy i =>
    refine Run.logs_map (logs_on i fun config s => ?_) _
    split
    · exact List.forall_mem_singleton.2 rfl
    · refine List.forall_mem_append.2 ⟨?_, List.forall_mem_singleton.2 rfl⟩
      split
      · exact List.forall_mem_singleton.2 rfl
      · exact nofun
  | openHandle target adopt => exact Run.logs_map (unclamped_openHandle target adopt) _
  | share h =>
    exact Run.logs_map (Run.logs_andThen (Run.logs_ask p _) fun _ _ => unclamped_openHandle _ _) _
  | copyHandle h =>
    refine Run.logs_map (Run.logs_andThen (Run.logs_ask p _) fun i _ => ?_) _
    exact Run.logs_andThen (unclamped_clone i) fun _ _ => unclamped_openHandle _ _
  | close h =>
    refine Run.logs_map ?_ _
    unfold close
    split
    · exact Run.logs_fail p _
    · exact Run.logs_done _ _
    · exact unclamped_release _ _
  | setDefault config =>
    refine Run.logs_map ?_ _
    unfold setDefault
    dsimp only
    split
    · exact Run.logs_fail p _
    · exact List.forall_mem_singleton.2 rfl
  | editConfig i key d =>
    simp only [call]
    split
    · exact Run.logs_fail p _
    · exact Run.logs_done _ _

/-- **One call.** A call leaves the warnings about shapes that it is worth. -/
theorem clamped_events (p : Pool Float) (c : Call) :
    (p.call c).events.filter Event.isClamped = c.warnings p := by
  by_cases hc : ∃ i d, c = .spline i d
  · obtain ⟨i, d, rfl⟩ := hc
    cases hs : p.splines[i]? with
    | none =>
      rw [call, on_of_none p hs, Call.warnings, hs]
      rfl
    | some s =>
      rw [call_spline p hs, Call.warnings, hs]
      exact s.clamped_call (p.config s.config) d
  · have hne : ∀ i d, c ≠ .spline i d := fun i d h => hc ⟨i, d, h⟩
    have hworth : c.warnings p = [] := by
      cases c with
      | spline i d => exact absurd rfl (hne i d)
      | _ => rfl
    rw [hworth]
    exact List.filter_eq_nil_iff.2 fun e he => by simp [unclamped_call hne e he]

/-- **Runs.** The warnings about shapes in the log are those that the calls are worth. -/
theorem clamped_log (cs : List Call) : (log cs).filter Event.isClamped = warnings cs := by
  induction cs using List.reverseRecOn with
  | nil => rfl
  | append_singleton cs c ih =>
    rw [log, warnings, follow_concat, follow_concat, List.filter_append, clamped_events]
    exact congrArg (· ++ c.warnings (fresh.after cs)) ih

end Logs

/-! ## The shapes -/

theorem shapes_ledger :
    Ledger fun _ log s => ∀ f, s.kind.family? = some f → KeepsShapes log s where
  empty _ kind id _ _ := Spline.keepsShapes_empty kind id
  call config _ s d h f hf := by
    have hkind : (s.call config d).state.kind = s.kind := (Spline.change_call config s d).same.1
    rw [hkind] at hf
    exact Spline.shapes_call hf (h f hf) d
  congr _ _ s t hk hs hg h f hf := (h f (hk ▸ hf)).congr hk hs hg

/-- What an X-spline shows of its shapes: all are in range, and while it is live they are the
nearest ones to what it was handed over and accepted. -/
structure ShowsShapes (handed : List Insertion) (s : Spline Float) : Prop where
  holds : ∀ a ∈ s.store.contents, ∃ g, (a.bend = .shape g ∨ a.bend = .text g) ∧ s.kind.Holds g
  shared : s.kind.Holds s.globalShape
  kept : s.destroyed = false →
    s.store.contents.map (·.bend) = (arranged handed).map (Insertion.kept s.kind)
  nearest : s.destroyed = false → s.bends = extensionData s.kind handed

/-- How spline `j` answers a call that adds a control point: an accepted shape is kept, and a
warning tells if it was moved; a refused control point leaves the pool and the log alone. -/
structure TakesShapes (p : Pool Float) (j : SplineId) (s : Spline Float) (c : Call)
    (extension : Except (Fault Float) (Extension Float)) : Prop where
  accepted : ∀ a, (p.call c).answer = .ok a → ∃ e given kept i t,
    extension = .ok e ∧ e.shape? = some (.ok given) ∧ a = .index i ∧
    Takes ((p.config s.config).isOn .clampShapes) s.kind given kept (p.call c).events ∧
    (p.call c).state.splines[j]? = some t ∧
    t.store.contents[i]?.map (·.bend) = some kept ∧
    (s.kind.tag = .globalShape → t.shared = kept)
  refused : ∀ f, (p.call c).answer = .error f → (p.call c).events = [] ∧ (p.call c).state = p

section Shapes

variable {cs : List Call} {j : SplineId} {s : Spline Float} {f : Scheme.Family}

theorem showsShapes_after (hs : (fresh.after cs).splines[j]? = some s)
    (hf : s.kind.family? = some f) : ShowsShapes (history cs j) s := by
  cases hd : s.destroyed with
  | false =>
    have h := noted_after_free shapes_ledger cs j s hs hd f hf
    exact ⟨fun _ => h.holds hf, h.holds_shared hf, fun _ => h.kept_eq, fun _ => h.bends_eq⟩
  | true =>
    have h : s.Gone := gone_of_destroyed hs hd
    have hdead {q : Prop} (hn : s.destroyed = false) : q := nomatch hd.symm.trans hn
    refine ⟨fun a ha => ?_, ?_, hdead, hdead⟩
    · rw [h.store] at ha
      cases ha
    · have hempty : s.globalShape = (Spline.empty s.kind s.config : Spline Float).globalShape :=
        congrArg Bend.freedom h.shared
      rw [hempty]
      exact (Spline.keepsShapes_empty s.kind s.config).holds_shared hf

theorem takesShapes {p : Pool Float} (hs : p.splines[j]? = some s) (hf : s.kind.family? = some f)
    (parameter value : Datum) (extension : Except (Fault Float) (Extension Float)) :
    TakesShapes p j s (.spline j (.insert parameter value extension)) extension where
  accepted a ha := by
    rw [call_spline p hs] at ha ⊢
    obtain ⟨e, given, kept, i, he, hgiven, hi, htakes, hkept, hshared⟩ := Spline.takes_call hf ha
    have hj : j < p.splines.length := (List.getElem?_eq_some_iff.1 hs).1
    exact ⟨e, given, kept, i, _, he, hgiven, hi, htakes, List.getElem?_set_self hj, hkept, hshared⟩
  refused fault hfault := by
    rw [call_spline p hs] at hfault ⊢
    have hrun := Spline.call_insert_error (f := fault) hfault
    rw [hrun]
    refine ⟨rfl, ?_⟩
    show { p with splines := p.splines.set j s } = p
    rw [set_self hs]

/-- **Clamping.** Take an X-spline after any calls, edits of its configuration included. All its
shapes are in range, and they are the nearest ones to those that it was handed over and accepted.
A further shape that is accepted is kept as it is if it is in range, and as the nearest bound if it
is not, which needs clamping; a warning tells of the latter and of nothing else. A refused control
point leaves no trace, not even in the log. So the warnings about shapes in the log of all calls are
those that the accepted control points are worth. -/
theorem shapes_after (hs : (fresh.after cs).splines[j]? = some s) (hf : s.kind.family? = some f) :
    ShowsShapes (history cs j) s ∧
      (∀ parameter value extension, TakesShapes (fresh.after cs) j s
        (.spline j (.insert parameter value extension)) extension) ∧
      (log cs).filter Event.isClamped = warnings cs :=
  ⟨showsShapes_after hs hf, takesShapes hs hf, clamped_log cs⟩

/-- A general X-spline was handed over a shape that is too large, was then kept from clamping, and
refused a negative shape and a parameter that is no number. Clamping is on again. -/
theorem shapes_after_switched :
    let point (p : Datum) (shape : Float) : Call :=
      .spline 0 (.insert p (.list [.float 0.0]) (.ok (.shape shape)))
    let clamping (b : Bool) : Call := .editConfig 0 "clamp_shapes" (.bool b)
    let cs : List Call := [.create .generalX none, point (.float 0.0) 2.5, clamping false,
      point (.float 1.0) (-0.5), point (.float 2.0) 0.5, clamping true, point (.str "x") 3.0]
    ∃ s, (fresh.after cs).splines[0]? = some s ∧ ShowsShapes (history cs 0) s ∧
      s.store.contents.map (·.bend) = [.shape 1.0, .shape 0.5] ∧
      ((log cs).filter Event.isClamped).map Event.line =
        ["scene_splines.core.xspline - WARNING - general_x_spline: shape 2.5 clamped to 1.0"] ∧
      TakesShapes (fresh.after cs) 0 s (point (.float 3.0) (-7.0)) (.ok (.shape (-7.0))) := by
  intro point clamping cs
  obtain ⟨s, hs⟩ : ∃ s, (fresh.after cs).splines[0]? = some s :=
    Option.isSome_iff_exists.1 (by decide +kernel)
  have fs : (fresh.after cs).splines[0]?.map (fun s => (s.kind, s.store.contents.map (·.bend))) =
      some (.generalX, [.shape 1.0, .shape 0.5]) := by decide +kernel
  simp only [hs, Option.map_some, Option.some.injEq, Prod.mk.injEq] at fs
  obtain ⟨hshows, htakes, hlog⟩ := shapes_after (f := .general) hs (by rw [fs.1]; rfl)
  refine ⟨s, hs, hshows, fs.2, ?_, htakes _ _ _⟩
  rw [hlog]
  decide +kernel

end Shapes

end CurveKit.Pool
