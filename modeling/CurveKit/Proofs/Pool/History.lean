import CurveKit.Proofs.Pool.Coherent
import CurveKit.Proofs.Pool.Configs
import CurveKit.Proofs.Pool.Owners
import CurveKit.Proofs.Spline.Grown
import CurveKit.Proofs.Spline.Points

/-!
# Splines do not remember how they were made

What callers have handed over for the control points of a spline is noted along the
calls; a copy takes over the notes of the spline that was copied. As long as nobody
edits its configuration, a live spline keeps exactly these control points. So two
splines of one kind, in one run or in two, are evaluated alike if they were handed
the same control points in whatever order.

Results:
* `noted_call`, `noted_after`: what holds of a spline and what was noted for it, step by step.
* `noted_call_free`, `noted_after_free`: the same where configurations have no part in it.
* `recorded_after`: a live spline goes back to what was noted for it.
* `evaluate_eq_of_perm`: the order of the control points does not matter for evaluating.
-/
namespace CurveKit.Pool

open Spline (Records Coherent)

/-! ## What was handed over -/

/-- The control points that a call adds to spline `j`, none or one. -/
def Call.adds (p : Pool Float) (j : SplineId) : Call → List Insertion
  | .spline i d =>
    if i = j then (p.splines[i]?.bind fun s => s.accepted (p.config s.config) d).toList else []
  | _ => []

/-- What is noted for spline `j` after a call, if `notes` is what was noted for all splines. -/
def record (p : Pool Float) (c : Call) (notes : SplineId → List Insertion) (j : SplineId) :
    List Insertion :=
  if c.makes p j then (c.copied p).elim [] notes else notes j ++ c.adds p j

/-- All that was handed over for the control points of spline `j`, in the order in which it
came. -/
def history (cs : List Call) : SplineId → List Insertion := fresh.follow record (fun _ => []) cs

/-- Whether edits of its configuration are noted for spline `j` after a call; a copy takes over
the notes of the spline that was copied. -/
def noteEdits (p : Pool Float) (c : Call) (notes : SplineId → Bool) (j : SplineId) : Bool :=
  if c.makes p j then (c.copied p).elim false notes else notes j || c.touches p j

/-- Has anybody edited the configuration of spline `j`, or, before it was copied, that of a spline
that it is a copy of? -/
def edited (cs : List Call) : SplineId → Bool := fresh.follow noteEdits (fun _ => false) cs

/-- What is true of a spline with its configuration and what was handed over to it: it holds of a
new spline, a call adds what it was handed over, and only the kind and the control points matter. -/
structure Ledger (R : Config → List Insertion → Spline Float → Prop) : Prop where
  empty : ∀ config kind id, R config [] (.empty kind id)
  call : ∀ config log s d, R config log s →
    R config (log ++ (s.accepted config d).toList) (s.call config d).state
  congr : ∀ config log s t, t.kind = s.kind → t.store = s.store →
    t.shared = s.shared → R config log s → R config log t

/-- A live spline whose configuration was not edited goes back to what was noted for it. -/
def Noted (R : Config → List Insertion → Spline Float → Prop) (p : Pool Float)
    (notes : SplineId → List Insertion) (edits : SplineId → Bool) : Prop :=
  ∀ (j : SplineId) s, p.splines[j]? = some s → s.destroyed = false → edits j = false →
    R (p.config s.config) (notes j) s

section Steps

variable {p : Pool Float} {c : Call} {j : SplineId} {s t : Spline Float}
  {notes : SplineId → List Insertion} {edits : SplineId → Bool}
  {R : Config → List Insertion → Spline Float → Prop}

theorem adds_eq_nil (h : ∀ d, c ≠ .spline j d) : c.adds p j = [] := by
  cases c with
  | spline i d => exact if_neg fun he => h d (by rw [he])
  | _ => rfl

theorem noted_effect (hR : Ledger R) (hs : p.splines[j]? = some s) (e : Effect p c j s t)
    (h : s.destroyed = false → R (p.config s.config) (notes j) s) (ht : t.destroyed = false) :
    R (p.config s.config) (notes j ++ c.adds p j) t := by
  cases e with
  | called d hc =>
    subst hc
    have ha : s.destroyed = false := by
      rw [← (s.change_call (p.config s.config) d).same.2.2.2]
      exact ht
    have hadds : (Call.spline j d).adds p j = (s.accepted (p.config s.config) d).toList := by
      simp [Call.adds, hs]
    rw [hadds]
    exact hR.call _ _ _ d (h ha)
  | acquired hc ha _ =>
    rw [adds_eq_nil (by rintro d rfl; cases hc), List.append_nil]
    exact hR.congr _ _ s _ rfl rfl rfl (h ha)
  | released hc ha _ _ =>
    rw [adds_eq_nil (by rintro d rfl; cases hc), List.append_nil]
    exact hR.congr _ _ s _ rfl rfl rfl (h ha)
  | ended _ _ _ _ => cases ht
  | refused _ hd _ => rw [hd] at ht; cases ht
  | destroyed _ _ => cases ht
  | destroyedAgain _ hd => rw [hd] at ht; cases ht
  | untouched hc _ _ _ =>
    rw [adds_eq_nil hc, List.append_nil]
    exact h ht

/-- A new spline goes back to nothing, and a copy to what was noted for the spline that it is a copy
of. -/
theorem noted_made {new : List Config} (hR : Ledger R) (e : Made p c t new) (config : Config)
    (h : ∀ i s, c.copied p = some i → p.splines[i]? = some s → s.destroyed = false →
      t.config = p.configs.length → new = [p.config s.config] → R config (notes i) s) :
    R config ((c.copied p).elim [] notes) t := by
  cases e with
  | made hk =>
    subst hk
    exact hR.empty _ _ _
  | @created kind own hk =>
    subst hk
    exact hR.congr _ _ (.empty kind p.default) _ rfl rfl rfl (hR.empty _ _ _)
  | @copied i s hk source alive =>
    have hsame := h i s hk source alive rfl rfl
    rw [hk]
    exact hR.congr _ _ s _ rfl rfl rfl hsame

/-- **One call.** A live spline goes back to what was noted for it, also after the call. -/
theorem noted_call (hR : Ledger R) (hw : Wired p) (h : Noted R p notes edits) :
    Noted R (p.call c).state (record p c notes) (noteEdits p c edits) := by
  intro j t ht halive hedits
  unfold record
  unfold noteEdits at hedits
  cases hs : p.splines[j]? with
  | some s =>
    obtain ⟨u, hu, e⟩ := effect_call c hs
    rw [hu] at ht
    cases ht
    have hm : c.makes p j = false := makes_of_some hs
    simp only [hm, Bool.false_eq_true, if_false, Bool.or_eq_false_iff] at hedits
    rw [hm, config_of_effect e, config_call hw hs hedits.2]
    exact noted_effect hR hs e (fun ha => h j s hs ha hedits.1) halive
  | none =>
    have hm : c.makes p j = true := makes_of_new hs ht
    obtain ⟨-, -, new, e, hn⟩ := p.made_call hs ht
    rw [hm, if_pos rfl] at hedits ⊢
    refine noted_made hR e _ fun i s hk source alive ht hnew => ?_
    rw [hk] at hedits
    rw [hnew] at hn
    rw [ht, config_copied hn]
    exact h i s source alive hedits

/-- The same where the configuration has no part in it, so that it may be edited. -/
theorem noted_call_free {R : List Insertion → Spline Float → Prop} (hR : Ledger fun _ => R)
    (h : ∀ (j : SplineId) s, p.splines[j]? = some s → s.destroyed = false → R (notes j) s)
    (ht : (p.call c).state.splines[j]? = some t) (halive : t.destroyed = false) :
    R (record p c notes j) t := by
  unfold record
  cases hs : p.splines[j]? with
  | some s =>
    obtain ⟨u, hu, e⟩ := effect_call c hs
    rw [hu] at ht
    cases ht
    rw [makes_of_some hs]
    exact noted_effect hR hs e (h j s hs) halive
  | none =>
    obtain ⟨-, -, new, e, -⟩ := p.made_call hs ht
    rw [makes_of_new hs ht, if_pos rfl]
    exact noted_made hR e .builtin fun i s _ source alive _ _ => h i s source alive

end Steps

/-- **Runs.** After any calls a live spline whose configuration was not edited goes back to what
was noted for it. -/
theorem noted_after {R : Config → List Insertion → Spline Float → Prop} (hR : Ledger R)
    (cs : List Call) : Noted R (fresh.after cs) (history cs) (edited cs) := by
  induction cs using List.reverseRecOn with
  | nil => intro j s h; cases h
  | append_singleton cs c ih =>
    rw [history, edited, follow_concat, follow_concat, after_append]
    exact noted_call hR (wired_after cs) ih

theorem history_concat (cs : List Call) (c : Call) (j : SplineId) :
    history (cs ++ [c]) j = record (fresh.after cs) c (history cs) j :=
  congrFun (follow_concat record fresh _ cs c) j

/-- The same for every live spline, where the configuration has no part in it. -/
theorem noted_after_free {R : List Insertion → Spline Float → Prop} (hR : Ledger fun _ => R)
    (cs : List Call) : ∀ (j : SplineId) s, (fresh.after cs).splines[j]? = some s →
      s.destroyed = false → R (history cs j) s := by
  induction cs using List.reverseRecOn with
  | nil => intro j s h; cases h
  | append_singleton cs c ih =>
    intro j s hs ha
    rw [after_append] at hs
    rw [history_concat]
    exact noted_call_free hR ih hs ha

theorem edited_eq_false {cs : List Call} (hc : ∀ c ∈ cs, c.edits = false) (j : SplineId) :
    edited cs j = false := by
  induction cs using List.reverseRecOn generalizing j with
  | nil => rfl
  | append_singleton cs c ih =>
    have ih' : ∀ j, edited cs j = false := ih fun d hd => hc d (by simp [hd])
    have htouch := touches_of_not_edits (hc c (by simp)) (fresh.after cs) j
    rw [edited, follow_concat, noteEdits]
    split
    · cases c.copied (fresh.after cs) with
      | none => rfl
      | some i => exact ih' i
    · rw [htouch, Bool.or_false]
      exact ih' j

/-- What a spline goes back to is a matter of its control points. -/
theorem records_ledger :
    Ledger fun config log s => s.Records (config.isOn .clampShapes) log where
  empty _ kind id := Spline.records_empty _ kind id
  call _ _ _ d h := Spline.records_call h d
  congr _ _ _ _ hk hs hg h := h.congr hk hs hg

/-- A live spline goes back to what was noted for it. -/
def Recorded (p : Pool Float) (notes : SplineId → List Insertion) : Prop :=
  ∀ (j : SplineId) s, p.splines[j]? = some s → s.destroyed = false →
    s.Records ((p.config s.config).isOn .clampShapes) (notes j)

/-- After any calls without edits, a live spline goes back to what was noted for it. -/
theorem recorded_after {cs : List Call} (hc : ∀ c ∈ cs, c.edits = false) :
    Recorded (fresh.after cs) (history cs) :=
  fun j s hs ha => noted_after records_ledger cs j s hs ha (edited_eq_false hc j)

theorem answer_evaluate (p : Pool Float) {i : SplineId} {s : Spline Float}
    (hs : p.splines[i]? = some s) (query : Datum) :
    (p.call (.spline i (.evaluate query))).answer =
      (s.evaluate (p.config s.config) query.parameter).answer.map fun v => .evaluation v.1 v.2 := by
  rw [call_spline p hs]
  rfl

/-- **History.** Take two runs without edits of configurations, and a live spline in each of
them. If the splines have one kind and configurations with the same switches, the one for lazy
finalizing among those that are on, were handed the same control points in whatever order, at
different parameters, and, where all points share a shape, the same shape last, then evaluating
them gives the same answer, value or fault. -/
theorem evaluate_eq_of_perm {cs ds : List Call} (hc : ∀ c ∈ cs, c.edits = false)
    (hd : ∀ d ∈ ds, d.edits = false) {i j : SplineId} {s t : Spline Float}
    (hs : (fresh.after cs).splines[i]? = some s) (ht : (fresh.after ds).splines[j]? = some t)
    (halive : s.destroyed = false) (halive' : t.destroyed = false) (hk : t.kind = s.kind)
    (hconfig : ∀ w, ((fresh.after ds).config t.config).isOn w =
      ((fresh.after cs).config s.config).isOn w)
    (hlazy : ((fresh.after cs).config s.config).isOn .lazyFinalize = true)
    (hperm : (history cs i).Perm (history ds j))
    (hdiffer : (history cs i).Pairwise fun x y => (x.parameter == y.parameter) = false)
    (hlast : s.kind = .basicX →
      (history cs i).getLast?.map (·.extension.shape?) =
        (history ds j).getLast?.map (·.extension.shape?)) (query : Datum) :
    ((fresh.after ds).call (.spline j (.evaluate query))).answer =
      ((fresh.after cs).call (.spline i (.evaluate query))).answer := by
  have rs := recorded_after hc i s hs halive
  have rt := recorded_after hd j t ht halive'
  rw [hconfig] at rt
  have cohs : s.Coherent := invariant_after Spline.coherent_invariant cs i s hs
  have coht : t.Coherent := invariant_after Spline.coherent_invariant ds j t ht
  have hstore : t.store = s.store := Spline.store_eq_of_records rs rt hk hperm hdiffer
  have hshape : t.shared = s.shared := by
    refine Spline.shared_eq_of_records rs rt hk fun htag => hlast ?_
    cases hkind : s.kind <;> rw [hkind] at htag <;> first | rfl | cases htag
  rw [answer_evaluate _ hs, answer_evaluate _ ht]
  rw [Spline.evaluate_congr cohs coht hlazy hconfig hk hstore hshape (halive'.trans halive.symm)]

/-- A basic X-spline, and a copy of one that got the first points in another order, was asked in
between, and refused a point; the shape that came last is the same. -/
theorem evaluate_eq_of_perm_copy :
    let a : Call := .spline 0 (.insert (.float 0.0) (.float 1.0) (.ok (.shape 0.5)))
    let b : Call := .spline 0 (.insert (.float 1.0) (.float 3.0) (.ok (.shape 0.25)))
    let c (i : SplineId) : Call := .spline i (.insert (.float 2.0) (.float 2.0) (.ok (.shape 0.5)))
    let cs : List Call := [.create .basicX none, c 0, b, a]
    let ds : List Call := [.create .basicX none, a, .spline 0 (.evaluate (.float 0.5)), b,
      .spline 0 (.insert (.str "x") (.float 3.0) (.ok (.shape 0.0))), .spline 0 .finalize,
      .copy 0, c 1]
    ((fresh.after ds).call (.spline 1 (.evaluate (.float 0.5)))).answer =
      ((fresh.after cs).call (.spline 0 (.evaluate (.float 0.5)))).answer ∧
    ((fresh.after cs).call (.spline 0 (.evaluate (.float 0.5)))).answer.isOk = true := by
  intro a b c cs ds
  obtain ⟨s, hs⟩ : ∃ s, (fresh.after cs).splines[0]? = some s :=
    Option.isSome_iff_exists.1 (by decide +kernel)
  obtain ⟨t, ht⟩ : ∃ t, (fresh.after ds).splines[1]? = some t :=
    Option.isSome_iff_exists.1 (by decide +kernel)
  have fs : (fresh.after cs).splines[0]?.map (fun s => (s.destroyed, s.kind, s.config)) =
      some (false, .basicX, 0) := by decide +kernel
  have ft : (fresh.after ds).splines[1]?.map (fun t => (t.destroyed, t.kind, t.config)) =
      some (false, .basicX, 1) := by decide +kernel
  simp only [hs, ht, Option.map_some, Option.some.injEq, Prod.mk.injEq] at fs ft
  obtain ⟨sd, sk, sc⟩ := fs
  obtain ⟨td, tk, tc⟩ := ft
  refine ⟨evaluate_eq_of_perm (by decide) (by decide) hs ht sd td (tk.trans sk.symm) ?_ ?_
    (by decide +kernel) (by decide +kernel) (fun _ => by decide +kernel) _, by decide +kernel⟩
  · intro w
    rw [sc, tc]
    cases w
    · decide +kernel
    · decide +kernel
    · decide +kernel
  · rw [sc]
    decide +kernel

end CurveKit.Pool
