import CurveKit.Proofs.Pool.Coherent

/-!
# Sessions are runs of calls

A session works on its pool through names, reads untyped data, and draws figures, but
all that it does to the pool are calls on it. So what holds along every run of calls
holds in every session.

Results:
* `reaches_perform`, `reaches_run`: every step, and so every session, is a run of calls.
-/
namespace CurveKit

/-! ## One pool from another -/

/-- Calls lead from one pool to another. -/
def Pool.Reaches (p q : Pool Float) : Prop := ∃ cs, q = p.after cs

namespace Pool

section Reaching

variable {p q r : Pool Float}

theorem reaches_refl (p : Pool Float) : p.Reaches p := ⟨[], rfl⟩

theorem reaches_call (p : Pool Float) (c : Call) : p.Reaches (p.call c).state := ⟨[c], rfl⟩

theorem Reaches.trans (h : p.Reaches q) (h' : q.Reaches r) : p.Reaches r := by
  obtain ⟨cs, rfl⟩ := h
  obtain ⟨ds, rfl⟩ := h'
  exact ⟨cs ++ ds, (after_append p cs ds).symm⟩

/-- An operation on one spline that leaves it alone, or leaves what a call leaves. -/
theorem reaches_on {α : Type} (p : Pool Float) (i : SplineId)
    {operation : Config → Spline Float → Run Float (Spline Float) α}
    (h : ∀ config s, (operation config s).state = s ∨
      ∃ d, (operation config s).state = (s.call config d).state) :
    p.Reaches (p.on i operation).state := by
  cases hs : p.splines[i]? with
  | none =>
    rw [on_of_none p hs]
    exact reaches_refl p
  | some s =>
    rw [on_of_some p hs]
    rcases h (p.config s.config) s with he | ⟨d, he⟩
    · refine ⟨[], ?_⟩
      dsimp only
      rw [he, set_self hs]
      rfl
    · refine ⟨[.spline i d], ?_⟩
      rw [after_cons, after_nil, call_spline p hs]
      dsimp only
      rw [he]

/-- Of two operations behind each other both leave what calls leave, or the second one is not
done. -/
theorem reaches_andThen {α β : Type} {run : Run Float (Pool Float) α}
    {next : α → Pool Float → Run Float (Pool Float) β} (h : p.Reaches run.state)
    (hn : ∀ a (q : Pool Float), q.Reaches (next a q).state) :
    p.Reaches (run.andThen next).state := by
  rcases run.state_andThen next with hr | ⟨a, -, hr⟩
  · rw [hr]; exact h
  · rw [hr]; exact h.trans (hn a _)

theorem reaches_within {α : Type} (h : HandleId)
    {operation : SplineId → Pool Float → Run Float (Pool Float) α}
    (ho : ∀ i (q : Pool Float), q.Reaches (operation i q).state) :
    p.Reaches (p.within h operation).state := by
  unfold Pool.within
  split
  · exact reaches_refl p
  · rename_i i _
    exact (ho i p).trans (reaches_call (operation i p).state (.close h))

end Reaching

end Pool

/-! ## Figures -/

namespace Figure

open Pool

theorem state_ofComponents (plotter : Plotter) (config : Config) (s : Spline Float)
    (samples margin title : Datum) :
    (ofComponents plotter config s samples margin title).state =
      (s.call config (.uniform samples margin)).state := by
  unfold ofComponents
  rw [Run.state_andThen_ask]
  rfl

theorem state_comparedLine (component samples margin label : Datum) (number : Nat)
    (config : Config) (s : Spline Float) :
    (comparedLine component samples margin label number config s).state = s ∨
      (comparedLine component samples margin label number config s).state =
        (s.call config (.uniform samples margin)).state := by
  unfold comparedLine
  rcases Run.state_andThen (Run.ask s (hasComponent component s.terms)) _ with h | ⟨has, -, h⟩
  · left; rw [h]; rfl
  · rw [h]
    cases has with
    | false => left; rfl
    | true =>
      right
      simp only [Bool.not_true, Bool.false_eq_true, if_false, Run.state_andThen_ask]
      rfl

theorem reaches_comparedLines (component samples margin : Datum) (p : Pool Float) (number : Nat)
    (found : List (Datum × SplineId)) :
    p.Reaches (comparedLines component samples margin p number found).state := by
  induction found generalizing p number with
  | nil => exact reaches_refl p
  | cons entry found ih =>
    obtain ⟨label, i⟩ := entry
    refine reaches_andThen (p.reaches_on i fun config s => ?_) fun line q => ih q (number + 1)
    rcases state_comparedLine component samples margin label number config s with h | h
    · exact .inl h
    · exact .inr ⟨_, h⟩

theorem reaches_ofComparison (plotter : Plotter) (p : Pool Float)
    (found : List (Datum × SplineId)) (component samples margin : Datum) :
    p.Reaches (ofComparison plotter p found component samples margin).state := by
  cases found with
  | nil => exact reaches_refl p
  | cons entry found =>
    obtain ⟨label, first⟩ := entry
    exact reaches_andThen (reaches_comparedLines component samples margin p 0 _) fun lines q =>
      q.reaches_on first fun config s => .inl rfl

end Figure

/-! ## Steps -/

namespace Session

open Pool

variable (s : Session)

theorem reaches_onSpline {α : Type} (i : SplineId)
    {operation : Config → Spline Float → Run Float (Spline Float) α} {answer : α → Answer}
    (d : Spline.Call) (h : ∀ config t, (operation config t).state = (t.call config d).state) :
    s.pool.Reaches (s.onSpline i operation answer).state.pool :=
  s.pool.reaches_on i fun config t => .inr ⟨d, h config t⟩

theorem reaches_ask {α : Type} (i : SplineId) (question : Spline Float → Except (Fault Float) α)
    (answer : α → Answer) : s.pool.Reaches (s.ask i question answer).state.pool := by
  show s.pool.Reaches (s.pool.on i fun _ t => Run.ask t (question t)).state
  exact s.pool.reaches_on i fun _ _ => .inl rfl

/-- A step about a spline that is bound does calls on it, or edits its configuration. -/
theorem reaches_onBound (i : SplineId) (action : Action) :
    s.pool.Reaches (s.onBound i action).state.pool := by
  cases action with
  | tag => exact s.reaches_ask i _ _
  | insert parameter value =>
    exact s.reaches_onSpline i (.insert parameter value (.ok .nothing)) fun config t => rfl
  | insertTriples parameter value incoming outgoing =>
    refine s.reaches_onSpline i (.insert parameter value (do
      let a ← incoming.triple
      let b ← outgoing.triple
      pure (.items .group [.triple a, .triple b]))) fun config t => ?_
    unfold Spline.insertTriples Spline.call
    cases incoming.triple with
    | error f => rfl
    | ok a =>
      cases outgoing.triple with
      | error f => rfl
      | ok b => rfl
  | insertShape parameter value shape =>
    refine s.reaches_onSpline i (.insert parameter value (shape.shape.map .shape))
      fun config t => ?_
    unfold Spline.insertShape Spline.call
    cases shape.shape with
    | error f => rfl
    | ok x => rfl
  | insertExtension parameter value extension =>
    cases extension with
    | error f => exact reaches_refl _
    | ok e => exact s.reaches_onSpline i (.insert parameter value (.ok e)) fun config t => rfl
  | finalize => exact s.reaches_onSpline i .finalize fun config t => rfl
  | evaluate parameter => exact s.reaches_onSpline i (.evaluate parameter) fun config t => rfl
  | get parameter => exact s.reaches_onSpline i (.get parameter) fun config t => rfl
  | invalidate => exact s.reaches_onSpline i .invalidate fun config t => rfl
  | domain => exact s.reaches_ask i _ _
  | describe => exact s.reaches_ask i _ _
  | points => exact s.reaches_ask i _ _
  | item index => exact s.reaches_ask i _ _
  | extensions => exact s.reaches_ask i _ _
  | coefficient segment component offset => exact s.reaches_ask i _ _
  | editConfig key value =>
    cases ht : s.splineAt i with
    | none =>
      simp only [onBound, ht]
      exact reaches_refl _
    | some t =>
      have hs : s.pool.splines[i]? = some t := ht
      cases key with
      | str k =>
        refine ⟨[.editConfig i k value], ?_⟩
        simp only [onBound, ht, after_cons, after_nil, call, hs]
        rfl
      | _ =>
        simp only [onBound, ht]
        exact reaches_refl _
  | range parameters => exact s.reaches_onSpline i (.range parameters) fun config t => rfl
  | uniform samples margin =>
    exact s.reaches_onSpline i (.uniform samples margin) fun config t => rfl
  | plot samples margin title =>
    exact s.reaches_onSpline i (.uniform samples margin) fun config t =>
      Figure.state_ofComponents .standard config t samples margin title
  | _ => exact reaches_refl _

theorem reaches_onHandle (h : HandleId) (action : Action) :
    s.pool.Reaches (s.onHandle h action).state.pool := by
  cases action with
  | share target => exact reaches_call _ (.share h)
  | copyHandle target => exact reaches_call _ (.copyHandle h)
  | close => exact reaches_call _ (.close h)
  | «within» parameter =>
    refine reaches_within h fun i q => ?_
    exact q.reaches_on i fun config t => .inr ⟨.evaluate parameter, rfl⟩
  | _ => exact reaches_refl _

theorem reaches_create (name : Option String) (kind : Datum) (request : Option Config.Request)
    (unowned : Bool) : s.pool.Reaches (s.create name kind request unowned).state.pool := by
  unfold create
  dsimp only
  split
  · exact reaches_refl _
  · rename_i config k _
    cases unowned with
    | true => exact reaches_call _ (.make k config)
    | false => exact reaches_call _ (.create k config)

theorem reaches_copy (source : Option SplineId) (target : String) :
    s.pool.Reaches (s.copy source target).state.pool := by
  unfold copy
  cases source with
  | none => exact reaches_refl _
  | some i => exact reaches_call _ (.copy i)

/-- **One step.** All that a step does to the pool are calls on it. -/
theorem reaches_perform (step : Step) : s.pool.Reaches (s.perform step).state.pool := by
  obtain ⟨spline, handle, action⟩ := step
  cases action with
  | create kind config unowned => exact s.reaches_create spline kind config unowned
  | setDefault request =>
    simp only [perform]
    split
    · exact reaches_refl _
    · exact reaches_call _ (.setDefault _)
  | acquire =>
    simp only [perform]
    split
    · exact reaches_refl _
    · exact reaches_call _ (.acquire _)
  | release =>
    simp only [perform]
    split
    · exact reaches_refl _
    · exact reaches_call _ (.release _)
  | destroy =>
    simp only [perform]
    split
    · exact reaches_refl _
    · exact reaches_call _ (.destroy _)
  | copy target => exact s.reaches_copy _ target
  | openHandle adopt => exact reaches_call s.pool (.openHandle (s.splines.find spline) adopt)
  | compare splines component samples margin =>
    simp only [perform]
    split
    · exact reaches_refl _
    · exact Figure.reaches_ofComparison .standard s.pool _ component samples margin
  | getDefault => exact reaches_refl _
  | «alias» target => exact reaches_refl _
  | share _ | copyHandle _ | close | isClosed | spline _ | describeHandle | «within» _ =>
    simp only [perform]
    split
    · exact reaches_refl _
    · exact s.reaches_onHandle _ _
  | _ =>
    simp only [perform]
    split
    · exact reaches_refl _
    · exact s.reaches_onBound _ _

/-- **Sessions.** Every session is a run of calls on its pool. -/
theorem reaches_run (steps : List Step) : s.pool.Reaches (s.run steps).1.pool := by
  induction steps generalizing s with
  | nil => exact reaches_refl _
  | cons step steps ih => exact (s.reaches_perform step).trans (ih _)

end Session

end CurveKit
