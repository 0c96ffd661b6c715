import CurveKit.Proofs.Spline.Changes

/-!
# Calls on a pool, one after the other

A caller makes splines, works with them, counts their owners up and down, and opens
and closes handles. `Pool.call` is one call; `after` is the pool that a list of
calls leaves, `follow` notes something along the way, and `tally` counts it.

Results:
* `make_eq`, `create_eq`, `clone_eq`: what making a spline leaves, if it is not refused.
* `acquire_live`, `release_shared`, `release_last`, `destroy_live`, and what happens to a spline
  that is destroyed already.
-/
namespace CurveKit

namespace Pool

inductive Call where
  | make (kind : Kind) (config : Option Config)
  | create (kind : Kind) (config : Option Config)
  | copy (i : SplineId)
  | spline (i : SplineId) (c : Spline.Call)
  | acquire (i : SplineId)
  | release (i : SplineId)
  | destroy (i : SplineId)
  | openHandle (spline : Option SplineId) (adopt : Bool)
  | share (h : HandleId)
  | copyHandle (h : HandleId)
  | close (h : HandleId)
  | setDefault (config : Option Config)
  /-- Changes an entry of the configuration that a spline holds. -/
  | editConfig (i : SplineId) (key : String) (d : Datum)

def call (p : Pool Float) : Call → Run Float (Pool Float) Answer
  | .make kind config => (p.make kind config).map fun _ => .kind kind
  | .create kind config => (p.create kind config).map fun _ => .kind kind
  | .copy i => (p.clone i).map fun _ => .nothing
  | .spline i c => p.on i fun config s => s.call config c
  | .acquire i => (p.acquire i).map fun _ => .flag true
  | .release i => (p.release i).map .flag
  | .destroy i => (p.destroy i).map fun _ => .nothing
  | .openHandle spline adopt => (p.openHandle spline adopt).map fun _ => .nothing
  | .share h => (p.share h).map fun _ => .nothing
  | .copyHandle h => (p.cloneHandle h).map fun _ => .nothing
  | .close h => (p.close h).map .flag
  | .setDefault config => (p.setDefault config).map .config
  | .editConfig i key d =>
    match p.splines[i]? with
    | none => .fail p .unbound
    | some s => .done (p.editConfig s.config key d) .nothing

def after (p : Pool Float) (cs : List Call) : Pool Float := cs.foldl (fun p c => (p.call c).state) p

@[simp] theorem after_nil (p : Pool Float) : p.after [] = p := rfl

@[simp] theorem after_cons (p : Pool Float) (c : Call) (cs : List Call) :
    p.after (c :: cs) = (p.call c).state.after cs := rfl

@[simp] theorem after_append (p : Pool Float) (cs ds : List Call) :
    p.after (cs ++ ds) = (p.after cs).after ds := List.foldl_append

section Follow

variable {σ : Type}

/-- What is noted along calls, one after the other; `note` takes the pool before a call. -/
def follow (note : Pool Float → Call → σ → σ) (p : Pool Float) (x : σ) : List Call → σ
  | [] => x
  | c :: cs => follow note (p.call c).state (note p c x) cs

theorem follow_concat (note : Pool Float → Call → σ → σ) (p : Pool Float) (x : σ) (cs : List Call)
    (c : Call) : p.follow note x (cs ++ [c]) = note (p.after cs) c (p.follow note x cs) := by
  induction cs generalizing p x with
  | nil => rfl
  | cons d cs ih => exact ih _ _

end Follow

/-- How often something happens in calls, one after the other. -/
def tally (happens : Pool Float → Call → Nat) (p : Pool Float) (cs : List Call) : Nat :=
  p.follow (fun p c n => n + happens p c) 0 cs

@[simp] theorem tally_nil (f : Pool Float → Call → Nat) (p : Pool Float) : p.tally f [] = 0 := rfl

theorem tally_concat (f : Pool Float → Call → Nat) (p : Pool Float) (cs : List Call) (c : Call) :
    p.tally f (cs ++ [c]) = p.tally f cs + f (p.after cs) c := follow_concat _ p 0 cs c

/-! ## One operation at a time -/

section Generic

variable {K : Type} (p : Pool K) {i : SplineId} {s : Spline K}

theorem set_self {α : Type} {l : List α} {i : Nat} {a : α} (h : l[i]? = some a) :
    l.set i a = l := by
  obtain ⟨hi, rfl⟩ := List.getElem?_eq_some_iff.1 h
  exact List.set_getElem_self hi

theorem on_of_some {α : Type} (h : p.splines[i]? = some s)
    (operation : Config → Spline K → Run K (Spline K) α) :
    p.on i operation =
      { operation (p.config s.config) s with
        state := { p with
          splines := p.splines.set i (operation (p.config s.config) s).state } } := by
  simp [on, h]

theorem call_spline (p : Pool Float) {s : Spline Float} (h : p.splines[i]? = some s)
    (d : Spline.Call) :
    p.call (.spline i d) =
      { s.call (p.config s.config) d with
        state := { p with splines := p.splines.set i (s.call (p.config s.config) d).state } } :=
  on_of_some p h fun config s => s.call config d

theorem on_of_none {α : Type} (h : p.splines[i]? = none)
    (operation : Config → Spline K → Run K (Spline K) α) :
    p.on i operation = .fail p .unbound := by
  simp [on, h]

/-- A spline is made without owners, with a fresh configuration or the default one. -/
theorem make_eq (kind : Kind) (config : Option Config) :
    (∃ f, p.make kind config = .fail p f) ∨
    p.make kind config = ⟨.ok p.splines.length,
      { p with
        configs := p.configs ++ config.toList
        splines := p.splines ++
          [.empty kind (config.elim p.default fun _ => p.configs.length)] }, [.created kind]⟩ := by
  cases config with
  | none =>
    unfold make
    dsimp only
    split
    · exact .inl ⟨_, rfl⟩
    · right; simp
  | some c =>
    unfold make
    dsimp only
    split
    · exact .inl ⟨_, rfl⟩
    · right; simp

/-- Nothing is left of a spline that could not be made; else its maker owns it. -/
theorem create_eq (kind : Kind) (config : Option Config) :
    (∃ f, p.create kind config = .fail p f) ∨
    p.create kind config = ⟨.ok p.splines.length,
      { p with
        configs := p.configs ++ config.toList
        splines := p.splines ++
          [{ Spline.empty kind (config.elim p.default fun _ => p.configs.length) with
            owners := 1 }] },
      [.created kind, .issued kind]⟩ := by
  unfold create
  rcases p.make_eq kind config with ⟨f, h⟩ | h
  · exact .inl ⟨f, by rw [h]; rfl⟩
  · right
    rw [h, Run.andThen_ok rfl, on_of_some _ List.getElem?_concat_length]
    simp [Spline.empty]

theorem make_own (kind : Kind) (own : Config) :
    p.make kind (some own) = match (own.settings : Except (Fault K) Settings) with
      | .error f => .fail p f
      | .ok _ => ⟨.ok p.splines.length, { p with
          configs := p.configs ++ [own]
          splines := p.splines ++ [.empty kind p.configs.length] }, [.created kind]⟩ := by
  have hq : ({ p with configs := p.configs ++ [own] } : Pool K).config p.configs.length = own := by
    simp [config]
  cases hs : (own.settings : Except (Fault K) Settings) with
  | error f => simp only [make, hq, hs]
  | ok settings => simp only [make, hq, hs]

/-- A live spline can be copied if its configuration is valid; the copy gets one of its own. -/
theorem clone_live (h : p.splines[i]? = some s) (ha : s.destroyed = false) :
    p.clone i = match ((p.config s.config).settings : Except (Fault K) Settings) with
      | .error f => .fail p f
      | .ok _ => ⟨.ok p.splines.length, { p with
          configs := p.configs ++ [p.config s.config]
          splines := p.splines ++ [s.duplicate p.configs.length] }, [.created s.kind]⟩ := by
  unfold clone
  simp only [h, Spline.checkAlive, ha, Bool.false_eq_true, if_false, make_own]
  cases ((p.config s.config).settings : Except (Fault K) Settings) with
  | error f => rfl
  | ok settings =>
    dsimp only
    rw [Run.andThen_ok rfl, on_of_some _ List.getElem?_concat_length]
    simp [Spline.empty, Run.done, Spline.duplicate]

theorem clone_dead (h : p.splines[i]? = some s) (hd : s.destroyed = true) :
    p.clone i = .fail p (.released s.kind) := by
  simp [clone, h, Spline.checkAlive, hd]

theorem clone_of_none (h : p.splines[i]? = none) : p.clone i = .fail p .unbound := by
  simp [clone, h]

/-- A copy is made of a live spline, with a configuration of its own. -/
theorem clone_eq (i : SplineId) :
    (∃ f, p.clone i = .fail p f) ∨
    ∃ s, p.splines[i]? = some s ∧ s.destroyed = false ∧
      p.clone i = ⟨.ok p.splines.length,
        { p with
          configs := p.configs ++ [p.config s.config]
          splines := p.splines ++ [s.duplicate p.configs.length] }, [.created s.kind]⟩ := by
  cases hs : p.splines[i]? with
  | none => exact .inl ⟨_, clone_of_none p hs⟩
  | some s =>
    cases hd : s.destroyed with
    | true => exact .inl ⟨_, clone_dead p hs hd⟩
    | false =>
      rw [clone_live p hs hd]
      cases ((p.config s.config).settings : Except (Fault K) Settings) with
      | error f => exact .inl ⟨f, rfl⟩
      | ok settings => exact .inr ⟨s, rfl, hd, rfl⟩

theorem acquire_live (h : p.splines[i]? = some s) (ha : s.destroyed = false) :
    p.acquire i =
      ⟨.ok (), { p with splines := p.splines.set i { s with owners := s.owners + 1 } }, []⟩ := by
  simp [acquire, on_of_some p h, Spline.checkAlive, ha, Run.done]

theorem acquire_dead (h : p.splines[i]? = some s) (hd : s.destroyed = true) :
    p.acquire i = .fail p (.released s.kind) := by
  simp [acquire, on_of_some p h, Spline.checkAlive, hd, Run.fail, set_self h]

theorem release_shared (h : p.splines[i]? = some s) (ha : s.destroyed = false)
    (hn : 1 < s.owners) :
    p.release i =
      ⟨.ok false, { p with splines := p.splines.set i { s with owners := s.owners - 1 } }, []⟩ := by
  simp [release, on_of_some p h, Spline.checkAlive, ha, hn, Run.done]

theorem release_last (h : p.splines[i]? = some s) (ha : s.destroyed = false)
    (hn : s.owners ≤ 1) :
    p.release i =
      ⟨.ok true, { p with splines := p.splines.set i s.teardown }, [.destroyed s.kind]⟩ := by
  simp [release, on_of_some p h, Spline.checkAlive, ha, Nat.not_lt.2 hn]

theorem release_dead (h : p.splines[i]? = some s) (hd : s.destroyed = true) :
    p.release i = .fail p (.released s.kind) := by
  simp [release, on_of_some p h, Spline.checkAlive, hd, Run.fail, set_self h]

/-- The warning that comes before the teardown of a spline with several owners. -/
def sharedWarning (s : Spline K) : List (Event K) :=
  if 1 < s.owners then [.destroyedShared s.kind s.owners] else []

theorem destroy_live (h : p.splines[i]? = some s) (ha : s.destroyed = false) :
    p.destroy i = ⟨.ok (), { p with splines := p.splines.set i s.teardown },
      sharedWarning s ++ [.destroyed s.kind]⟩ := by
  simp [destroy, on_of_some p h, ha, sharedWarning]

theorem destroy_dead (h : p.splines[i]? = some s) (hd : s.destroyed = true) :
    p.destroy i = ⟨.ok (), p, [.destroyedAgain s.kind]⟩ := by
  simp [destroy, on_of_some p h, hd, set_self h]

theorem owners_of_none (h : p.splines[i]? = none) :
    p.acquire i = .fail p .unbound ∧ p.release i = .fail p .unbound ∧
      p.destroy i = .fail p .unbound :=
  ⟨on_of_none p h _, on_of_none p h _, on_of_none p h _⟩

end Generic

end Pool

end CurveKit
