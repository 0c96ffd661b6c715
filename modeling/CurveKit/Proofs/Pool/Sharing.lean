import CurveKit.Proofs.Pool.Configs
import CurveKit.Proofs.Pool.Owners

/-!
# Who shares a configuration

A spline that is made without a configuration holds the default, together with all others that
are made so while the same default is in force. Any other spline holds a configuration of its own:
the one it was given, or a copy of the one that the copied spline holds. Replacing the default
puts a fresh configuration in its place and touches none that a spline holds. So an edit through a
spline reaches those that were made on the same default, and the default if it is still that one.

Results:
* `origin`: how each spline got its configuration, noted along the calls.
* `tied_call`, `tied_after`: splines made on one default share it, all others share nothing.
* `valid_of_makes`: no spline is made with an invalid configuration.
* `sharing`: who shares what, and what an edit or a new default changes.
-/
namespace CurveKit.Pool

/-! ## How a spline got its configuration -/

/-- How a spline got its configuration. -/
inductive Origin where
  /-- It was made with a configuration of its own. -/
  | given
  /-- It was made without one while this was the default. -/
  | default (c : ConfigId)
  /-- It was made as a copy of another spline. -/
  | copied (i : SplineId)

/-- How a spline that a call makes gets its configuration. -/
def Call.origin (p : Pool Float) : Call → Option Origin
  | .make _ config => some (config.elim (.default p.default) fun _ => .given)
  | .create _ config => some (config.elim (.default p.default) fun _ => .given)
  | .copy i => some (.copied i)
  | .copyHandle h => (p.held h).toOption.map .copied
  | _ => none

/-- What is noted of the origins of all splines after a call. -/
def noteOrigin (p : Pool Float) (c : Call) (notes : SplineId → Option Origin) (j : SplineId) :
    Option Origin :=
  if c.makes p j then c.origin p else notes j

/-- How each spline got its configuration. -/
def origin (cs : List Call) : SplineId → Option Origin :=
  fresh.follow noteOrigin (fun _ => none) cs

/-- Splines that were made on a default hold it; every other one holds a configuration that is not
the default and that no other spline holds. -/
structure Tied (p : Pool Float) (notes : SplineId → Option Origin) : Prop where
  shared : ∀ (i : SplineId) s c, p.splines[i]? = some s → notes i = some (.default c) →
    s.config = c
  own : ∀ (i : SplineId) s, p.splines[i]? = some s → (∀ c, notes i ≠ some (.default c)) →
    s.config ≠ p.default ∧
      ∀ (j : SplineId) t, j ≠ i → p.splines[j]? = some t → t.config ≠ s.config

section Steps

variable {p : Pool Float} {c : Call} {i j : SplineId} {s t : Spline Float} {new : List Config}
  {notes : SplineId → Option Origin}

/-- What a made spline holds: the default, if it was made on it, and a fresh configuration in all
other cases. -/
theorem config_of_made (e : Made p c t new) :
    c.origin p = some (.default p.default) ∧ t.config = p.default ∨
      (∀ k, c.origin p ≠ some (.default k)) ∧ t.config = p.configs.length := by
  cases e with
  | @made kind config hc =>
    subst hc
    cases config with
    | none => exact .inl ⟨rfl, rfl⟩
    | some own => exact .inr ⟨nofun, rfl⟩
  | @created kind config hc =>
    subst hc
    cases config with
    | none => exact .inl ⟨rfl, rfl⟩
    | some own => exact .inr ⟨nofun, rfl⟩
  | @copied i s hc _ _ =>
    refine .inr ⟨fun k hk => ?_, rfl⟩
    cases c with
    | copy i => cases hk
    | copyHandle h =>
      obtain ⟨i, -, hi⟩ := Option.map_eq_some_iff.1 hk
      cases hi
    | _ => cases hc

/-- A call leaves the default alone, or puts a fresh one in its place and makes no spline. -/
theorem default_call (p : Pool Float) (c : Call) : (p.call c).state.default = p.default ∨
    (p.call c).state.splines = p.splines ∧ (p.call c).state.default = p.configs.length := by
  cases he : c.edits with
  | false => exact (p.configured_call he).default.imp_right fun ⟨hs, hd, _⟩ => ⟨hs, hd⟩
  | true =>
    cases c with
    | editConfig i key d =>
      left
      simp only [call]
      split <;> rfl
    | _ => cases he

/-- A spline after a call was there before and holds the same as before. Or it has been made, and
holds the default or a fresh configuration. -/
theorem spline_call (notes : SplineId → Option Origin)
    (ht : (p.call c).state.splines[j]? = some t) :
    (∃ s, p.splines[j]? = some s ∧ t.config = s.config ∧ noteOrigin p c notes j = notes j) ∨
      j = p.splines.length ∧
        (noteOrigin p c notes j = some (.default p.default) ∧ t.config = p.default ∨
          (∀ k, noteOrigin p c notes j ≠ some (.default k)) ∧ t.config = p.configs.length) := by
  cases hs : p.splines[j]? with
  | some s =>
    obtain ⟨u, hu, e⟩ := effect_call c hs
    rw [hu] at ht
    cases ht
    left
    refine ⟨s, rfl, config_of_effect e, ?_⟩
    rw [noteOrigin, makes_of_some hs, if_neg Bool.false_ne_true]
  | none =>
    obtain ⟨hj, -, new, e, -⟩ := p.made_call hs ht
    right
    rw [noteOrigin, makes_of_new hs ht, if_pos rfl]
    exact ⟨hj, config_of_made e⟩

theorem default_of_makes (ht : (p.call c).state.splines[p.splines.length]? = some t) :
    (p.call c).state.default = p.default := by
  rcases p.default_call c with h | ⟨h, -⟩
  · exact h
  · rw [h, List.getElem?_eq_none (Nat.le_refl _)] at ht
    cases ht

/-- **One call.** Nothing is shared but a default, by those that were made on it. -/
theorem tied_call (hw : Wired p) (h : Tied p notes) (c : Call) :
    Tied (p.call c).state (noteOrigin p c notes) := by
  constructor
  · intro i t k ht hk
    rcases spline_call notes ht with ⟨s, hs, hconfig, hnote⟩ | ⟨-, ⟨hnote, hconfig⟩ | ⟨hnote, -⟩⟩
    · exact hconfig.trans (h.shared i s k hs (hnote.symm.trans hk))
    · rw [hnote] at hk
      cases hk
      exact hconfig
    · exact absurd hk (hnote k)
  · intro i t ht hnone
    rcases spline_call notes ht with ⟨s, hs, hconfig, hnote⟩ |
      ⟨rfl, ⟨hnote, -⟩ | ⟨-, hconfig⟩⟩
    · rw [hnote] at hnone
      obtain ⟨hdefault, hothers⟩ := h.own i s hs hnone
      have hlt := hw.splines i s hs
      rw [hconfig]
      refine ⟨?_, fun j u hne hu => ?_⟩
      · rcases p.default_call c with hd | ⟨-, hd⟩
        · rwa [hd]
        · rw [hd]
          exact Nat.ne_of_lt hlt
      · rcases spline_call notes hu with ⟨v, hv, hu, -⟩ | ⟨-, ⟨-, hu⟩ | ⟨-, hu⟩⟩
        · rw [hu]
          exact hothers j v hne hv
        · rw [hu]
          exact hdefault.symm
        · rw [hu]
          exact Nat.ne_of_gt hlt
    · exact absurd hnote (hnone _)
    · rw [hconfig]
      refine ⟨?_, fun j u hne hu => ?_⟩
      · rw [default_of_makes ht]
        exact Nat.ne_of_gt hw.default
      · rcases spline_call notes hu with ⟨v, hv, hu, -⟩ | ⟨hj, -⟩
        · rw [hu]
          exact Nat.ne_of_lt (hw.splines j v hv)
        · exact absurd hj hne

theorem origin_concat (cs : List Call) (c : Call) :
    origin (cs ++ [c]) = noteOrigin (fresh.after cs) c (origin cs) :=
  follow_concat _ fresh _ cs c

/-- **Runs.** The same after any calls. -/
theorem tied_after (cs : List Call) : Tied (fresh.after cs) (origin cs) := by
  induction cs using List.reverseRecOn with
  | nil =>
    constructor
    · intro i s c hs
      cases hs
    · intro i s hs
      cases hs
  | append_singleton cs c ih =>
    rw [after_append, origin_concat]
    exact tied_call (wired_after cs) ih c

/-! ## Which configurations are checked -/

theorem valid_of_make (kind : Kind) {config : Option Config}
    (h : (p.make kind config).answer.isOk = true) :
    ∃ settings, ((config.getD p.defaultConfig).settings : Except (Fault Float) Settings) =
      .ok settings := by
  cases config with
  | none =>
    unfold make at h
    dsimp only at h
    split at h
    · cases h
    · exact ⟨_, ‹_›⟩
  | some own =>
    rw [make_own] at h
    split at h
    · cases h
    · exact ⟨_, ‹_›⟩

theorem valid_of_create (kind : Kind) {config : Option Config}
    (h : (p.create kind config).answer.isOk = true) :
    ∃ settings, ((config.getD p.defaultConfig).settings : Except (Fault Float) Settings) =
      .ok settings := by
  refine valid_of_make kind ?_
  cases hm : (p.make kind config).answer with
  | ok a => rfl
  | error f =>
    rw [create, Run.andThen_error hm] at h
    cases h

theorem valid_of_clone (hs : p.splines[i]? = some s) (alive : s.destroyed = false)
    (h : (p.clone i).answer.isOk = true) : ∃ settings,
      ((p.config s.config).settings : Except (Fault Float) Settings) = .ok settings := by
  rw [clone_live p hs alive] at h
  split at h
  · cases h
  · exact ⟨_, ‹_›⟩

theorem valid_of_copied (hc : c.copied p = some i) (hs : p.splines[i]? = some s)
    (alive : s.destroyed = false) (hsucceeds : c.succeeds p = true) : ∃ settings,
      ((p.config s.config).settings : Except (Fault Float) Settings) = .ok settings := by
  refine valid_of_clone hs alive ?_
  cases c with
  | copy k =>
    cases hc
    exact (isOk_map _ _).symm.trans hsucceeds
  | copyHandle h =>
    have hh : p.held h = .ok i := held_of_handle p ((held_toOption p).1 hc)
    cases hclone : (p.clone i).answer with
    | ok a => rfl
    | error f =>
      rw [Call.succeeds, call, cloneHandle_of_held hh, Run.andThen_error hclone] at hsucceeds
      cases hsucceeds
  | _ => cases hc

theorem config_of_toList {q : Pool Float} {config : Option Config}
    (h : q.configs = p.configs ++ config.toList) :
    q.config (config.elim p.default fun _ => p.configs.length) =
      config.getD p.defaultConfig := by
  cases config with
  | none =>
    rw [Option.toList_none, List.append_nil] at h
    simp only [Option.elim_none, Option.getD_none, defaultConfig, Pool.config, h]
  | some own => simp [Pool.config, h]

/-- **One call.** A spline is only ever made with a configuration that is valid then. -/
theorem valid_of_makes (hj : p.splines[j]? = none)
    (ht : (p.call c).state.splines[j]? = some t) : ∃ settings,
      (((p.call c).state.config t.config).settings : Except (Fault Float) Settings) =
        .ok settings := by
  obtain ⟨-, hsucceeds, new, e, hconfigs⟩ := p.made_call hj ht
  cases e with
  | @made kind config hc =>
    subst hc
    obtain ⟨settings, h⟩ := valid_of_make kind ((isOk_map _ _).symm.trans hsucceeds)
    exact ⟨settings, (congrArg Config.settings (config_of_toList hconfigs)).trans h⟩
  | @created kind config hc =>
    subst hc
    obtain ⟨settings, h⟩ := valid_of_create kind ((isOk_map _ _).symm.trans hsucceeds)
    exact ⟨settings, (congrArg Config.settings (config_of_toList hconfigs)).trans h⟩
  | copied hc hs alive =>
    obtain ⟨settings, h⟩ := valid_of_copied hc hs alive hsucceeds
    exact ⟨settings, (congrArg Config.settings (config_copied hconfigs)).trans h⟩

end Steps

/-! ## Sharing -/

/-- Who shares configurations after some calls, and what changes them. -/
structure Sharing (cs : List Call) : Prop where
  /-- Replacing the default changes what no spline holds, nor what that says; a refused one changes
  nothing at all. -/
  replaced : ∀ config, ((fresh.after cs).call (.setDefault config)).state.splines =
    (fresh.after cs).splines ∧ ∀ (i : SplineId) s, (fresh.after cs).splines[i]? = some s →
      ((fresh.after cs).call (.setDefault config)).state.config s.config =
        (fresh.after cs).config s.config
  refused : ∀ config f, ((fresh.after cs).call (.setDefault config)).answer = .error f →
    ((fresh.after cs).call (.setDefault config)).state = fresh.after cs
  /-- Two splines hold the same configuration if both were made on the same default. -/
  shared : ∀ (i j : SplineId) s t, (fresh.after cs).splines[i]? = some s →
    (fresh.after cs).splines[j]? = some t → i ≠ j →
    (s.config = t.config ↔ ∃ c, origin cs i = some (.default c) ∧ origin cs j = some (.default c))
  /-- What a copy holds is held by no other spline and is not the default. -/
  copied : ∀ (i k : SplineId) s, (fresh.after cs).splines[i]? = some s →
    origin cs i = some (.copied k) → s.config ≠ (fresh.after cs).default ∧
      ∀ (j : SplineId) t, j ≠ i → (fresh.after cs).splines[j]? = some t → t.config ≠ s.config
  /-- An edit through a spline changes what all splines say that hold the same configuration, and
  the default if it is that one, and nothing else. -/
  edited : ∀ (i : SplineId) s key d, (fresh.after cs).splines[i]? = some s →
    let p := fresh.after cs
    let q := (p.call (.editConfig i key d)).state
    q.splines = p.splines ∧ q.handles = p.handles ∧ q.default = p.default ∧
      ∀ k, q.config k = if k = s.config then (p.config k).set key d else p.config k
  /-- A spline is only ever made with a configuration that is valid then. -/
  valid : ∀ (c : Call) (j : SplineId) t, (fresh.after cs).splines[j]? = none →
    ((fresh.after cs).call c).state.splines[j]? = some t → ∃ settings,
      ((((fresh.after cs).call c).state.config t.config).settings :
        Except (Fault Float) Settings) = .ok settings

section Steps

variable {p : Pool Float} {i : SplineId} {s : Spline Float}

/-- An accepted default is put behind all configurations, and a refused one leaves no trace. -/
theorem call_setDefault (p : Pool Float) (config : Option Config) :
    (∃ f, p.call (.setDefault config) = .fail p f) ∨
      p.call (.setDefault config) = ⟨.ok (.config (config.getD .builtin)),
        { p with configs := p.configs ++ [config.getD .builtin], default := p.configs.length },
        [.defaultReplaced (config.getD .builtin)]⟩ := by
  simp only [call, setDefault]
  split
  · exact .inl ⟨_, rfl⟩
  · exact .inr rfl

theorem config_setDefault (hw : Wired p) (hs : p.splines[i]? = some s) (config : Option Config) :
    (p.call (.setDefault config)).state.config s.config = p.config s.config :=
  config_call hw hs rfl

theorem call_editConfig (hw : Wired p) (hs : p.splines[i]? = some s) (key : String) (d : Datum)
    (k : ConfigId) : (p.call (.editConfig i key d)).state.config k =
      if k = s.config then (p.config k).set key d else p.config k := by
  simp only [call, hs, Run.done]
  split
  · next h => rw [h, config_editConfig_self p (hw.splines i s hs)]
  · next h => rw [config_editConfig_of_ne p (Ne.symm h)]

end Steps

/-- **Sharing.** After any calls two splines hold the same configuration if and only if both were
made without one while the same default was in force. So a copy shares what it holds with no other
spline and not with the default. Replacing the default touches no spline. An edit through a spline
reaches all that hold the same configuration, and the default if it is that one. No spline is made
with a configuration that is invalid then. -/
theorem sharing (cs : List Call) : Sharing cs := by
  have hw := wired_after cs
  have ht := tied_after cs
  have hdefault {i : SplineId} {s : Spline Float} (hs : (fresh.after cs).splines[i]? = some s)
      {j : SplineId} {t : Spline Float} (hj : (fresh.after cs).splines[j]? = some t) (hne : i ≠ j)
      (heq : s.config = t.config) : ∃ c, origin cs i = some (.default c) := by
    by_contra hnone
    exact (ht.own i s hs (not_exists.1 hnone)).2 j t hne.symm hj heq.symm
  constructor
  · intro config
    refine ⟨?_, fun i s hs => config_setDefault hw hs config⟩
    rcases (fresh.after cs).call_setDefault config with ⟨f, h⟩ | h
    · rw [h]
      rfl
    · rw [h]
  · intro config f hf
    rcases (fresh.after cs).call_setDefault config with ⟨g, h⟩ | h
    · rw [h]
      rfl
    · rw [h] at hf
      cases hf
  · intro i j s t hs hj hne
    constructor
    · intro heq
      obtain ⟨c, hc⟩ := hdefault hs hj hne heq
      obtain ⟨d, hd⟩ := hdefault hj hs hne.symm heq.symm
      have hcd : c = d := by
        rw [← ht.shared i s c hs hc, heq, ht.shared j t d hj hd]
      exact ⟨c, hc, hcd ▸ hd⟩
    · rintro ⟨c, hc, hd⟩
      rw [ht.shared i s c hs hc, ht.shared j t c hj hd]
  · intro i k s hs hk
    exact ht.own i s hs fun c => by rw [hk]; exact nofun
  · intro i s key d hs p q
    have hq : q = p.editConfig s.config key d := by
      simp only [q, p, call, hs, Run.done]
    rw [hq]
    exact ⟨rfl, rfl, rfl, hq ▸ call_editConfig hw hs key d⟩
  · intro c j t hj htj
    exact valid_of_makes hj htj

/-- Two splines on the built-in default, one on a new default, and a copy of the first one; then a
default is refused, and a switch is turned off through the second one. -/
theorem sharing_two :
    let on : List Call := [.create .linear none, .create .natural none,
      .setDefault (some { Config.builtin with extrapolate := .bool false }), .create .linear none,
      .copy 0, .setDefault (some { Config.builtin with maxTerms := .int 9 })]
    let cs : List Call := on ++ [.editConfig 1 "lazy_finalize" (.bool false)]
    let p : Pool Float := fresh.after on
    ∃ s t u v, p.splines[0]? = some s ∧ p.splines[1]? = some t ∧ p.splines[2]? = some u ∧
      p.splines[3]? = some v ∧ s.config = t.config ∧ s.config ≠ u.config ∧
      v.config ≠ s.config ∧ v.config ≠ p.default ∧
      (fresh.after cs).config s.config =
        (p.config s.config).set "lazy_finalize" (.bool false) ∧
      (fresh.after cs).config v.config = p.config v.config := by
  intro on cs p
  have hplace : ∀ i < 4, (p.splines[i]?).isSome = true := by decide +kernel
  obtain ⟨s, hs⟩ := Option.isSome_iff_exists.1 (hplace 0 (by decide))
  obtain ⟨t, ht⟩ := Option.isSome_iff_exists.1 (hplace 1 (by decide))
  obtain ⟨u, hu⟩ := Option.isSome_iff_exists.1 (hplace 2 (by decide))
  obtain ⟨v, hv⟩ := Option.isSome_iff_exists.1 (hplace 3 (by decide))
  have h := sharing on
  have hst : s.config = t.config := (h.shared 0 1 s t hs ht (by decide)).2 ⟨0, rfl, rfl⟩
  have hsu : s.config ≠ u.config := fun heq => by
    obtain ⟨c, hc, hd⟩ := (h.shared 0 2 s u hs hu (by decide)).1 heq
    have hfirst : origin on 0 = some (.default 0) := rfl
    have hthird : origin on 2 = some (.default 1) := rfl
    rw [hfirst] at hc
    rw [hthird] at hd
    cases hc
    cases hd
  obtain ⟨hdefault, hothers⟩ := h.copied 3 0 v hv rfl
  have hvs : v.config ≠ s.config := fun heq => hothers 0 s (by decide) hs heq.symm
  obtain ⟨-, -, -, hedit⟩ := h.edited 1 t "lazy_finalize" (.bool false) ht
  refine ⟨s, t, u, v, hs, ht, hu, hv, hst, hsu, hvs, hdefault, ?_, ?_⟩
  · exact (hedit s.config).trans (if_pos hst)
  · exact (hedit v.config).trans (if_neg fun heq => hvs (heq.trans hst.symm))

end CurveKit.Pool
