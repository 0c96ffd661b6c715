import CurveKit.Proofs.Pool.Effects

/-!
# Configurations along runs

Making a spline, copying one and replacing the default add a configuration behind all
others; nothing removes one, and only an edit changes one. So a spline holds the same
configuration for good, and that says the same as long as nobody edits it through a
spline that holds it too.

Results:
* `configured_call`: what a call that is no edit leaves of the configurations.
* `wired_call`, `wired_after`: every spline holds a configuration that is there.
* `config_call`, `config_copied`: a spline keeps its configuration, and a copy takes it over.
* `holds_after`: a spline never changes the configuration that it holds.
-/
namespace CurveKit.Pool

def Call.edits : Call → Bool
  | .editConfig _ _ _ => true
  | _ => false

/-- Does a call change an entry of the configuration that spline `j` holds? -/
def Call.touches (p : Pool Float) (j : SplineId) : Call → Bool
  | .editConfig i _ _ =>
    p.splines[i]?.any fun s => p.splines[j]?.any fun t => s.config == t.config
  | _ => false

/-- All configurations are kept. If there is another default now, it is a fresh one, and nothing
has happened to the splines. -/
structure Configured (p q : Pool Float) : Prop where
  kept : p.configs <+: q.configs
  default : q.default = p.default ∨
    q.splines = p.splines ∧ q.default = p.configs.length ∧ p.configs.length < q.configs.length

section Calls

variable {p : Pool Float} {c : Call} {i j : SplineId} {s t : Spline Float}

theorem Configured.of_eq {q : Pool Float} (hc : q.configs = p.configs)
    (hd : q.default = p.default) : Configured p q :=
  ⟨hc ▸ List.prefix_refl _, .inl hd⟩

theorem configured_on {α : Type} (p : Pool Float) (i : SplineId)
    (operation : Config → Spline Float → Run Float (Spline Float) α) :
    Configured p (p.on i operation).state := by
  unfold on
  split
  · exact .of_eq rfl rfl
  · exact .of_eq rfl rfl

theorem configured_release (p : Pool Float) (i : SplineId) : Configured p (p.release i).state :=
  p.configured_on i _

theorem configured_openHandle (p : Pool Float) (target : Option SplineId) (adopt : Bool) :
    Configured p (p.openHandle target adopt).state := by
  cases target with
  | none => exact .of_eq rfl rfl
  | some i =>
    cases adopt with
    | true => exact .of_eq rfl rfl
    | false =>
      have h : Configured p (p.acquire i).state := p.configured_on i _
      rw [openHandle_false]
      cases ha : (p.acquire i).answer with
      | error f => rw [Run.andThen_error ha]; exact h
      | ok a => rw [Run.andThen_ok ha]; exact ⟨h.kept, h.default⟩

/-- **One call.** A call that is no edit keeps all configurations. -/
theorem configured_call (p : Pool Float) (hc : c.edits = false) :
    Configured p (p.call c).state := by
  cases c with
  | make kind config =>
    rcases p.make_eq kind config with ⟨f, h⟩ | h
    · simp only [call, Run.state_map, h]; exact .of_eq rfl rfl
    · simp only [call, Run.state_map, h]; exact ⟨List.prefix_append _ _, .inl rfl⟩
  | create kind config =>
    rcases p.create_eq kind config with ⟨f, h⟩ | h
    · simp only [call, Run.state_map, h]; exact .of_eq rfl rfl
    · simp only [call, Run.state_map, h]; exact ⟨List.prefix_append _ _, .inl rfl⟩
  | copy i =>
    rcases p.clone_eq i with ⟨f, h⟩ | ⟨s, -, -, h⟩
    · simp only [call, Run.state_map, h]; exact .of_eq rfl rfl
    · simp only [call, Run.state_map, h]; exact ⟨List.prefix_append _ _, .inl rfl⟩
  | spline i d => exact p.configured_on i _
  | acquire i =>
    simp only [call, Run.state_map, acquire]
    exact p.configured_on i _
  | release i => exact p.configured_release i
  | destroy i =>
    simp only [call, Run.state_map, destroy]
    exact p.configured_on i _
  | openHandle target adopt => exact p.configured_openHandle target adopt
  | share h =>
    cases hh : p.held h with
    | error f => simp only [call, Run.state_map, share_of_not_held hh]; exact .of_eq rfl rfl
    | ok i =>
      simp only [call, Run.state_map, share_of_held hh]
      exact p.configured_openHandle (some i) false
  | copyHandle h =>
    cases hh : p.held h with
    | error f => simp only [call, Run.state_map, cloneHandle_of_not_held hh]; exact .of_eq rfl rfl
    | ok i =>
      simp only [call, Run.state_map, cloneHandle_of_held hh]
      rcases p.clone_eq i with ⟨f, hc⟩ | ⟨s, -, -, hc⟩
      · rw [hc]; exact .of_eq rfl rfl
      · rw [hc, Run.andThen_ok rfl]; exact ⟨List.prefix_append _ _, .inl rfl⟩
  | close h =>
    cases hh : p.held h with
    | error f => simp only [call, Run.state_map, (close_of_not_held hh).1]; exact .of_eq rfl rfl
    | ok i =>
      have hr := p.configured_release i
      simp only [call, Run.state_map, close_of_held hh]
      exact ⟨hr.kept, hr.default⟩
  | setDefault config =>
    simp only [call, Run.state_map, setDefault]
    split
    · exact .of_eq rfl rfl
    · exact ⟨List.prefix_append _ _, .inr ⟨rfl, rfl, by simp⟩⟩
  | editConfig i key d => cases hc

/-- Every spline holds a configuration that is there, and so does the default. -/
structure Wired (p : Pool Float) : Prop where
  default : p.default < p.configs.length
  splines : ∀ (i : SplineId) s, p.splines[i]? = some s → s.config < p.configs.length

theorem config_of_effect (e : Effect p c j s t) : t.config = s.config := by
  cases e with
  | called d _ => exact (s.change_call _ d).same.2.1
  | _ => rfl

/-- No call removes a configuration, or makes one the default that is not there. -/
theorem length_configs_call (p : Pool Float) (c : Call) :
    p.configs.length ≤ (p.call c).state.configs.length ∧
      ((p.call c).state.default = p.default ∨
        (p.call c).state.default < (p.call c).state.configs.length) := by
  cases hc : c.edits with
  | false =>
    have h := p.configured_call hc
    refine ⟨h.kept.length_le, h.default.imp_right ?_⟩
    rintro ⟨-, hfresh, hlt⟩
    rwa [hfresh]
  | true =>
    cases c with
    | editConfig i key d =>
      simp only [call]
      split
      · exact ⟨Nat.le_refl _, .inl rfl⟩
      · simp [Run.done, editConfig]
    | _ => cases hc

theorem wired_call (hw : Wired p) (c : Call) : Wired (p.call c).state := by
  obtain ⟨hle, hdefault⟩ := p.length_configs_call c
  refine ⟨?_, fun i t ht => ?_⟩
  · rcases hdefault with h | h
    · rw [h]; exact Nat.lt_of_lt_of_le hw.default hle
    · exact h
  · cases hs : p.splines[i]? with
    | some s =>
      obtain ⟨u, hu, e⟩ := effect_call c hs
      rw [hu] at ht
      cases ht
      rw [config_of_effect e]
      exact Nat.lt_of_lt_of_le (hw.splines i s hs) hle
    | none =>
      obtain ⟨-, -, new, e, hn⟩ := p.made_call hs ht
      have hd := hw.default
      rw [hn, List.length_append]
      cases e with
      | @made kind config _ =>
        cases config with
        | none => exact Nat.lt_of_lt_of_le hd (Nat.le_add_right _ _)
        | some own => exact Nat.lt_succ_self _
      | @created kind config _ =>
        cases config with
        | none => exact Nat.lt_of_lt_of_le hd (Nat.le_add_right _ _)
        | some own => exact Nat.lt_succ_self _
      | copied _ _ _ => exact Nat.lt_succ_self _

theorem touches_of_not_edits (hc : c.edits = false) (p : Pool Float) (j : SplineId) :
    c.touches p j = false := by
  cases c with
  | editConfig i key d => cases hc
  | _ => rfl

theorem config_editConfig_self (p : Pool Float) {k : ConfigId} (hk : k < p.configs.length)
    (key : String) (d : Datum) : (p.editConfig k key d).config k = (p.config k).set key d := by
  rw [config, editConfig, List.getD_eq_getElem?_getD, List.getElem?_set_self hk]
  rfl

theorem config_editConfig_of_ne (p : Pool Float) {k l : ConfigId} (hne : k ≠ l) (key : String)
    (d : Datum) : (p.editConfig k key d).config l = p.config l := by
  simp only [config, editConfig, List.getD_eq_getElem?_getD, List.getElem?_set_ne hne]

/-- What a spline holds says the same after a call that does not touch it. -/
theorem config_call (hw : Wired p) (hs : p.splines[j]? = some s) (hc : c.touches p j = false) :
    (p.call c).state.config s.config = p.config s.config := by
  cases he : c.edits with
  | false =>
    obtain ⟨new, hn⟩ := (p.configured_call he).kept
    have hlt := hw.splines j s hs
    rw [config, config, ← hn, List.getD_eq_getElem?_getD, List.getD_eq_getElem?_getD,
      List.getElem?_append_left hlt]
  | true =>
    cases c with
    | editConfig i key d =>
      simp only [call]
      split
      · rfl
      · rename_i u hu
        refine config_editConfig_of_ne p (fun h => ?_) key d
        simp [Call.touches, hu, hs, h] at hc
    | _ => cases he

/-- A spline that is there holds the same configuration after any calls. -/
theorem holds_after (hs : p.splines[j]? = some s) (cs : List Call) :
    ∃ t, (p.after cs).splines[j]? = some t ∧ t.config = s.config := by
  induction cs generalizing p s with
  | nil => exact ⟨s, hs, rfl⟩
  | cons c cs ih =>
    obtain ⟨t, ht, e⟩ := effect_call c hs
    obtain ⟨u, hu, hc⟩ := ih ht
    exact ⟨u, hu, hc.trans (config_of_effect e)⟩

/-- A copy holds what the copied spline holds. -/
theorem config_copied (hn : (p.call c).state.configs = p.configs ++ [p.config s.config]) :
    (p.call c).state.config p.configs.length = p.config s.config := by
  rw [config, hn]
  simp

end Calls

theorem Wired.after {p : Pool Float} (hw : Wired p) (cs : List Call) : Wired (p.after cs) := by
  induction cs generalizing p with
  | nil => exact hw
  | cons c cs ih => exact ih (wired_call hw c)

theorem wired_after (cs : List Call) : Wired (fresh.after cs) :=
  Wired.after ⟨Nat.zero_lt_one, fun _ _ h => by cases h⟩ cs

end CurveKit.Pool
