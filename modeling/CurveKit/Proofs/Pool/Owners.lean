import CurveKit.Proofs.Pool.Effects
import CurveKit.Proofs.Spline.Events
import Mathlib.Data.List.Induction

/-!
# Counting owners

A spline starts with one owner, or with none if it was made for nobody. From then on
the references that are taken and given back are counted along the calls, and so are
the teardowns: a teardown leaves `.destroyed` in the log of the call.

`Balanced` says how the counts go with the state of a spline: while it is live they
add up to its owners and it was never torn down; afterwards it was torn down once.

Results:
* `teardowns_of_ends`, `teardowns_of_not_ends`: which calls tear a spline down.
* `balanced_call`, `fits_after`: every call, and so every run, keeps the balance.
* `owners_after`: what the balance says about the owners, the last release and the teardown.
-/
namespace CurveKit

/-- Is an event that of a spline giving up its points? -/
def Event.isTeardown {K : Type} : Event K → Bool
  | .destroyed _ => true
  | _ => false

/-! ## Calls on one spline tear nothing down -/

namespace Run

variable {K σ α β : Type}

/-- Nothing is torn down in a run. -/
def Quiet (r : Run K σ α) : Prop := r.events.countP Event.isTeardown = 0

theorem quiet_map {r : Run K σ α} (h : r.Quiet) (f : α → β) : (r.map f).Quiet := h

theorem quiet_ask (s : σ) (a : Except (Fault K) α) : (ask s a).Quiet := rfl

theorem quiet_fail (s : σ) (f : Fault K) : (fail s f : Run K σ α).Quiet := rfl

theorem quiet_of_logs {r : Run K σ α} {q : Event K → Prop} (h : r.Logs q)
    (hq : ∀ e, q e → e.isTeardown = false) : r.Quiet :=
  List.countP_eq_zero.2 fun e he => by simp [hq e (h e he)]

theorem quiet_andThen {r : Run K σ α} {next : α → σ → Run K σ β} (h : r.Quiet)
    (hn : ∀ a s, (next a s).Quiet) : (r.andThen next).Quiet := by
  cases ha : r.answer with
  | error f => rw [andThen_error ha]; exact h
  | ok a =>
    rw [andThen_ok ha]
    unfold Quiet at h ⊢
    rw [List.countP_append, h, hn a r.state]

end Run

theorem Spline.quiet_call (config : Config) (s : Spline Float) (c : Call) :
    (s.call config c).Quiet := by
  by_cases h : ∃ parameter value e, c = .insert parameter value e
  · obtain ⟨parameter, value, extension, rfl⟩ := h
    cases extension with
    | error f => exact Run.quiet_fail s f
    | ok e =>
      refine Run.quiet_of_logs (logs_insertData config s parameter value e) fun e he => ?_
      cases e <;> first | rfl | cases he
  · refine Run.quiet_of_logs (logs_call config s fun p v e he => h ⟨p, v, e, he⟩) fun e he => ?_
    cases e <;> first | rfl | cases he

/-! ## What is counted -/

namespace Pool

/-- The spline that a call is about. -/
def Call.subject (p : Pool Float) : Call → Option SplineId
  | .spline i _ => some i
  | .acquire i => some i
  | .release i => some i
  | .destroy i => some i
  | .copy i => some i
  | .editConfig i _ _ => some i
  | .openHandle target _ => target
  | .share h => (p.held h).toOption
  | .copyHandle h => (p.held h).toOption
  | .close h => (p.held h).toOption
  | .make _ _ => none
  | .create _ _ => none
  | .setDefault _ => none

/-- Does a call make spline `j`? -/
def Call.makes (p : Pool Float) (c : Call) (j : SplineId) : Bool :=
  p.splines.length == j && (p.call c).state.splines.length == j + 1

def makings (j : SplineId) (p : Pool Float) (c : Call) : Nat := if c.makes p j then 1 else 0

/-- The owners with which a call makes a spline. -/
def Call.firstOwners : Call → Nat
  | .make _ _ => 0
  | _ => 1

/-- The owners that spline `j` is made with, in the call that makes it. -/
def issues (j : SplineId) (p : Pool Float) (c : Call) : Nat :=
  if c.makes p j then c.firstOwners else 0

def acquisitions (j : SplineId) (p : Pool Float) (c : Call) : Nat :=
  if c.acquired p = some j ∧ c.succeeds p then 1 else 0

def releases (j : SplineId) (p : Pool Float) (c : Call) : Nat :=
  if c.released p = some j ∧ c.succeeds p then 1 else 0

def teardowns (j : SplineId) (p : Pool Float) (c : Call) : Nat :=
  if c.subject p = some j then (p.call c).events.countP Event.isTeardown else 0

/-- Does a call end the life of spline `j`? -/
def Call.Ends (p : Pool Float) (c : Call) (j : SplineId) (s : Spline Float) : Prop :=
  s.destroyed = false ∧ (c = .destroy j ∨ c.released p = some j ∧ s.owners ≤ 1)

section Teardowns

variable {p : Pool Float} {c : Call} {j : SplineId} {s : Spline Float}

theorem quiet_on {α : Type} (i : SplineId)
    {operation : Config → Spline Float → Run Float (Spline Float) α}
    (h : ∀ config s, (operation config s).Quiet) : (p.on i operation).Quiet := by
  unfold on
  split
  · exact Run.quiet_fail p _
  · exact h _ _

theorem quiet_acquire (i : SplineId) : (p.acquire i).Quiet := by
  refine quiet_on i fun config s => ?_
  split
  · exact Run.quiet_fail s _
  · rfl

theorem quiet_openHandle (target : Option SplineId) (adopt : Bool) :
    (p.openHandle target adopt).Quiet := by
  refine Run.quiet_andThen ?_ fun _ _ => rfl
  split
  · split
    · rfl
    · exact quiet_acquire _
  · rfl

theorem quiet_clone (i : SplineId) : (p.clone i).Quiet := by
  rcases p.clone_eq i with ⟨f, h⟩ | ⟨s, -, -, h⟩
  · rw [h]; rfl
  · rw [h]; rfl

/-- Only destroying a spline or giving a reference back can tear one down. -/
theorem quiet_call (hd : ∀ i, c ≠ .destroy i) (hr : ∀ i, c ≠ .release i)
    (hc : ∀ h, c ≠ .close h) : (p.call c).Quiet := by
  cases c with
  | make kind config =>
    rcases p.make_eq kind config with ⟨f, h⟩ | h
    · simp [call, h, Run.Quiet, Run.map, Run.fail]
    · simp [call, h, Run.Quiet, Run.map, Event.isTeardown]
  | create kind config =>
    rcases p.create_eq kind config with ⟨f, h⟩ | h
    · simp [call, h, Run.Quiet, Run.map, Run.fail]
    · simp [call, h, Run.Quiet, Run.map, Event.isTeardown]
  | copy i => exact quiet_clone i
  | spline i d => exact quiet_on i fun config s => s.quiet_call config d
  | acquire i => exact quiet_acquire i
  | release i => exact absurd rfl (hr i)
  | destroy i => exact absurd rfl (hd i)
  | openHandle target adopt => exact quiet_openHandle target adopt
  | share h => exact Run.quiet_andThen (Run.quiet_ask p _) fun _ _ => quiet_openHandle _ _
  | copyHandle h =>
    exact Run.quiet_andThen (Run.quiet_ask p _) fun i _ =>
      Run.quiet_andThen (quiet_clone i) fun _ _ => quiet_openHandle _ _
  | close h => exact absurd rfl (hc h)
  | setDefault config =>
    refine Run.quiet_map ?_ _
    unfold setDefault
    dsimp only
    split <;> rfl
  | editConfig i key d =>
    simp only [call]
    split <;> rfl

theorem teardowns_of_quiet (j : SplineId) (h : (p.call c).Quiet) : teardowns j p c = 0 := by
  unfold teardowns
  split
  · exact h
  · rfl

theorem events_release (hs : p.splines[j]? = some s) :
    (p.release j).events.countP Event.isTeardown =
      if s.destroyed = false ∧ s.owners ≤ 1 then 1 else 0 := by
  cases ha : s.destroyed with
  | true => simp [release_dead p hs ha, Run.fail]
  | false =>
    by_cases hn : 1 < s.owners
    · simp [release_shared p hs ha hn, Nat.not_le.2 hn]
    · simp [release_last p hs ha (Nat.not_lt.1 hn), Nat.not_lt.1 hn, Event.isTeardown]

theorem events_destroy (hs : p.splines[j]? = some s) :
    (p.destroy j).events.countP Event.isTeardown = if s.destroyed = false then 1 else 0 := by
  cases ha : s.destroyed with
  | true => simp [destroy_dead p hs ha, Event.isTeardown]
  | false =>
    rw [destroy_live p hs ha]
    unfold sharedWarning
    split <;> simp [Event.isTeardown]

theorem subject_of_released {i : SplineId} (h : c.released p = some i) : c.subject p = some i := by
  cases c with
  | release k => exact h
  | close k => exact h
  | _ => cases h

/-- A call that is neither a release nor a closing handle nor a destruction of spline `j` does
not tear it down. -/
theorem teardowns_eq_zero (hd : c ≠ .destroy j) (hr : c.released p ≠ some j) :
    teardowns j p c = 0 := by
  cases c with
  | destroy i => exact if_neg fun h => hd (by cases h; rfl)
  | release i => exact if_neg hr
  | close h => exact if_neg hr
  | _ => exact teardowns_of_quiet j (quiet_call nofun nofun nofun)

/-- A spline is torn down by the call that ends its life, once. -/
theorem teardowns_of_ends (hs : p.splines[j]? = some s) (h : c.Ends p j s) :
    teardowns j p c = 1 := by
  obtain ⟨ha, rfl | ⟨hr, hn⟩⟩ := h
  · exact (if_pos rfl).trans ((events_destroy hs).trans (if_pos ha))
  · unfold teardowns
    rw [if_pos (subject_of_released hr), (call_of_released hr).2.2, events_release hs,
      if_pos ⟨ha, hn⟩]

/-- No other call tears it down. -/
theorem teardowns_of_not_ends (hs : p.splines[j]? = some s) (h : ¬ c.Ends p j s) :
    teardowns j p c = 0 := by
  by_cases hd : c = .destroy j
  · have ha : s.destroyed ≠ false := fun ha => h ⟨ha, .inl hd⟩
    subst hd
    exact (if_pos rfl).trans ((events_destroy hs).trans (if_neg ha))
  · by_cases hr : c.released p = some j
    · unfold teardowns
      rw [if_pos (subject_of_released hr), (call_of_released hr).2.2, events_release hs, if_neg]
      exact fun ⟨ha, hn⟩ => h ⟨ha, .inr ⟨hr, hn⟩⟩
    · exact teardowns_eq_zero hd hr

end Teardowns

/-! ## The balance -/

/-- What was counted about a spline. -/
structure Account where
  made : Nat
  /-- The owners it was made with. -/
  issued : Nat
  acquired : Nat
  released : Nat
  torn : Nat

/-- Adds what a call does about spline `j`. -/
def Account.enter (a : Account) (j : SplineId) (p : Pool Float) (c : Call) : Account where
  made := a.made + makings j p c
  issued := a.issued + issues j p c
  acquired := a.acquired + acquisitions j p c
  released := a.released + releases j p c
  torn := a.torn + teardowns j p c

/-- The account of a live spline adds up to its owners; a destroyed one has no owners, and one
teardown. -/
structure Account.Balanced (a : Account) (s : Spline Float) : Prop where
  made : a.made = 1
  issued : a.issued ≤ 1
  live : s.destroyed = false →
    s.owners + a.released = a.issued + a.acquired ∧ a.issued ≤ s.owners ∧ a.torn = 0
  dead : s.destroyed = true → s.owners = 0 ∧ a.torn = 1

/-- Nothing is counted about a spline before it is made. -/
def Account.Blank (a : Account) : Prop :=
  a.made = 0 ∧ a.issued = 0 ∧ a.acquired = 0 ∧ a.released = 0 ∧ a.torn = 0

/-- The account of spline `j` is in keeping with the pool. -/
def Account.Fits (a : Account) (j : SplineId) (p : Pool Float) : Prop :=
  (p.splines[j]? = none → a.Blank) ∧ ∀ s, p.splines[j]? = some s → a.Balanced s

/-- The account of spline `j` after some calls. -/
def account (j : SplineId) (cs : List Call) : Account where
  made := fresh.tally (makings j) cs
  issued := fresh.tally (issues j) cs
  acquired := fresh.tally (acquisitions j) cs
  released := fresh.tally (releases j) cs
  torn := fresh.tally (teardowns j) cs

theorem account_concat (j : SplineId) (cs : List Call) (c : Call) :
    account j (cs ++ [c]) = (account j cs).enter j (fresh.after cs) c := by
  simp only [account, Account.enter, tally_concat]

section Balance

variable {p : Pool Float} {c : Call} {j : SplineId} {s t : Spline Float} {a : Account}

theorem makes_of_some (hs : p.splines[j]? = some s) : c.makes p j = false := by
  have hlt := (List.getElem?_eq_some_iff.1 hs).1
  have hne : (p.splines.length == j) = false := beq_false_of_ne (Nat.ne_of_gt hlt)
  rw [Call.makes, hne, Bool.false_and]

theorem acquisitions_eq_zero (h : c.acquired p ≠ some j) : acquisitions j p c = 0 :=
  if_neg fun ha => h ha.1

theorem releases_eq_zero (h : c.released p ≠ some j) : releases j p c = 0 :=
  if_neg fun ha => h ha.1

theorem makes_of_new (hs : p.splines[j]? = none) (ht : (p.call c).state.splines[j]? = some t) :
    c.makes p j = true := by
  have hge : p.splines.length ≤ j := List.getElem?_eq_none_iff.1 hs
  have hlt := (List.getElem?_eq_some_iff.1 ht).1
  rcases p.splines_call c with h | ⟨u, -, -, -, h, -⟩
  · omega
  · rw [h, List.length_append, List.length_singleton] at hlt
    have hj : p.splines.length = j := Nat.le_antisymm hge (Nat.lt_succ_iff.1 hlt)
    simp [Call.makes, h, hj]

theorem makes_of_absent (ht : (p.call c).state.splines[j]? = none) : c.makes p j = false := by
  have hge : (p.call c).state.splines.length ≤ j := List.getElem?_eq_none_iff.1 ht
  have hne : ((p.call c).state.splines.length == j + 1) = false := beq_false_of_ne (by omega)
  rw [Call.makes, hne, Bool.and_false]

theorem enter_eq_self (hm : c.makes p j = false) (ha : acquisitions j p c = 0)
    (hr : releases j p c = 0) (ht : teardowns j p c = 0) : a.enter j p c = a := by
  simp [Account.enter, makings, issues, hm, ha, hr, ht]

/-- **One call.** The account of a spline that is there stays balanced. -/
theorem balanced_call (ha : a.Balanced s) (hs : p.splines[j]? = some s)
    (ht : (p.call c).state.splines[j]? = some t) : (a.enter j p c).Balanced t := by
  obtain ⟨u, hu, e⟩ := effect_call c hs
  rw [hu] at ht
  cases ht
  have hm : c.makes p j = false := makes_of_some hs
  have made : (a.enter j p c).made = 1 := by simp [Account.enter, makings, hm, ha.made]
  have issued : (a.enter j p c).issued ≤ 1 := by simpa [Account.enter, issues, hm] using ha.issued
  have h0 : issues j p c = 0 := by simp [issues, hm]
  -- Each effect says which of the four counts grows.
  cases e with
  | called d hc =>
    subst hc
    obtain ⟨-, -, ho, hd⟩ := (Spline.change_call (p.config s.config) s d).same
    rw [enter_eq_self hm (acquisitions_eq_zero nofun) (releases_eq_zero nofun)
      (teardowns_eq_zero nofun nofun)]
    exact ⟨ha.made, ha.issued, by rw [ho, hd]; exact ha.live, by rw [ho, hd]; exact ha.dead⟩
  | acquired hc halive hok =>
    have hrel : c.released p ≠ some j := by simp [released_of_acquired hc]
    have h1 : acquisitions j p c = 1 := if_pos ⟨hc, hok⟩
    have h2 : releases j p c = 0 := releases_eq_zero hrel
    have h3 : teardowns j p c = 0 := teardowns_eq_zero (ne_destroy_of_acquired hc j) hrel
    obtain ⟨hb, hle, htorn⟩ := ha.live halive
    refine ⟨made, issued, fun _ => ?_, fun h => ?_⟩
    · simp only [Account.enter, h0, h1, h2, h3]
      omega
    · rw [show s.destroyed = true from h] at halive; cases halive
  | released hc halive hn hok =>
    have hacq : c.acquired p ≠ some j := fun h => by rw [released_of_acquired h] at hc; cases hc
    have h1 : acquisitions j p c = 0 := acquisitions_eq_zero hacq
    have h2 : releases j p c = 1 := if_pos ⟨hc, p.succeeds_of_ok hok⟩
    have h3 : teardowns j p c = 0 := by
      refine teardowns_of_not_ends hs ?_
      rintro ⟨-, h | ⟨-, h⟩⟩
      · exact ne_destroy_of_released hc j h
      · omega
    obtain ⟨hb, hle, htorn⟩ := ha.live halive
    have hi := ha.issued
    refine ⟨made, issued, fun _ => ?_, fun h => ?_⟩
    · simp only [Account.enter, h0, h1, h2, h3]
      omega
    · rw [show s.destroyed = true from h] at halive; cases halive
  | ended hc halive hn hok =>
    have h3 : teardowns j p c = 1 := teardowns_of_ends hs ⟨halive, .inr ⟨hc, hn⟩⟩
    obtain ⟨-, -, htorn⟩ := ha.live halive
    exact ⟨made, issued, nofun,
      fun _ => ⟨rfl, by simp [Account.enter, h3, htorn]⟩⟩
  | refused hc hdead hok =>
    have hne : ¬ c.succeeds p = true := by simp [hok]
    rw [enter_eq_self hm (if_neg fun h => hne h.2) (if_neg fun h => hne h.2)
      (teardowns_of_not_ends hs fun h => by rw [h.1] at hdead; cases hdead)]
    exact ha
  | destroyed hc halive =>
    have h3 : teardowns j p c = 1 := teardowns_of_ends hs ⟨halive, .inl hc⟩
    obtain ⟨-, -, htorn⟩ := ha.live halive
    exact ⟨made, issued, nofun,
      fun _ => ⟨rfl, by simp [Account.enter, h3, htorn]⟩⟩
  | destroyedAgain hc hdead =>
    subst hc
    rw [enter_eq_self hm (acquisitions_eq_zero nofun) (releases_eq_zero nofun)
      (teardowns_of_not_ends hs fun h => by rw [h.1] at hdead; cases hdead)]
    exact ha
  | untouched hc hacq hrel hdes =>
    rw [enter_eq_self hm (acquisitions_eq_zero hacq) (releases_eq_zero hrel)
      (teardowns_eq_zero hdes hrel)]
    exact ha

/-- Nothing happens about a spline that is not there. -/
theorem counts_of_none (hs : p.splines[j]? = none) :
    acquisitions j p c = 0 ∧ releases j p c = 0 ∧ teardowns j p c = 0 := by
  obtain ⟨hacq, hrel, hdes⟩ := owners_of_none p hs
  refine ⟨if_neg ?_, if_neg ?_, ?_⟩
  · rintro ⟨h, hok⟩
    rw [(call_of_acquired h).2, hacq] at hok
    cases hok
  · rintro ⟨h, hok⟩
    rw [Call.succeeds, (call_of_released h).2.1, hrel] at hok
    cases hok
  · by_cases hr : c.released p = some j
    · refine teardowns_of_quiet j ?_
      unfold Run.Quiet
      rw [(call_of_released hr).2.2, hrel]
      rfl
    · by_cases hd : c = .destroy j
      · subst hd
        refine teardowns_of_quiet j ?_
        unfold Run.Quiet
        rw [show p.call (.destroy j) = (p.destroy j).map fun _ => .nothing from rfl, hdes]
        rfl
      · exact teardowns_eq_zero hd hr

theorem balanced_made (ha : a.Blank) (hs : p.splines[j]? = none)
    (ht : (p.call c).state.splines[j]? = some t) : (a.enter j p c).Balanced t := by
  obtain ⟨hm0, h0, h1, h2, h3⟩ := ha
  obtain ⟨n1, n2, n3⟩ := counts_of_none (c := c) hs
  obtain ⟨rfl, -, _, hm, -⟩ := p.made_call hs ht
  have hmakes : c.makes p p.splines.length = true := makes_of_new hs ht
  have hissued : issues p.splines.length p c = c.firstOwners := if_pos hmakes
  have key : c.firstOwners ≤ 1 ∧ t.owners = c.firstOwners ∧ t.destroyed = false := by
    cases hm with
    | made hc => subst hc; exact ⟨Nat.zero_le 1, rfl, rfl⟩
    | created hc => subst hc; exact ⟨Nat.le_refl 1, rfl, rfl⟩
    | copied hc _ halive =>
      cases c with
      | copy i => exact ⟨Nat.le_refl 1, rfl, halive⟩
      | copyHandle h => exact ⟨Nat.le_refl 1, rfl, halive⟩
      | _ => cases hc
  obtain ⟨hle, ho, hd⟩ := key
  refine ⟨?_, ?_, fun _ => ?_, fun h => by rw [hd] at h; cases h⟩
  · simp [Account.enter, makings, hmakes, hm0]
  · simpa only [Account.enter, h0, hissued, Nat.zero_add] using hle
  · simp only [Account.enter, h0, h1, h2, h3, hissued, n1, n2, n3, ho]
    exact ⟨by omega, by omega, trivial⟩

theorem blank_call (ha : a.Blank) (hs : p.splines[j]? = none)
    (ht : (p.call c).state.splines[j]? = none) : (a.enter j p c).Blank := by
  obtain ⟨n1, n2, n3⟩ := counts_of_none (c := c) hs
  rw [enter_eq_self (makes_of_absent ht) n1 n2 n3]
  exact ha

/-- A call keeps the account of a spline in keeping with the pool. -/
theorem fits_call (ha : a.Fits j p) (c : Call) : (a.enter j p c).Fits j (p.call c).state := by
  cases hs : p.splines[j]? with
  | none => exact ⟨fun ht => blank_call (ha.1 hs) hs ht, fun t ht => balanced_made (ha.1 hs) hs ht⟩
  | some s =>
    obtain ⟨t, ht, -⟩ := effect_call c hs
    refine ⟨fun h => ?_, fun u hu => balanced_call (ha.2 s hs) hs hu⟩
    rw [ht] at h; cases h

end Balance

/-- **Runs.** The accounts are in keeping with the pool after any calls. -/
theorem fits_after (cs : List Call) (j : SplineId) : (account j cs).Fits j (fresh.after cs) := by
  induction cs using List.reverseRecOn with
  | nil => exact ⟨fun _ => by simp [Account.Blank, account], fun _ h => by cases h⟩
  | append_singleton cs c ih =>
    rw [account_concat, after_append]
    exact fits_call ih c

/-- **Owners.** A spline is made once. While it is live, its owners are those it was made with,
one at most, and one for each reference that was taken and not given back; one that was made
with an owner still has one; it was never torn down. The reference that is given back last, with
one owner or none before, is answered with true. A spline that is not live was torn down once,
and whatever call comes next tears it down exactly if it ends its life. -/
theorem owners_after {cs : List Call} {j : SplineId} {s : Spline Float}
    (hs : (fresh.after cs).splines[j]? = some s) :
    fresh.tally (makings j) cs = 1 ∧ fresh.tally (issues j) cs ≤ 1 ∧
    (s.destroyed = false →
      (s.owners : Int) = fresh.tally (issues j) cs + fresh.tally (acquisitions j) cs
          - fresh.tally (releases j) cs ∧
      (fresh.tally (issues j) cs = 1 → 1 ≤ s.owners) ∧
      fresh.tally (teardowns j) cs = 0 ∧
      ((fresh.after cs).release j).answer = .ok (decide (s.owners ≤ 1))) ∧
    (s.destroyed = true → fresh.tally (teardowns j) cs = 1) ∧
    ∀ c, (c.Ends (fresh.after cs) j s → teardowns j (fresh.after cs) c = 1) ∧
      (¬ c.Ends (fresh.after cs) j s → teardowns j (fresh.after cs) c = 0) := by
  obtain ⟨made, issued, live, dead⟩ := (fits_after cs j).2 s hs
  refine ⟨made, issued, fun ha => ?_, fun hd => (dead hd).2,
    fun c => ⟨teardowns_of_ends hs, teardowns_of_not_ends hs⟩⟩
  obtain ⟨sum, first, torn⟩ := live ha
  simp only [account] at sum first torn
  refine ⟨by omega, fun h => by omega, torn, ?_⟩
  by_cases hn : 1 < s.owners
  · rw [release_shared _ hs ha hn]
    simp [Nat.not_le.2 hn]
  · rw [release_last _ hs ha (Nat.not_lt.1 hn)]
    simp [Nat.not_lt.1 hn]

/-- A spline with two owners that has lost one: the other one still holds it, and destroying it
is its first teardown. -/
theorem owners_after_close :
    let cs : List Call := [.create .linear none, .openHandle (some 0) false, .close 0]
    ∃ s, (fresh.after cs).splines[0]? = some s ∧ s.destroyed = false ∧
      (s.owners : Int) = fresh.tally (issues 0) cs + fresh.tally (acquisitions 0) cs
        - fresh.tally (releases 0) cs ∧
      fresh.tally (acquisitions 0) cs = 1 ∧ fresh.tally (releases 0) cs = 1 ∧
      ((fresh.after cs).release 0).answer = .ok (decide (s.owners ≤ 1)) ∧
      teardowns 0 (fresh.after cs) (.destroy 0) = 1 := by
  intro cs
  obtain ⟨s, hs⟩ : ∃ s, (fresh.after cs).splines[0]? = some s :=
    Option.isSome_iff_exists.1 (by decide +kernel)
  have ha : s.destroyed = false := by
    have h : (fresh.after cs).splines[0]?.map (·.destroyed) = some false := by decide +kernel
    simpa [hs] using h
  obtain ⟨-, -, live, -, next⟩ := owners_after hs
  obtain ⟨count, -, -, answer⟩ := live ha
  exact ⟨s, hs, ha, count, by decide +kernel, by decide +kernel, answer,
    (next (.destroy 0)).1 ⟨ha, .inl rfl⟩⟩

end Pool

end CurveKit
