import CurveKit.Proofs.Pool.Owners

/-!
# Handles as owners

A caller who leaves the counting of owners to handles makes splines for himself, lets
one handle adopt his own reference or gives it back, opens and closes handles as he
likes, and destroys nothing. Then the owners of a spline are the open handles on it,
and its creator as long as he holds his own reference.

`Accounted` is that equation, together with the life of the spline: it is destroyed
once nobody is left, by the call that was answered with true.

Results:
* `references_call`: how a call changes the number of references to a spline.
* `accounted_call`, `kept_after`: the equation holds along every disciplined run.
* `handles_after`, `state_within`: a handle stays on its spline until it is closed, which
  leaving a block does.
* `owners_eq_handles`: what the equation says about open handles, copies and the last close.
-/
namespace CurveKit.Pool

/-! ## Disciplined runs -/

namespace Call

/-- Is the spline that a call makes one that the caller owns himself? -/
def creates : Call → Bool
  | .create _ _ => true
  | .copy _ => true
  | _ => false

/-- Is a call one that makes a spline, if it succeeds? -/
def mayMake : Call → Bool
  | .make _ _ => true
  | .create _ _ => true
  | .copy _ => true
  | .copyHandle _ => true
  | _ => false

def handed : Call → Option SplineId
  | .release i => some i
  | .openHandle (some i) true => some i
  | _ => none

def closes (p : Pool Float) : Call → Option SplineId
  | .close h => (p.held h).toOption
  | _ => none

/-- What a disciplined caller may do: he counts no owners by hand, and hands over a reference of
his own only if he still holds it. -/
structure Allowed (holds : SplineId → Bool) (c : Call) : Prop where
  owned : ∀ kind config, c ≠ .make kind config
  uncounted : ∀ i, c ≠ .acquire i
  spared : ∀ i, c ≠ .destroy i
  own : ∀ i, c.handed = some i → holds i = true

end Call

/-- Does the creator of spline `j` hold his own reference after a call? -/
def keeps (j : SplineId) (p : Pool Float) (c : Call) (holds : Bool) : Bool :=
  (holds || (c.creates && c.makes p j)) && c.handed != some j

/-- Does the creator of spline `j` hold his own reference after some calls? -/
def creatorHolds (j : SplineId) (cs : List Call) : Bool := fresh.follow (keeps j) false cs

/-- Runs in which every call is one that a disciplined caller may do. -/
inductive Disciplined : List Call → Prop
  | start : Disciplined []
  | step {cs : List Call} {c : Call} (before : Disciplined cs)
      (allowed : c.Allowed fun j => creatorHolds j cs) : Disciplined (cs ++ [c])

/-- Open handles on spline `j`, and one more if its creator still holds his own reference. -/
def references (j : SplineId) (cs : List Call) : Nat :=
  (fresh.after cs).handles.count (some j) + (creatorHolds j cs).toNat

/-- Calls that give a reference to spline `j` back and are told that it was the last one. -/
def endings (j : SplineId) (p : Pool Float) (c : Call) : Nat :=
  match (p.call c).answer with
  | .ok (.flag true) => if c.released p = some j then 1 else 0
  | _ => 0

/-! ## How the references change -/

section References

variable {p : Pool Float} {c : Call} {j : SplineId} {s t : Spline Float} {own : Bool}

theorem count_close (p : Pool Float) (h : HandleId) (j : SplineId) :
    (p.close h).state.handles.count (some j) + (if (p.held h).toOption = some j then 1 else 0) =
      p.handles.count (some j) := by
  rw [handles_close]
  simp only [held_toOption]
  cases hh : p.handles[h]? with
  | none => simp [List.set_eq_of_length_le (List.getElem?_eq_none_iff.1 hh)]
  | some x =>
    obtain ⟨hlt, rfl⟩ := List.getElem?_eq_some_iff.1 hh
    rw [List.count_set hlt]
    by_cases hx : p.handles[h] = some j
    · have hpos : 0 < p.handles.count (some j) :=
        List.count_pos_iff.2 (hx ▸ List.getElem_mem hlt)
      simp only [hx, beq_self_eq_true, if_true, Option.none_beq_some, Bool.false_eq_true, if_false]
      omega
    · simp [hx]

theorem makes_eq_false (h : c.mayMake = false) : c.makes p j = false := by
  rcases p.splines_call c with hl | ⟨t, _, ht, -, -, -⟩
  · by_cases hj : p.splines.length = j
    · simp [Call.makes, hl, hj]
    · rw [Call.makes, beq_false_of_ne hj, Bool.false_and]
  · cases ht with
    | made hc => subst hc; cases h
    | created hc => subst hc; cases h
    | copied hc =>
      cases c with
      | copy i => cases h
      | copyHandle k => cases h
      | _ => cases hc

theorem makes_copyHandle (p : Pool Float) (h : HandleId) (j : SplineId) :
    (Call.copyHandle h).makes p j =
      (p.splines.length == j && (Call.copyHandle h).succeeds p) := by
  by_cases hj : p.splines.length = j
  · cases hh : p.held h with
    | error f => simp [Call.makes, Call.succeeds, call, cloneHandle_of_not_held hh, Run.map,
        Run.fail, Except.map, Except.isOk, Except.toBool, hj]
    | ok i =>
      rcases p.clone_eq i with ⟨f, hc⟩ | ⟨s, -, -, hc⟩
      · simp [Call.makes, Call.succeeds, call, cloneHandle_of_held hh, hc, Run.map, Run.andThen,
          Run.fail, Except.map, Except.isOk, Except.toBool, hj]
      · simp [Call.makes, Call.succeeds, call, cloneHandle_of_held hh, hc, Run.map, Run.andThen,
          openHandle, Run.done, Except.map, Except.isOk, Except.toBool]
  · rw [Call.makes, beq_false_of_ne hj, Bool.false_and, Bool.false_and]

theorem count_call (p : Pool Float) (c : Call) (j : SplineId) :
    (p.call c).state.handles.count (some j) + (if c.closes p = some j then 1 else 0) =
      p.handles.count (some j) + (c.opens p).count (some j) := by
  by_cases hc : ∃ h, c = .close h
  · obtain ⟨h, rfl⟩ := hc
    have h0 : (Call.close h).opens p = [] := by simp [Call.opens]
    rw [h0]
    exact count_close p h j
  · have hne : ∀ h, c ≠ .close h := fun h he => hc ⟨h, he⟩
    have h0 : c.closes p = none := by
      cases c with
      | close h => exact absurd rfl (hne h)
      | _ => rfl
    rw [handles_call p c hne, List.count_append, h0]
    rfl

theorem count_opens (p : Pool Float) (j : SplineId) {target : Option SplineId}
    (h : c.opens p = if c.succeeds p then [target] else []) :
    (c.opens p).count (some j) = if target = some j ∧ c.succeeds p = true then 1 else 0 := by
  rw [h]
  by_cases hs : c.succeeds p = true
  · by_cases ht : target = some j
    · simp [hs, ht]
    · simp [hs, ht]
  · simp [hs]

/-- What a call adds to the reference that the creator of spline `j` holds, and what it takes. -/
theorem keeps_call (hc : c.handed = some j → own = true) (hn : c.makes p j = true → own = false) :
    (keeps j p c own).toNat + (if c.handed = some j then 1 else 0) =
      own.toNat + if c.creates = true ∧ c.makes p j = true then 1 else 0 := by
  unfold keeps
  by_cases hh : c.handed = some j
  · have hcr : c.creates = false := by
      cases c with
      | create kind config => cases hh
      | copy i => cases hh
      | _ => rfl
    simp [hh, hc hh, hcr]
  · have hb : (c.handed != some j) = true := bne_iff_ne.2 hh
    by_cases hm : c.makes p j = true
    · rw [hb, hn hm, hm, if_neg hh]
      cases c.creates <;> rfl
    · simp [hh, hm, hb]

/-- **One call.** A call that a disciplined caller may do adds a reference to spline `j` if it
takes one or makes the spline, and removes one if it gives one back. Nothing else moves
references, adopting one only hands it over. -/
theorem references_call {holds : SplineId → Bool} (hc : c.Allowed holds)
    (hn : c.makes p j = true → holds j = false) :
    (p.call c).state.handles.count (some j) + (keeps j p c (holds j)).toNat +
        (if c.released p = some j then 1 else 0) =
      p.handles.count (some j) + (holds j).toNat + acquisitions j p c + makings j p c := by
  have count := count_call p c j
  have keep := keeps_call (fun hh => hc.own j hh) hn
  have unmade : c.mayMake = false → c.makes p j = false := makes_eq_false
  unfold acquisitions makings
  cases c with
  | make kind config => exact absurd rfl (hc.owned kind config)
  | acquire i => exact absurd rfl (hc.uncounted i)
  | destroy i => exact absurd rfl (hc.spared i)
  -- The creator of the new spline owns it.
  | create _ _ | copy _ =>
    simp [Call.opens, Call.closes, Call.handed, Call.creates, Call.released, Call.acquired]
      at count keep ⊢
    omega
  -- A released reference was the creator's own; the other calls move none.
  | release _ | spline _ _ | setDefault _ | editConfig _ _ _ =>
    simp [Call.opens, Call.closes, Call.handed, Call.creates, Call.released, Call.acquired,
      unmade rfl] at count keep ⊢
    omega
  | close h =>
    by_cases hh : (p.held h).toOption = some j
    · simp [Call.opens, Call.closes, Call.handed, Call.creates, Call.released, Call.acquired,
        unmade rfl, hh] at count keep ⊢
      omega
    · simp [Call.opens, Call.closes, Call.handed, Call.creates, Call.released, Call.acquired,
        unmade rfl, hh] at count keep ⊢
      omega
  -- The remaining calls open a handle.
  | copyHandle h =>
    rw [count_opens p j rfl] at count
    simp [Call.closes, Call.handed, Call.creates, Call.released, Call.acquired, makes_copyHandle]
      at count keep ⊢
    omega
  | share h =>
    rw [count_opens p j rfl] at count
    by_cases hh : (p.held h).toOption = some j
    · simp [Call.closes, Call.handed, Call.creates, Call.released, Call.acquired, unmade rfl, hh]
        at count keep ⊢
      omega
    · simp [Call.closes, Call.handed, Call.creates, Call.released, Call.acquired, unmade rfl, hh]
        at count keep ⊢
      omega
  | openHandle target adopt =>
    rw [count_opens p j rfl] at count
    cases target with
    | none =>
      simp [Call.closes, Call.handed, Call.creates, Call.released, Call.acquired, unmade rfl]
        at count keep ⊢
      omega
    | some i =>
      cases adopt with
      | true =>
        have hs : (Call.openHandle (some i) true).succeeds p = true := rfl
        simp [Call.closes, Call.handed, Call.creates, Call.released, Call.acquired, unmade rfl, hs]
          at count keep ⊢
        omega
      | false =>
        simp [Call.closes, Call.handed, Call.creates, Call.released, Call.acquired, unmade rfl]
          at count keep ⊢
        omega

end References

/-! ## The equation -/

/-- The owners of a spline are the references to it, it is destroyed when there are none, and as
often as it is destroyed a caller was told that his reference was the last one. -/
structure Accounted (s : Spline Float) (references ended : Nat) : Prop where
  owners : s.owners = references
  life : s.destroyed = true ↔ references = 0
  ended : ended = if s.destroyed then 1 else 0

/-- Nobody has a reference to a spline that is not there, and the owners of one that is there are
accounted for. -/
structure Kept (j : SplineId) (p : Pool Float) (holds : Bool) (ended : Nat) : Prop where
  absent : p.splines[j]? = none → p.handles.count (some j) + holds.toNat = 0 ∧ ended = 0
  present : ∀ s, p.splines[j]? = some s →
    Accounted s (p.handles.count (some j) + holds.toNat) ended

section Steps

variable {p : Pool Float} {c : Call} {j : SplineId} {s t : Spline Float} {holds : SplineId → Bool}
  {ended : Nat}

theorem endings_eq_zero (h : c.released p ≠ some j) : endings j p c = 0 := by
  unfold endings
  split
  · exact if_neg h
  · rfl

/-- **One call.** The owners of a spline that is there stay accounted for. -/
theorem accounted_call (hc : c.Allowed holds)
    (ha : Accounted s (p.handles.count (some j) + (holds j).toNat) ended)
    (hs : p.splines[j]? = some s) (ht : (p.call c).state.splines[j]? = some t) :
    Accounted t ((p.call c).state.handles.count (some j) + (keeps j p c (holds j)).toNat)
      (ended + endings j p c) := by
  have hm : c.makes p j = false := makes_of_some hs
  have refs := references_call (p := p) (j := j) hc (by simp [hm])
  simp only [makings, hm, Bool.false_eq_true, if_false, Nat.add_zero] at refs
  obtain ⟨u, hu, e⟩ := effect_call c hs
  rw [hu] at ht
  cases ht
  obtain ⟨owners, life, hend⟩ := ha
  cases e with
  | called d h =>
    subst h
    obtain ⟨-, -, ho, hd⟩ := (Spline.change_call (p.config s.config) s d).same
    have h0 : acquisitions j p (.spline j d) = 0 := by simp [acquisitions, Call.acquired]
    have hr : (Call.spline j d).released p ≠ some j := by simp [Call.released]
    rw [h0, if_neg hr, Nat.add_zero, Nat.add_zero] at refs
    rw [refs, endings_eq_zero hr, Nat.add_zero]
    exact ⟨by rw [ho, owners], by rw [hd]; exact life, by rw [hd]; exact hend⟩
  | acquired h halive hok =>
    have hr : c.released p ≠ some j := by simp [released_of_acquired h]
    have h1 : acquisitions j p c = 1 := if_pos ⟨h, hok⟩
    rw [h1, if_neg hr, Nat.add_zero] at refs
    rw [refs, endings_eq_zero hr, Nat.add_zero]
    exact ⟨by simp [owners], by simp [halive], hend⟩
  | released h halive hn hok =>
    have h0 : acquisitions j p c = 0 :=
      acquisitions_eq_zero fun hq => by rw [released_of_acquired hq] at h; cases h
    have h1 : endings j p c = 0 := by simp [endings, hok]
    rw [h0, if_pos h] at refs
    rw [h1]
    refine ⟨by dsimp only; omega, ?_, hend⟩
    simp only [halive, Bool.false_eq_true, false_iff]
    omega
  | ended h halive hn hok =>
    have h0 : acquisitions j p c = 0 :=
      acquisitions_eq_zero fun hq => by rw [released_of_acquired hq] at h; cases h
    have h1 : endings j p c = 1 := by simp [endings, hok, h]
    have hne : p.handles.count (some j) + (holds j).toNat ≠ 0 := by
      rw [Ne, ← life, halive]
      exact Bool.false_ne_true
    rw [h0, if_pos h] at refs
    simp only [halive, Bool.false_eq_true, if_false] at hend
    refine ⟨?_, ?_, ?_⟩
    · simp only [Spline.teardown]; omega
    · simp only [Spline.teardown, true_iff]; omega
    · simp [Spline.teardown, hend, h1]
  | refused h hdead hok =>
    have h0 : acquisitions j p c = 0 := if_neg fun hq => by simp [hok] at hq
    have hzero := life.1 hdead
    have h1 : endings j p c = 0 := by
      unfold endings
      split
      · rename_i ha; rw [Call.succeeds, ha] at hok; cases hok
      · rfl
    rw [h0] at refs
    rw [h1]
    refine ⟨by omega, ?_, hend⟩
    simp only [hdead, true_iff]
    omega
  | destroyed h _ => exact absurd h (hc.spared j)
  | destroyedAgain h _ => exact absurd h (hc.spared j)
  | untouched _ hacq hr _ =>
    rw [acquisitions_eq_zero hacq, if_neg hr, Nat.add_zero, Nat.add_zero] at refs
    rw [refs, endings_eq_zero hr]
    exact ⟨owners, life, hend⟩

theorem accounted_made (hc : c.Allowed holds)
    (ha : p.handles.count (some j) + (holds j).toNat = 0 ∧ ended = 0)
    (hs : p.splines[j]? = none) (ht : (p.call c).state.splines[j]? = some t) :
    Accounted t ((p.call c).state.handles.count (some j) + (keeps j p c (holds j)).toNat)
      (ended + endings j p c) := by
  have hm : c.makes p j = true := makes_of_new hs ht
  have hown : holds j = false := by
    cases h : holds j with
    | false => rfl
    | true => simp [h] at ha
  have refs := references_call (p := p) (j := j) hc fun _ => hown
  obtain ⟨rfl, -, _, e, -⟩ := p.made_call hs ht
  have key : c.released p = none ∧ t.owners = 1 ∧ t.destroyed = false := by
    cases e with
    | made h => exact absurd h (hc.owned _ _)
    | created h => subst h; exact ⟨rfl, rfl, rfl⟩
    | copied h _ halive =>
      cases c with
      | copy i => exact ⟨rfl, rfl, halive⟩
      | copyHandle k => exact ⟨rfl, rfl, halive⟩
      | _ => cases h
  obtain ⟨hr, ho, hd⟩ := key
  have hne : c.released p ≠ some p.splines.length := by simp [hr]
  rw [(counts_of_none hs).1, if_neg hne, ha.1, makings, if_pos hm] at refs
  rw [endings_eq_zero hne, ha.2]
  exact ⟨by omega, by simp only [hd, Bool.false_eq_true, false_iff]; omega, by simp [hd]⟩

theorem absent_call (hc : c.Allowed holds)
    (ha : p.handles.count (some j) + (holds j).toNat = 0 ∧ ended = 0)
    (hs : p.splines[j]? = none) (ht : (p.call c).state.splines[j]? = none) :
    (p.call c).state.handles.count (some j) + (keeps j p c (holds j)).toNat = 0 ∧
      ended + endings j p c = 0 := by
  have hm : c.makes p j = false := makes_of_absent ht
  have refs := references_call (p := p) (j := j) hc (by simp [hm])
  simp only [(counts_of_none hs).1, ha.1, makings, hm, Bool.false_eq_true, if_false] at refs
  have hne : c.released p ≠ some j := fun h => by rw [if_pos h] at refs; omega
  rw [endings_eq_zero hne, ha.2]
  exact ⟨by omega, rfl⟩

theorem kept_call (hc : c.Allowed holds) (h : Kept j p (holds j) ended) :
    Kept j (p.call c).state (keeps j p c (holds j)) (ended + endings j p c) := by
  cases hs : p.splines[j]? with
  | none =>
    exact ⟨fun ht => absent_call hc (h.absent hs) hs ht,
      fun t ht => accounted_made hc (h.absent hs) hs ht⟩
  | some s =>
    obtain ⟨t, ht, -⟩ := effect_call c hs
    refine ⟨fun hn => ?_, fun u hu => accounted_call hc (h.present s hs) hs hu⟩
    rw [ht] at hn; cases hn

end Steps

/-- **Runs.** Along a disciplined run the owners of every spline are accounted for. -/
theorem kept_after {cs : List Call} (h : Disciplined cs) (j : SplineId) :
    Kept j (fresh.after cs) (creatorHolds j cs) (fresh.tally (endings j) cs) := by
  induction h with
  | start => exact ⟨fun _ => ⟨rfl, rfl⟩, fun _ h => by cases h⟩
  | step before allowed ih =>
    rw [creatorHolds, follow_concat, tally_concat, after_append]
    exact kept_call allowed ih

theorem references_concat (j : SplineId) (cs : List Call) (c : Call) :
    references j (cs ++ [c]) = ((fresh.after cs).call c).state.handles.count (some j) +
      (keeps j (fresh.after cs) c (creatorHolds j cs)).toNat := by
  rw [references, creatorHolds, follow_concat, after_append]
  rfl

/-! ## Handles and blocks -/

section Handles

variable {p : Pool Float} {c : Call} {h : HandleId} {i j : SplineId} {s : Spline Float}

/-- A call leaves the handles that it does not close. -/
theorem handle_call_of_ne {k : HandleId} (hk : k < p.handles.length) (hc : c ≠ .close k) :
    (p.call c).state.handles[k]? = p.handles[k]? := by
  by_cases hl : ∃ l, c = .close l
  · obtain ⟨l, rfl⟩ := hl
    have hne : l ≠ k := fun he => hc (by rw [he])
    simp only [call, Run.state_map, handles_close]
    rw [List.getElem?_set_ne hne]
  · rw [handles_call p c fun l he => hl ⟨l, he⟩, List.getElem?_append_left hk]

theorem handle_close {k : HandleId} (hk : k < p.handles.length) :
    (p.call (.close k)).state.handles[k]? = some none := by
  simp only [call, Run.state_map, handles_close]
  exact List.getElem?_set_self hk

theorem handles_kept (c : Call) {x : Option SplineId} (hh : p.handles[h]? = some x) :
    (p.call c).state.handles[h]? = some x ∨ (p.call c).state.handles[h]? = some none := by
  have hlt := (List.getElem?_eq_some_iff.1 hh).1
  by_cases hc : c = .close h
  · right; rw [hc]; exact handle_close hlt
  · left; rw [handle_call_of_ne hlt hc]; exact hh

/-- A handle that is open after some calls is still on the spline that it was opened on. -/
theorem handles_after (ds : List Call) {x : Option SplineId} (hh : p.handles[h]? = some x) :
    (p.after ds).handles[h]? = some x ∨ (p.after ds).handles[h]? = some none := by
  induction ds generalizing p x with
  | nil => exact .inl hh
  | cons d ds ih =>
    rw [after_cons]
    rcases handles_kept d hh with hk | hk
    · exact ih hk
    · right
      rcases ih hk with hn | hn
      · exact hn
      · exact hn

theorem held_after {ds : List Call} (hh : p.handles[h]? = some (some j))
    (ha : (p.after ds).held h = .ok i) : i = j := by
  have hi := handle_of_held _ ha
  rcases handles_after ds hh with hk | hk
  · rw [hk] at hi
    simpa using hi.symm
  · rw [hk] at hi
    simp at hi

/-- A call that takes no reference to a spline, gives none back, and does nothing else with it
leaves it as it is. -/
theorem splines_untouched (hs : p.splines[j]? = some s) (hc : ∀ d, c ≠ .spline j d)
    (hacq : c.acquired p ≠ some j) (hrel : c.released p ≠ some j) (hdes : c ≠ .destroy j) :
    (p.call c).state.splines[j]? = some s := by
  obtain ⟨t, ht, e⟩ := effect_call c hs
  cases e with
  | called d h => exact absurd h (hc d)
  | acquired h _ _ => exact absurd h hacq
  | released h _ _ _ => exact absurd h hrel
  | ended h _ _ _ => exact absurd h hrel
  | refused h _ _ => exact ht
  | destroyed h _ => exact absurd h hdes
  | destroyedAgain h _ => exact absurd h hdes
  | untouched _ _ _ _ => exact ht

/-- Nothing that is done with a handle touches spline `j`. -/
def Apart (p : Pool Float) (h : HandleId) (j : SplineId) : Prop :=
  ∀ c ∈ [Call.close h, .share h, .copyHandle h], (p.call c).state.splines[j]? = p.splines[j]?

theorem apart_of_held_ne (hs : p.splines[j]? = some s) (hn : ∀ i, p.held h = .ok i → i ≠ j) :
    p.Apart h j := by
  have hne : (p.held h).toOption ≠ some j := fun he =>
    hn j (held_of_handle p ((held_toOption p).1 he)) rfl
  intro c hc
  rw [hs]
  simp only [List.mem_cons, List.not_mem_nil, or_false] at hc
  obtain rfl | rfl | rfl := hc
  · exact splines_untouched hs nofun nofun hne nofun
  · exact splines_untouched hs nofun hne nofun nofun
  · exact splines_untouched hs nofun nofun nofun nofun

theorem splines_after (ds : List Call) (hs : p.splines[j]? = some s) :
    ∃ t, (p.after ds).splines[j]? = some t := by
  induction ds generalizing p s with
  | nil => exact ⟨s, hs⟩
  | cons d ds ih =>
    obtain ⟨t, ht, -⟩ := effect_call d hs
    exact ih ht

theorem apart_of_copied (hs : p.splines[i]? = some s)
    (hok : (Call.copyHandle h).succeeds p = true) (ds : List Call) :
    (p.after (.copyHandle h :: ds)).Apart p.handles.length i := by
  have hlt := (List.getElem?_eq_some_iff.1 hs).1
  have hk : (p.call (.copyHandle h)).state.handles[p.handles.length]? =
      some (some p.splines.length) := by
    have hc : ∀ k, Call.copyHandle h ≠ .close k := nofun
    rw [handles_call p _ hc, Call.opens, if_pos hok]
    exact List.getElem?_concat_length
  obtain ⟨t, ht⟩ := splines_after (.copyHandle h :: ds) hs
  refine apart_of_held_ne ht fun j hj => ?_
  rw [held_after hk hj]
  exact Nat.ne_of_gt hlt

theorem copyHandle_source (hs : p.splines[i]? = some s) :
    (p.call (.copyHandle h)).state.splines[i]? = some s ∧
      (p.call (.copyHandle h)).state.handles.count (some i) = p.handles.count (some i) := by
  have hlt := (List.getElem?_eq_some_iff.1 hs).1
  refine ⟨splines_untouched hs nofun nofun nofun nofun, ?_⟩
  have hc : ∀ k, Call.copyHandle h ≠ .close k := nofun
  rw [handles_call p _ hc, List.count_append, count_opens p i rfl, if_neg, Nat.add_zero]
  rintro ⟨he, -⟩
  exact Nat.ne_of_gt hlt (Option.some.inj he)

/-- Leaving a block closes its handle, whatever came of the operation in the block. -/
theorem state_within {α : Type} {body : List Call} (hh : p.held h = .ok i)
    {operation : SplineId → Pool Float → Run Float (Pool Float) α}
    (hb : (operation i p).state = p.after body) :
    (p.within h operation).state = p.after (body ++ [.close h]) := by
  unfold within
  rw [hh, after_append, ← hb]
  rfl

end Handles

/-! ## What a disciplined caller can rely on -/

section Discipline

variable {cs : List Call} {c : Call} {h : HandleId} {i j : SplineId} {s : Spline Float}

/-- A spline that somebody has a reference to is there and live. -/
theorem alive_of_references (hd : Disciplined cs) (hr : references j cs ≠ 0) :
    ∃ s, (fresh.after cs).splines[j]? = some s ∧ s.destroyed = false ∧
      s.owners = references j cs := by
  have hk := kept_after hd j
  cases hs : (fresh.after cs).splines[j]? with
  | none => exact absurd (hk.absent hs).1 hr
  | some s =>
    obtain ⟨owners, life, -⟩ := hk.present s hs
    refine ⟨s, rfl, ?_, owners⟩
    cases ha : s.destroyed with
    | false => rfl
    | true => exact absurd (life.1 ha) hr

theorem references_of_held (hh : (fresh.after cs).held h = .ok i) : references i cs ≠ 0 := by
  have hpos : 0 < (fresh.after cs).handles.count (some i) :=
    List.count_pos_iff.2 (List.mem_of_getElem? (handle_of_held _ hh))
  unfold references
  omega

theorem references_of_released (hc : c.Allowed fun j => creatorHolds j cs)
    (hr : c.released (fresh.after cs) = some j) : references j cs ≠ 0 := by
  cases c with
  | release i =>
    cases hr
    have ho : creatorHolds j cs = true := hc.own j rfl
    simp [references, ho]
  | close h => exact references_of_held (held_of_handle _ ((held_toOption _).1 hr))
  | _ => cases hr

/-- Giving a reference back is answered with true exactly if it was the last one. -/
theorem answer_of_released (hd : Disciplined cs) (hc : c.Allowed fun j => creatorHolds j cs)
    (hr : c.released (fresh.after cs) = some j) :
    ((fresh.after cs).call c).answer = .ok (.flag (decide (references j (cs ++ [c]) = 0))) := by
  obtain ⟨s, hs, ha, ho⟩ := alive_of_references hd (references_of_released hc hr)
  have hm : c.makes (fresh.after cs) j = false := makes_of_some hs
  have h0 : acquisitions j (fresh.after cs) c = 0 :=
    acquisitions_eq_zero fun hq => by rw [released_of_acquired hq] at hr; cases hr
  have refs := references_call (p := fresh.after cs) (j := j) hc (by simp [hm])
  rw [if_pos hr, h0] at refs
  simp only [makings, hm, Bool.false_eq_true, if_false, ← references_concat] at refs
  rw [(call_of_released hr).2.1]
  unfold references at ho
  by_cases hn : 1 < s.owners
  · have hne : references j (cs ++ [c]) ≠ 0 := by omega
    rw [release_shared _ hs ha hn, decide_eq_false hne]
    rfl
  · have he : references j (cs ++ [c]) = 0 := by omega
    rw [release_last _ hs ha (Nat.not_lt.1 hn), decide_eq_true he]
    rfl

end Discipline

/-- **Handles.** After any disciplined run the owners of a spline are the open handles on it, and
its creator if he still holds his own reference; it is destroyed exactly when these are none.
So an open handle is on a live spline, and giving a reference back is answered with true exactly
if it was the last one, which happens once at most. Closing a closed handle does nothing, and
leaving a block does what closing its handle does. A handle on a copy has nothing to do with the
spline that was copied, whatever happens later. -/
theorem owners_eq_handles {cs : List Call} (hd : Disciplined cs) :
    (∀ j s, (fresh.after cs).splines[j]? = some s →
      s.owners = (fresh.after cs).handles.count (some j) + (creatorHolds j cs).toNat ∧
      (s.destroyed = true ↔
        (fresh.after cs).handles.count (some j) + (creatorHolds j cs).toNat = 0) ∧
      fresh.tally (endings j) cs ≤ 1) ∧
    (∀ h i, (fresh.after cs).held h = .ok i →
      ∃ s, (fresh.after cs).splines[i]? = some s ∧ s.destroyed = false) ∧
    (∀ c, c.Allowed (fun j => creatorHolds j cs) → ∀ j, c.released (fresh.after cs) = some j →
      ((fresh.after cs).call c).answer =
        .ok (.flag (decide (references j (cs ++ [c]) = 0)))) ∧
    (∀ h, (fresh.after cs).handles[h]? = some none →
      (fresh.after cs).call (.close h) = .done (fresh.after cs) (.flag false)) ∧
    (∀ (α : Type) h i body (operation : SplineId → Pool Float → Run Float (Pool Float) α),
      (fresh.after cs).held h = .ok i →
      (operation i (fresh.after cs)).state = (fresh.after cs).after body →
      ((fresh.after cs).within h operation).state = fresh.after (cs ++ (body ++ [.close h]))) ∧
    (∀ h i, (fresh.after cs).held h = .ok i →
      (Call.copyHandle h).succeeds (fresh.after cs) = true →
      (fresh.after (cs ++ [.copyHandle h])).splines[i]? = (fresh.after cs).splines[i]? ∧
      references i (cs ++ [.copyHandle h]) = references i cs ∧
      ∀ ds, (fresh.after (cs ++ .copyHandle h :: ds)).Apart (fresh.after cs).handles.length i) := by
  refine ⟨fun j s hs => ?_, fun h i hh => ?_, fun c hc j hr => answer_of_released hd hc hr,
    fun h hh => ?_, fun α h i body operation hh hb => ?_, fun h i hh hok => ?_⟩
  · obtain ⟨owners, life, ended⟩ := (kept_after hd j).present s hs
    refine ⟨owners, life, ?_⟩
    rw [ended]
    split <;> omega
  · obtain ⟨s, hs, ha, -⟩ := alive_of_references hd (references_of_held hh)
    exact ⟨s, hs, ha⟩
  · simp [call, close, hh, Run.map, Run.done, Except.map]
  · rw [after_append]
    exact state_within hh hb
  · obtain ⟨s, hs, -, -⟩ := alive_of_references hd (references_of_held hh)
    obtain ⟨hsame, hcount⟩ := copyHandle_source (h := h) hs
    have hm : (Call.copyHandle h).makes (fresh.after cs) i = false := makes_of_some hs
    refine ⟨?_, ?_, fun ds => ?_⟩
    · rw [hs, after_append]
      exact hsame
    · have hh : ((Call.copyHandle h).handed != some i) = true := rfl
      rw [references_concat, hcount, references, keeps, hm, hh, Bool.and_false, Bool.or_false,
        Bool.and_true]
    · rw [after_append]
      exact apart_of_copied hs hok ds

/-- Two handles on a spline and one on a copy of it: the second one to be closed destroys the
spline, while the copy stays. -/
theorem owners_eq_handles_close :
    let cs : List Call := [.create .linear none, .openHandle (some 0) true, .share 0,
      .copyHandle 0, .close 0]
    Disciplined cs ∧ references 0 cs = 1 ∧ references 1 cs = 1 ∧
      ((fresh.after cs).call (.close 1)).answer =
        .ok (.flag (decide (references 0 (cs ++ [.close 1]) = 0))) ∧
      references 0 (cs ++ [.close 1]) = 0 ∧ references 1 (cs ++ [.close 1]) = 1 := by
  intro cs
  have free (before : List Call) (c : Call) (h1 : ∀ kind config, c ≠ .make kind config)
      (h2 : ∀ i, c ≠ .acquire i) (h3 : ∀ i, c ≠ .destroy i) (h4 : c.handed = none) :
      c.Allowed fun j => creatorHolds j before := ⟨h1, h2, h3, by simp [h4]⟩
  have h1 : Disciplined [.create .linear none] := .step .start (free _ _ nofun nofun nofun rfl)
  have h2 : Disciplined [.create .linear none, .openHandle (some 0) true] :=
    h1.step ⟨nofun, nofun, nofun, fun i h => by cases h; decide +kernel⟩
  have h3 : Disciplined cs :=
    ((h2.step (free _ (.share 0) nofun nofun nofun rfl)).step
      (free _ (.copyHandle 0) nofun nofun nofun rfl)).step
      (free _ (.close 0) nofun nofun nofun rfl)
  obtain ⟨-, -, last, -, -, -⟩ := owners_eq_handles h3
  exact ⟨h3, by decide +kernel, by decide +kernel,
    last _ (free _ (.close 1) nofun nofun nofun rfl) 0 (by decide +kernel),
    by decide +kernel, by decide +kernel⟩

end CurveKit.Pool
