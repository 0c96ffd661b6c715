import CurveKit.Proofs.Pool.History
import CurveKit.Proofs.Pool.Phases
import CurveKit.Proofs.Spline.Shared

/-!
# When finalizing succeeds

Finalizing is refused for a destroyed spline, for one with too few points, and where points
share a parameter. In exact arithmetic it succeeds otherwise. Points are never taken away
again, and a copy takes them all over, so points that share a parameter keep a spline and
all of its copies from being finalized, whatever is done with them.

Results:
* `listed_after`: the parameters of a live spline are those that it was handed over.
* `history_of_family`: copies go back to all that the copied spline was handed over.
* `refused_of_shared`: points that share a parameter are in the way of finalizing and evaluating.
* `finalize_refused`: when finalizing is refused, and what follows for all later calls.
-/
namespace CurveKit.Pool

/-! ## The parameters that were handed over -/

/-- The parameters of a spline are those of what was noted for it. -/
def Listed (log : List Insertion) (s : Spline Float) : Prop :=
  s.store.parameters.Perm (log.map (·.parameter))

theorem listed_ledger : Ledger fun _ => Listed where
  empty _ _ _ := .refl _
  call config log s d h := by
    rcases s.call_cases config d with ⟨hx, hr⟩ | ⟨x, hx, -, -, hst⟩
    · rw [hx, Option.toList_none, List.append_nil, Listed, hr.points.1]
      exact h
    · rw [hx, hst]
      show (s.store.insert x.parameter _).parameters.Perm ((log ++ [x]).map (·.parameter))
      rw [List.map_append]
      refine ((s.store.perm_insert x.parameter _).map (·.parameter)).trans ?_
      exact (h.cons x.parameter).trans (List.perm_append_singleton _ _).symm
  congr _ _ _ _ _ hs _ h := by
    rw [Listed, hs]
    exact h

/-- The parameters of a live spline are those that it was handed over, or the spline that it is a
copy of. -/
theorem listed_after (cs : List Call) {j : SplineId} {s : Spline Float}
    (hs : (fresh.after cs).splines[j]? = some s) (ha : s.destroyed = false) :
    Listed (history cs j) s :=
  noted_after_free listed_ledger cs j s hs ha

/-! ## Copies of copies -/

/-- The splines that stand for a family, if those in `family` did so before a call: the same ones
and the copies that the call makes of them. -/
def noteCopies (p : Pool Float) (c : Call) (family : SplineId → Bool) (j : SplineId) : Bool :=
  if c.makes p j then (c.copied p).elim false family else family j

/-- Is spline `j` the given one, or was it copied from it along the calls, at first or second hand
or farther away? -/
def family (p : Pool Float) (i : SplineId) (cs : List Call) : SplineId → Bool :=
  p.follow noteCopies (fun j => j == i) cs

/-- Copies of a spline go back to all that it was handed over. -/
theorem history_of_family {cs ds : List Call} {i j : SplineId}
    (h : (fresh.after cs).family i ds j = true) : history cs i <+: history (cs ++ ds) j := by
  induction ds using List.reverseRecOn generalizing j with
  | nil =>
    obtain rfl : j = i := beq_iff_eq.1 h
    rw [List.append_nil]
  | append_singleton ds d ih =>
    rw [family, follow_concat, noteCopies] at h
    rw [← List.append_assoc, history_concat, record, after_append]
    split at h
    · rename_i hm
      rw [if_pos hm]
      cases hk : d.copied ((fresh.after cs).after ds) with
      | none => rw [hk] at h; cases h
      | some k =>
        rw [hk] at h
        exact ih h
    · rename_i hm
      rw [if_neg hm]
      exact (ih h).trans (List.prefix_append _ _)

/-! ## Points that share a parameter -/

section Shared

variable {p : Pool Float} {j : SplineId} {t : Spline Float}

/-- Points that share a parameter are in the way of finalizing. -/
theorem build_of_shared (hsorted : t.store.Sorted) (alive : t.destroyed = false) {q : Float}
    (hq : Shared t.store.parameters q) :
    ∃ f, (f = .tooFewPoints t.kind t.store.size ∨ ∃ q, f = .coincident q) ∧
      t.build = .error f := by
  have hrefused := Spline.refused_of_ordered (Spline.ordered_rank hsorted) fun _ hf => hf
  by_cases hn : t.store.size < t.kind.minPoints
  · have hpos : 0 < t.store.size := by
      rw [← t.store.length_parameters]
      exact List.length_pos_of_mem hq.1
    exact ⟨_, .inl rfl, hrefused.tooFewPoints alive hpos hn⟩
  · obtain ⟨r, -, -, hr⟩ := hrefused.coincident ⟨alive, not_lt.1 hn⟩ ⟨q, hq⟩
    exact ⟨_, .inr ⟨r, rfl⟩, hr⟩

/-- Points that share a parameter are in the way of evaluating as well, where that finalizes on
the way. -/
theorem refused_of_shared (hcoh : t.Coherent) (hsorted : t.store.Sorted)
    (ht : p.splines[j]? = some t) (alive : t.destroyed = false) {q : Float}
    (hq : Shared t.store.parameters q) :
    ∃ f, (f = .tooFewPoints t.kind t.store.size ∨ ∃ q, f = .coincident q) ∧
      p.call (.spline j .finalize) = .fail p f ∧
      ((p.config t.config).isOn .lazyFinalize = true →
        ∀ query, p.call (.spline j (.evaluate query)) = .fail p f) := by
  obtain ⟨f, hf, hb⟩ := build_of_shared hsorted alive hq
  have hstale : t.isFinalized = false := by
    rw [Spline.isFinalized, hcoh.curve_of_error hb]
    rfl
  exact ⟨f, hf, finalize_of_error ht hb, fun hl _ => evaluate_of_error ht hstale hl hb⟩

/-- Two of the control points that a spline was handed over had one parameter, so its points share
one. -/
theorem shared_of_listed {log : List Insertion} (h : Listed log t) (hsorted : t.store.Sorted)
    {x y : Insertion} (hxy : [x, y].Sublist log) (he : (x.parameter == y.parameter) = true) :
    Shared t.store.parameters y.parameter := by
  have hy : y.parameter ∈ log.map (·.parameter) := List.mem_map_of_mem (hxy.subset (by simp))
  have hfinite := Spline.finite_parameters hsorted y.parameter (h.mem_iff.2 hy)
  exact (shared_perm h).2
    (shared_of_sublist (hxy.map _) he ((Binary64.beq_iff_rank hfinite hfinite).2 rfl))

end Shared

open scoped Exact in
/-- **Finalizing.** Take a spline after any calls. If it is destroyed, finalizing it is refused with
the release, and otherwise if it has no points or too few, with how many it needs and has; otherwise
if points share a parameter, with the smallest such parameter. In all other cases it succeeds in
exact arithmetic, if the points are in order, as they always are, and over doubles as well, unless
the second derivatives of a natural spline get out of range. So once a spline was handed over two
points at one parameter, neither the spline nor a copy of it, nor a copy of a copy, can be finalized
or evaluated lazily any more, as long as it lives. -/
theorem finalize_refused {cs : List Call} {p : Pool Float} (hp : fresh.after cs = p) {i : SplineId}
    {s : Spline Float} (hs : p.splines[i]? = some s) :
    s.Refused (fun f => p.call (.spline i .finalize) = .fail p f) ∧
    (∃ message, (Fault.tooFewPoints s.kind s.store.size : Fault Float).notice? =
      some (.insufficient message (.str s.kind.name) (Fault.count s.kind.minPoints)
        (Fault.count s.store.size))) ∧
    (∀ q, ∃ message, (Fault.coincident q).notice? =
      some (.numeric message (.str "parameter") (.float q) none)) ∧
    (s.IsApart → (p.call (.spline i .finalize)).answer = .ok (.flag true) ∨
      s.kind = .natural ∧ ∃ why, p.call (.spline i .finalize) = .fail p (.breakdown why)) ∧
    (∀ (K : Type) [Field K] [LinearOrder K] [IsStrictOrderedRing K] (u : Spline K),
      u.store.parameters.Pairwise (· ≤ ·) →
      u.Refused (fun f => u.finalize = .fail u f) ∧
      (u.IsApart → ∃ c events, u.finalize = ⟨.ok (), { u with curve := some c }, events⟩)) ∧
    ∀ x y, [x, y].Sublist (history cs i) → (x.parameter == y.parameter) = true →
      ∀ ds j t, p.family i ds j = true → (p.after ds).splines[j]? = some t → t.destroyed = false →
      ∃ f, (f = .tooFewPoints t.kind t.store.size ∨ ∃ q, f = .coincident q) ∧
        (p.after ds).call (.spline j .finalize) = .fail (p.after ds) f ∧
        (((p.after ds).config t.config).isOn .lazyFinalize = true →
          ∀ query, (p.after ds).call (.spline j (.evaluate query)) = .fail (p.after ds) f) := by
  subst hp
  have hsorted := invariant_after Spline.sorted_invariant cs i s hs
  have hordered := Spline.ordered_rank hsorted
  refine ⟨Spline.refused_of_ordered hordered fun f hf => finalize_of_error hs hf, ⟨_, rfl⟩,
    fun _ => ⟨_, rfl⟩, fun hapart => ?_, fun K _ _ _ u hu => ⟨?_, ?_⟩,
    fun x y hxy he ds j t hfamily ht halive => ?_⟩
  · rcases Spline.build_of_apart hsorted hapart with ⟨c, hc⟩ | ⟨hk, why, hw⟩
    · exact .inl (by rw [finalize_of_build hs hc])
    · exact .inr ⟨hk, why, finalize_of_error hs hw⟩
  · exact Spline.refused_of_ordered (ordered_id hu) fun f hf => Spline.finalize_of_error hf
  · intro hapart
    obtain ⟨c, hc⟩ := hapart.exists_curve hu
    exact ⟨c, _, Spline.finalize_of_build hc⟩
  · rw [← after_append] at ht ⊢
    have hsorted' := invariant_after Spline.sorted_invariant _ j t ht
    have hcoh := invariant_after Spline.coherent_invariant _ j t ht
    have hlisted := listed_after _ ht halive
    exact refused_of_shared hcoh hsorted' ht halive
      (shared_of_listed hlisted hsorted' (hxy.trans (history_of_family hfamily).sublist) he)

open scoped Exact in
/-- A line with points at zeros of both signs. A copy of its copy gets another point, and the line
itself is destroyed; that does not help the copy. A line of rational points is finalized. -/
theorem finalize_refused_zeros :
    let point (i : SplineId) (p v : Float) : Call :=
      .spline i (.insert (.float p) (.float v) (.ok .nothing))
    let p : Pool Float :=
      fresh.after [.create .linear none, point 0 0.0 1.0, point 0 1.0 3.0, point 0 (-0.0) 2.0]
    let q : Pool Float := p.after [.copy 0, .copy 1, point 2 2.0 5.0, .destroy 0]
    let u : Spline ℚ := ((Spline.empty .linear 0).place 3 [1] .none).place 0 [4] .none
    (∃ s r, p.splines[0]? = some s ∧ Shared s.store.parameters r ∧
      (∀ r', Shared s.store.parameters r' → r ≤ r') ∧
      p.call (.spline 0 .finalize) = .fail p (.coincident r)) ∧
    (∃ c events, u.finalize = ⟨.ok (), { u with curve := some c }, events⟩) ∧
    ∃ f : Fault Float, q.call (.spline 2 .finalize) = .fail q f ∧
      q.call (.spline 2 (.evaluate (.str "x"))) = .fail q f := by
  intro point p q u
  obtain ⟨s, hs⟩ : ∃ s, p.splines[0]? = some s := Option.isSome_iff_exists.1 (by decide +kernel)
  obtain ⟨t, ht⟩ : ∃ t, q.splines[2]? = some t := Option.isSome_iff_exists.1 (by decide +kernel)
  have fs : p.splines[0]?.map (fun s => (s.destroyed,
      decide (s.kind.minPoints ≤ s.store.size), s.store.parameters)) =
      some (false, true, [0.0, -0.0, 1.0]) := by decide +kernel
  have ft : q.splines[2]?.map (fun t => (t.destroyed, (q.config t.config).isOn .lazyFinalize)) =
      some (false, true) := by decide +kernel
  simp only [hs, Option.map_some, Option.some.injEq, Prod.mk.injEq, decide_eq_true_eq] at fs
  simp only [ht, Option.map_some, Option.some.injEq, Prod.mk.injEq] at ft
  obtain ⟨hrefused, -, -, -, hexact, hfamily⟩ := finalize_refused rfl hs
  refine ⟨?_, ?_, ?_⟩
  · obtain ⟨r, hr, hleast, hcall⟩ := hrefused.coincident ⟨fs.1, fs.2.1⟩
      ⟨0.0, by rw [fs.2.2]; exact ⟨List.mem_cons_self, by decide +kernel⟩⟩
    exact ⟨s, r, hs, hr, hleast, hcall⟩
  · have hu : u.Grown := by
      refine .place_plain (.place_plain (.empty .linear 0) rfl rfl (by decide) ?_) rfl rfl
        (by decide) ?_
      all_goals decide +kernel
    have hparameters : u.store.parameters = [0, 3] := by decide +kernel
    have hapart : ∀ r, ¬ Shared u.store.parameters r := by
      rw [hparameters]
      rintro r ⟨hr, hcount⟩
      have hcases : r = 0 ∨ r = 3 := by simpa using hr
      rcases hcases with rfl | rfl
      · exact absurd hcount (by decide +kernel)
      · exact absurd hcount (by decide +kernel)
    exact (hexact ℚ u hu.sorted).2 { alive := rfl, enough := by decide +kernel, apart := hapart }
  · obtain ⟨f, -, hfinalize, hevaluate⟩ :=
      hfamily ⟨0.0, [1.0], .nothing⟩ ⟨-0.0, [2.0], .nothing⟩ (by decide +kernel) (by decide +kernel)
        _ 2 t (by decide +kernel) ht ft.1
    exact ⟨f, hfinalize, hevaluate ft.2 _⟩

end CurveKit.Pool
