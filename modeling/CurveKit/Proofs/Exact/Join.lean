import Mathlib.Algebra.Order.Field.Basic
import Mathlib.Analysis.Calculus.ContDiff.Operations
import Mathlib.Analysis.Calculus.Deriv.Pow
import Mathlib.Analysis.Calculus.Deriv.Slope
import Mathlib.Analysis.Calculus.IteratedDeriv.Lemmas
import Mathlib.Analysis.Calculus.TangentCone.DimOne
import Mathlib.Topology.Algebra.Module.ModuleTopology
import Mathlib.Topology.Algebra.Order.Field
import CurveKit.Proofs.Exact.Piece

/-!
# Smooth functions that go on as others

Two functions join at a point to some order if the one that is the first up to there and
the second behind it can be differentiated that often. Sums, products and quotients of
functions that join do so too, which takes smoothness from the weights of a curve to the
curve. All of it rests on the powers of the positive part.

Results:
* `contDiff_max_pow`: a power of the positive part can be differentiated as often as its exponent
  says, less one.
* `Joins.add`, `Joins.mul`, `Joins.div`, `Joins.flip`, `Joins.comp_affine`: joining is kept.
* `joins_of_pow`: functions that agree up to a high enough power join.
* `Joins.iteratedDeriv_eq`: all derivatives up to the order agree at the point.
* `contDiffOn_pieced`: a curve is as smooth as its formulas join.
-/
namespace CurveKit

open Filter Topology

variable {K : Type} [NontriviallyNormedField K] [LinearOrder K] [IsStrictOrderedRing K]
  [OrderTopology K]

/-! ## Powers of the positive part -/

theorem hasDerivAt_max_pow (r : ℕ) (t : K) :
    HasDerivAt (fun u : K => max u 0 ^ (r + 2)) ((r + 2 : ℕ) * max t 0 ^ (r + 1)) t := by
  rcases lt_trichotomy t 0 with ht | rfl | ht
  · have hzero : (fun u : K => max u 0 ^ (r + 2)) =ᶠ[𝓝 t] fun _ => 0 := by
      filter_upwards [Iio_mem_nhds ht] with u hu
      rw [max_eq_right (le_of_lt hu), zero_pow (by omega)]
    rw [max_eq_right ht.le, zero_pow (by omega), mul_zero]
    exact (hasDerivAt_const t (0 : K)).congr_of_eventuallyEq hzero
  · -- The slope from the kink is the next lower power, which is small there.
    have hslope : ∀ u ∈ ({0}ᶜ : Set K), max u 0 ^ (r + 1) =
        slope (fun u : K => max u 0 ^ (r + 2)) 0 u := by
      intro u hu
      have hne : u ≠ 0 := hu
      rcases le_total u 0 with h | h
      · simp [slope, max_eq_right h]
      · simp only [slope, max_eq_left h, max_self, vsub_eq_sub, smul_eq_mul, sub_zero,
          zero_pow (show r + 2 ≠ 0 by omega)]
        rw [pow_succ u (r + 1)]
        field_simp
    have hcontinuous : Continuous fun u : K => max u 0 ^ (r + 1) :=
      (continuous_id.max continuous_const).pow _
    rw [hasDerivAt_iff_tendsto_slope, max_self, zero_pow (by omega), mul_zero]
    have hlimit := (hcontinuous.tendsto (0 : K)).mono_left (nhdsWithin_le_nhds (s := {0}ᶜ))
    simp only [max_self, zero_pow (show r + 1 ≠ 0 by omega)] at hlimit
    exact hlimit.congr' (eventually_nhdsWithin_of_forall hslope)
  · have hpow : (fun u : K => max u 0 ^ (r + 2)) =ᶠ[𝓝 t] fun u => u ^ (r + 2) := by
      filter_upwards [Ioi_mem_nhds ht] with u hu
      rw [max_eq_left (le_of_lt hu)]
    rw [max_eq_left ht.le]
    exact (hasDerivAt_pow (r + 2) t).congr_of_eventuallyEq hpow

theorem contDiff_max_pow (r : ℕ) : ContDiff K r fun t : K => max t 0 ^ (r + 1) := by
  induction r with
  | zero => exact contDiff_zero.2 ((continuous_id.max continuous_const).pow _)
  | succ r ih =>
    have hderiv : deriv (fun t : K => max t 0 ^ (r + 1 + 1)) =
        fun t => ((r + 2 : ℕ) : K) * max t 0 ^ (r + 1) :=
      funext fun t => (hasDerivAt_max_pow r t).deriv
    rw [Nat.cast_succ, contDiff_succ_iff_deriv]
    refine ⟨fun t => (hasDerivAt_max_pow r t).differentiableAt, fun h => ?_, ?_⟩
    · exact absurd h (by simp)
    · rw [hderiv]
      exact contDiff_const.mul ih

/-! ## Functions that join -/

/-- Two functions agree at `a`, and the one that is the first up to there and the second behind it
can be differentiated `r` times at `a`. -/
structure Joins (r : ℕ) (g h : K → K) (a : K) : Prop where
  value : g a = h a
  smooth : ContDiffAt K r (fun t => if t ≤ a then g t else h t) a

variable {r : ℕ} {g h g' h' : K → K} {a : K}

omit [IsStrictOrderedRing K] [OrderTopology K] in
theorem Joins.of_le {q : ℕ} (H : Joins r g h a) (hq : q ≤ r) : Joins q g h a :=
  ⟨H.value, H.smooth.of_le (by exact_mod_cast hq)⟩

omit [IsStrictOrderedRing K] [OrderTopology K] in
theorem joins_self (hg : ContDiffAt K r g a) : Joins r g g a :=
  ⟨rfl, by simpa only [ite_self] using hg⟩

section Operations

omit [IsStrictOrderedRing K] [OrderTopology K]

theorem Joins.congr (H : Joins r g h a) (hg : ∀ t, g' t = g t) (hh : ∀ t, h' t = h t) :
    Joins r g' h' a := by
  rw [funext hg, funext hh]
  exact H

theorem Joins.add (H : Joins r g h a) (H' : Joins r g' h' a) :
    Joins r (fun t => g t + g' t) (fun t => h t + h' t) a where
  value := by rw [H.value, H'.value]
  smooth := by
    refine (H.smooth.add H'.smooth).congr_of_eventuallyEq (.of_forall fun t => ?_)
    dsimp only
    split <;> rfl

theorem Joins.mul (H : Joins r g h a) (H' : Joins r g' h' a) :
    Joins r (fun t => g t * g' t) (fun t => h t * h' t) a where
  value := by rw [H.value, H'.value]
  smooth := by
    refine (H.smooth.mul H'.smooth).congr_of_eventuallyEq (.of_forall fun t => ?_)
    dsimp only
    split <;> rfl

theorem Joins.div (H : Joins r g h a) (H' : Joins r g' h' a) (hne : g' a ≠ 0) :
    Joins r (fun t => g t / g' t) (fun t => h t / h' t) a where
  value := by rw [H.value, H'.value]
  smooth := by
    refine (H.smooth.div H'.smooth (by rwa [if_pos (le_refl a)])).congr_of_eventuallyEq
      (.of_forall fun t => ?_)
    simp only [Pi.div_apply]
    split <;> rfl

theorem Joins.mul_const (H : Joins r g h a) (b : K) :
    Joins r (fun t => g t * b) (fun t => h t * b) a :=
  H.mul (joins_self contDiffAt_const)

end Operations

omit [OrderTopology K] in
/-- Seen from the other side, the functions change their places. -/
theorem Joins.flip (H : Joins r g h 0) : Joins r (fun t => h (-t)) (fun t => g (-t)) 0 where
  value := by rw [neg_zero, H.value]
  smooth := by
    have hneg : ContDiffAt K r (fun t : K => -t) 0 := contDiffAt_id.neg
    refine (ContDiffAt.comp (0 : K) (by rw [neg_zero]; exact H.smooth) hneg).congr_of_eventuallyEq
      (.of_forall fun t => ?_)
    rcases lt_trichotomy t 0 with ht | rfl | ht
    · have ht' : ¬ -t ≤ 0 := by simpa using ht
      simp [ht.le, ht']
    · simp [H.value]
    · have ht' : ¬ t ≤ 0 := not_le.2 ht
      simp [ht.le, ht']

omit [OrderTopology K] in
/-- Joining is kept where the parameter is shifted and stretched. -/
theorem Joins.comp_affine (H : Joins r g h 0) (a : K) {l : K} (hl : 0 < l) :
    Joins r (fun t => g ((t - a) / l)) (fun t => h ((t - a) / l)) a where
  value := by rw [sub_self, zero_div, H.value]
  smooth := by
    have haffine : ContDiffAt K r (fun t : K => (t - a) / l) a :=
      (contDiffAt_id.sub contDiffAt_const).div_const l
    have hzero : (a - a) / l = 0 := by rw [sub_self, zero_div]
    refine (ContDiffAt.comp a (by rw [hzero]; exact H.smooth) haffine).congr_of_eventuallyEq
      (.of_forall fun t => ?_)
    have hle : (t - a) / l ≤ 0 ↔ t ≤ a := by rw [div_le_iff₀ hl, zero_mul, sub_nonpos]
    simp only [Function.comp_apply, hle]

/-- Functions that agree up to a high enough power join. -/
theorem joins_of_pow {p j k : K → K} (hp : ContDiffAt K r p 0) (hj : ContDiffAt K r j 0)
    (hk : ContDiffAt K r k 0) (hg : ∀ t, g t = p t + t ^ (r + 1) * j t)
    (hh : ∀ t, h t = p t + t ^ (r + 1) * k t) : Joins r g h 0 where
  value := by rw [hg, hh, zero_pow (by omega), zero_mul, zero_mul]
  smooth := by
    have hpow : ContDiffAt K r (fun t : K => t ^ (r + 1)) 0 := contDiffAt_id.pow _
    have hmax : ContDiffAt K r (fun t : K => max t 0 ^ (r + 1)) 0 :=
      (contDiff_max_pow r).contDiffAt
    refine ((hp.add (hpow.mul hj)).add (hmax.mul (hk.sub hj))).congr_of_eventuallyEq
      (.of_forall fun t => ?_)
    simp only [hg, hh]
    split
    · rename_i ht
      rw [max_eq_right ht, zero_pow (by omega)]
      ring
    · rename_i ht
      rw [max_eq_left (not_le.1 ht).le]
      ring

/-! ## Derivatives from one side -/

theorem uniqueDiffOn_Iic_self (a : K) : UniqueDiffOn K (Set.Iic a) := by
  intro b hb
  rw [uniqueDiffWithinAt_iff_accPt, accPt_principal_iff_nhdsWithin]
  refine (nhdsLT_neBot b).mono (nhdsWithin_mono b fun u hu => ?_)
  exact ⟨(le_of_lt hu).trans hb, ne_of_lt hu⟩

theorem uniqueDiffOn_Ici_self (a : K) : UniqueDiffOn K (Set.Ici a) := by
  intro b hb
  rw [uniqueDiffWithinAt_iff_accPt, accPt_principal_iff_nhdsWithin]
  refine (nhdsGT_neBot b).mono (nhdsWithin_mono b fun u hu => ?_)
  exact ⟨le_trans hb (le_of_lt hu), ne_of_gt hu⟩

omit [LinearOrder K] [IsStrictOrderedRing K] [OrderTopology K] in
/-- The derivatives at a point are decided on any set that is large enough around it. -/
theorem iteratedDeriv_eq_of_eqOn {m : ℕ} {s : Set K} (hs : UniqueDiffOn K s) (ha : a ∈ s)
    (hg : ContDiffAt K m g a) (hh : ContDiffAt K m h a) (heq : Set.EqOn g h s) :
    iteratedDeriv m g a = iteratedDeriv m h a := by
  rw [← iteratedDerivWithin_eq_iteratedDeriv hs hg ha,
    ← iteratedDerivWithin_eq_iteratedDeriv hs hh ha]
  exact iteratedDerivWithin_congr heq ha

/-- All derivatives of functions that join agree, up to the order to which they join. -/
theorem Joins.iteratedDeriv_eq {m : ℕ} (H : Joins r g h a) (hg : ContDiffAt K r g a)
    (hh : ContDiffAt K r h a) (hm : m ≤ r) : iteratedDeriv m g a = iteratedDeriv m h a := by
  have hm' : (m : WithTop ℕ∞) ≤ r := by exact_mod_cast hm
  have hbefore : Set.EqOn g (fun t => if t ≤ a then g t else h t) (Set.Iic a) :=
    fun t ht => (if_pos ht).symm
  have hbehind : Set.EqOn (fun t => if t ≤ a then g t else h t) h (Set.Ici a) := by
    intro t ht
    rcases (show a ≤ t from ht).eq_or_lt with rfl | hlt
    · exact (if_pos (le_refl a)).trans H.value
    · exact if_neg (not_le.2 hlt)
  exact (iteratedDeriv_eq_of_eqOn (uniqueDiffOn_Iic_self a) Set.self_mem_Iic (hg.of_le hm')
    (H.smooth.of_le hm') hbefore).trans (iteratedDeriv_eq_of_eqOn (uniqueDiffOn_Ici_self a)
    Set.self_mem_Ici (H.smooth.of_le hm') (hh.of_le hm') hbehind)

/-! ## Curves -/

section Curves

open scoped Exact

variable {n : Nat} {x : Nat → K} {f : Nat → K → K}

omit [IsStrictOrderedRing K] in
/-- A curve can be differentiated as often between its ends as its formulas can inside their
segments and join at the control points between them. -/
theorem contDiffOn_pieced (hx : Ascending n x) (hn : 2 ≤ n)
    (hinner : ∀ i, i + 1 < n → ∀ t ∈ Set.Ioo (x i) (x (i + 1)), ContDiffAt K r (f i) t)
    (hjoins : ∀ i, i + 2 < n → Joins r (f i) (f (i + 1)) (x (i + 1))) :
    ContDiffOn K r (fun t => f (segment n x t) t) (Set.Ioo (x 0) (x (n - 1))) := by
  intro t ht
  have hvalue := fun i hi => (hjoins i hi).value
  obtain ⟨hl, hr, hlt⟩ := segment_spec hx ht.1.le ht.2 hn
  refine ContDiffAt.contDiffWithinAt ?_
  generalize segment n x t = i at hl hr hlt
  rcases hl.eq_or_lt with rfl | hl
  · have hne : i ≠ 0 := fun h => absurd ht.1 (h ▸ lt_irrefl _)
    obtain ⟨j, rfl⟩ : ∃ j, i = j + 1 := ⟨i - 1, by omega⟩
    refine (hjoins j hlt).smooth.congr_of_eventuallyEq ?_
    filter_upwards [Ioo_mem_nhds (hx j (j + 1) (by omega) (by omega)) hr] with u hu
    split
    · rename_i hle
      exact pieced_eq hx hvalue (by omega) hu.1.le hle
    · rename_i hgt
      exact pieced_eq hx hvalue hlt (not_le.1 hgt).le hu.2.le
  · refine (hinner i hlt t ⟨hl, hr⟩).congr_of_eventuallyEq ?_
    filter_upwards [Ioo_mem_nhds hl hr] with u hu
    exact pieced_eq hx hvalue hlt hu.1.le hu.2.le

end Curves

end CurveKit
