import CurveKit.Proofs.Exact.Blend
import Mathlib.Analysis.Calculus.Deriv.Add
import Mathlib.Analysis.Calculus.Deriv.Mul
import Mathlib.Order.Monotone.Defs
import Mathlib.Tactic.IntervalCases
import Mathlib.Tactic.LinearCombination
import Mathlib.Topology.Algebra.Module.ModuleTopology

/-!
# The blends of X-splines by their ordinates

A polynomial of degree `n` is given by `n + 1` ordinates: its value is the mean of two
polynomials of degree `n - 1`, one without the last ordinate and one without the first. The
ordinates show what the blends have to be right about. Those next to an end of the unit
interval are the value, the slope and the curvature there, up to factors, and where the
ordinates rise the polynomial rises.

The three blends are quintics. The one for positive shapes and the inner one for negative
shapes have rising ordinates from 0 to 1, and the outer one for negative shapes starts with the
same ordinates as the inner one.

Results:
* `byOrdinates_zero`, `byOrdinates_one`, `hasDerivAt_byOrdinates`: the ends, and the derivative.
* `strictMonoOn_byOrdinates`: rising ordinates.
* `Scheme.fBlend_eq_byOrdinates`, `Scheme.gBlend_eq_byOrdinates`, `Scheme.hBlend_eq_byOrdinates`:
  the ordinates of the blends.
* `Scheme.blends_correct`: how the blends rise, and how they meet.
-/
namespace CurveKit

open scoped Exact

/-! ## Polynomials by their ordinates -/

section Ordinates

variable {K : Type} [Field K]

def byOrdinates : Nat → (Nat → K) → K → K
  | 0, b, _ => b 0
  | n + 1, b, u => (1 - u) * byOrdinates n b u + u * byOrdinates n (fun k => b (k + 1)) u

theorem byOrdinates_combine (n : Nat) (x y : K) (b c : Nat → K) (u : K) :
    byOrdinates n (fun k => x * b k + y * c k) u =
      x * byOrdinates n b u + y * byOrdinates n c u := by
  induction n generalizing b c with
  | zero => rfl
  | succ n ih =>
    simp only [byOrdinates, ih]
    ring

theorem byOrdinates_sub (n : Nat) (b c : Nat → K) (u : K) :
    byOrdinates n (fun k => c k - b k) u = byOrdinates n c u - byOrdinates n b u := by
  have h := byOrdinates_combine n 1 (-1) c b u
  simpa only [one_mul, neg_one_mul, ← sub_eq_add_neg] using h

/-- Neighbouring ordinates may be combined first. -/
theorem byOrdinates_succ (n : Nat) (b : Nat → K) (u : K) :
    byOrdinates (n + 1) b u = byOrdinates n (fun k => (1 - u) * b k + u * b (k + 1)) u :=
  (byOrdinates_combine n (1 - u) u b (fun k => b (k + 1)) u).symm

theorem byOrdinates_zero (n : Nat) (b : Nat → K) : byOrdinates n b 0 = b 0 := by
  induction n with
  | zero => rfl
  | succ n ih => rw [byOrdinates, ih, sub_zero, one_mul, zero_mul, add_zero]

theorem byOrdinates_one (n : Nat) (b : Nat → K) : byOrdinates n b 1 = b n := by
  induction n generalizing b with
  | zero => rfl
  | succ n ih => rw [byOrdinates, ih fun k => b (k + 1), sub_self, zero_mul, one_mul, zero_add]

/-- The differences of neighbouring ordinates. -/
def steps (b : Nat → K) (k : Nat) : K := b (k + 1) - b k

theorem byOrdinates_steps (n : Nat) (b : Nat → K) (u : K) : byOrdinates n (steps b) u =
    byOrdinates n (fun k => b (k + 1)) u - byOrdinates n b u :=
  byOrdinates_sub n b (fun k => b (k + 1)) u

end Ordinates

section Rising

variable {K : Type} [Field K] [LinearOrder K] [IsStrictOrderedRing K] {n : Nat} {b c : Nat → K}
  {u v : K}

/-- The first `n + 1` ordinates rise. -/
def Rises (n : Nat) (b : Nat → K) : Prop := ∀ k < n, b k ≤ b (k + 1)

omit [Field K] [IsStrictOrderedRing K] in
theorem Rises.le (h : Rises n b) {i j : Nat} (hij : i ≤ j) (hj : j ≤ n) : b i ≤ b j := by
  induction j, hij using Nat.le_induction with
  | base => exact le_refl _
  | succ j _ ih => exact (ih (by omega)).trans (h j (by omega))

/-- Of rising ordinates the greater ones, farther along, give more; at least as much as if there
were only the first and the last. -/
theorem pow_mul_le_byOrdinates_sub (hb : Rises n b) (hc : Rises n c) (hbc : ∀ k ≤ n, b k ≤ c k)
    (h0 : 0 ≤ u) (huv : u ≤ v) (h1 : v ≤ 1) :
    (v - u) ^ n * (c n - b 0) ≤ byOrdinates n c v - byOrdinates n b u := by
  induction n generalizing b c with
  | zero => simp [byOrdinates]
  | succ n ih =>
    have hu : 0 ≤ 1 - u := by linarith
    have hv : 0 ≤ 1 - v := by linarith
    -- The means of neighbours rise again, and those at `v` are still the greater ones.
    have hmean {a : Nat → K} (ha : Rises (n + 1) a) {t : K} (ht0 : 0 ≤ t) (ht1 : 0 ≤ 1 - t) :
        Rises n fun k => (1 - t) * a k + t * a (k + 1) := fun k hk =>
      add_le_add (mul_le_mul_of_nonneg_left (ha k (by omega)) ht1)
        (mul_le_mul_of_nonneg_left (ha (k + 1) (by omega)) ht0)
    have hmeans : ∀ k ≤ n, (1 - u) * b k + u * b (k + 1) ≤ (1 - v) * c k + v * c (k + 1) := by
      intro k hk
      have hstep := mul_nonneg (sub_nonneg.2 huv) (sub_nonneg.2 (hb k (by omega)))
      have hfirst := mul_le_mul_of_nonneg_left (hbc k (by omega)) hv
      have hsecond := mul_le_mul_of_nonneg_left (hbc (k + 1) (by omega)) (h0.trans huv)
      linarith
    have hspan : (v - u) * (c (n + 1) - b 0) ≤
        (1 - v) * c n + v * c (n + 1) - ((1 - u) * b 0 + u * b 1) := by
      have hfirst : b 0 ≤ c n := (hb.le (Nat.zero_le n) (by omega)).trans (hbc n (by omega))
      have hsecond : b 1 ≤ c (n + 1) := (hb.le (by omega) (le_refl _)).trans (hbc _ (le_refl _))
      have h := add_nonneg (mul_nonneg hv (sub_nonneg.2 hfirst))
        (mul_nonneg h0 (sub_nonneg.2 hsecond))
      linarith
    rw [byOrdinates_succ, byOrdinates_succ]
    calc (v - u) ^ (n + 1) * (c (n + 1) - b 0)
        = (v - u) ^ n * ((v - u) * (c (n + 1) - b 0)) := by ring
      _ ≤ (v - u) ^ n * ((1 - v) * c n + v * c (n + 1) - ((1 - u) * b 0 + u * b 1)) :=
        mul_le_mul_of_nonneg_left hspan (pow_nonneg (sub_nonneg.2 huv) n)
      _ ≤ _ := ih (hmean hb h0 hu) (hmean hc (h0.trans huv) hv) hmeans

/-- **Rising ordinates.** A polynomial rises strictly between the ends of the unit interval if its
ordinates rise, and not all of them are the same. -/
theorem strictMonoOn_byOrdinates (h : Rises n b) (hlt : b 0 < b n) :
    StrictMonoOn (byOrdinates n b) (Set.Icc 0 1) := by
  intro u hu v hv huv
  have hspan : 0 < (v - u) ^ n * (b n - b 0) :=
    mul_pos (pow_pos (sub_pos.2 huv) n) (sub_pos.2 hlt)
  exact sub_pos.1 (hspan.trans_le
    (pow_mul_le_byOrdinates_sub h h (fun _ _ => le_refl _) hu.1 huv.le hv.2))

end Rising

/-! ## Value, slope and curvature -/

section Derivatives

variable {K : Type} [NontriviallyNormedField K] (n : Nat) (b : Nat → K)

theorem hasDerivAt_byOrdinates (u : K) :
    HasDerivAt (byOrdinates (n + 1) b) ((n + 1) * byOrdinates n (steps b) u) u := by
  induction n generalizing b with
  | zero =>
    have h := ((hasDerivAt_id u).const_sub 1).mul_const (b 0) |>.add
      ((hasDerivAt_id u).mul_const (b 1))
    refine h.congr_deriv ?_
    simp only [byOrdinates, steps]
    push_cast
    ring
  | succ n ih =>
    have hfirst := ((hasDerivAt_id u).const_sub 1).mul (ih b)
    have hsecond := (hasDerivAt_id u).mul (ih fun k => b (k + 1))
    refine (hfirst.add hsecond).congr_deriv ?_
    -- The halves differ by the polynomial of the steps, which is itself a mean of two.
    have houter := byOrdinates_steps (n + 1) b u
    have hinner : byOrdinates (n + 1) (steps b) u = (1 - u) * byOrdinates n (steps b) u +
      u * byOrdinates n (steps fun k => b (k + 1)) u := rfl
    simp only [id_eq]
    push_cast
    linear_combination -houter - (n + 1 : K) * hinner

/-- A function that can be differentiated has a value, a slope and a curvature at a point. -/
structure HasJet (f : K → K) (a value slope curvature : K) : Prop where
  differentiable : Differentiable K f
  value_eq : f a = value
  slope_eq : deriv f a = slope
  hasCurvature : HasDerivAt (deriv f) curvature a

theorem deriv_byOrdinates : deriv (byOrdinates (n + 1) b) =
    fun u => (n + 1) * byOrdinates n (steps b) u :=
  funext fun u => (hasDerivAt_byOrdinates n b u).deriv

theorem HasJet.of_eq {f : K → K} {a v v' s s' c c' : K} (h : HasJet f a v s c) (hv : v = v')
    (hs : s = s') (hc : c = c') : HasJet f a v' s' c' := hv ▸ hs ▸ hc ▸ h

/-- The value, the slope and the curvature anywhere. -/
theorem hasJet_byOrdinates (u : K) : HasJet (byOrdinates (n + 2) b) u (byOrdinates (n + 2) b u)
    ((n + 2) * byOrdinates (n + 1) (steps b) u)
    ((n + 2) * ((n + 1) * byOrdinates n (steps (steps b)) u)) where
  differentiable u := (hasDerivAt_byOrdinates (n + 1) b u).differentiableAt
  value_eq := rfl
  slope_eq := by
    rw [deriv_byOrdinates]
    push_cast
    ring
  hasCurvature := by
    rw [deriv_byOrdinates]
    refine ((hasDerivAt_byOrdinates n (steps b) u).const_mul _).congr_deriv ?_
    push_cast
    ring

theorem hasJet_zero : HasJet (byOrdinates (n + 2) b) 0 (b 0) ((n + 2) * steps b 0)
    ((n + 2) * ((n + 1) * steps (steps b) 0)) :=
  (hasJet_byOrdinates n b 0).of_eq (byOrdinates_zero _ _) (by rw [byOrdinates_zero])
    (by rw [byOrdinates_zero])

theorem hasJet_one : HasJet (byOrdinates (n + 2) b) 1 (b (n + 2)) ((n + 2) * steps b (n + 1))
    ((n + 2) * ((n + 1) * steps (steps b) n)) :=
  (hasJet_byOrdinates n b 1).of_eq (byOrdinates_one _ _) (by rw [byOrdinates_one])
    (by rw [byOrdinates_one])

variable {b}

theorem hasJet_of_start (h0 : b 0 = 0) :
    HasJet (byOrdinates 5 b) 0 0 (5 * b 1) (20 * (b 2 - 2 * b 1)) := by
  refine (hasJet_zero 3 b).of_eq h0 ?_ ?_
  · rw [steps, h0]
    ring
  · rw [steps, steps, steps, h0]
    ring

theorem hasJet_of_end (h4 : b 4 = 1) (h5 : b 5 = 1) :
    HasJet (byOrdinates 5 b) 1 1 0 (20 * (b 3 - 1)) := by
  refine (hasJet_one 3 b).of_eq h5 ?_ ?_
  · rw [steps, h4, h5, sub_self, mul_zero]
  · rw [steps, steps, steps, h4, h5]
    ring

end Derivatives

/-! ## The blends -/

namespace Scheme

section Quintics

variable {K : Type} [Field K]

/-- The ordinates in a list. -/
def listed (l : List K) (k : Nat) : K := l.getD k 0

@[simp] theorem listed_cons_zero (x : K) (l : List K) : listed (x :: l) 0 = x := rfl

@[simp] theorem listed_cons_succ (x : K) (l : List K) (k : Nat) :
    listed (x :: l) (k + 1) = listed l k := rfl

def fOrdinates (p : K) : Nat → K := listed [0, 0, 0, (10 - p) / 10, 1, 1]

def gOrdinates (q : K) : Nat → K := listed [0, q / 5, 3 * q / 5, 4 / 5, 1, 1]

def hOrdinates (q : K) : Nat → K :=
  listed [0, q / 5, 3 * q / 5, 3 * q / 5 + 3 * q / 5, 8 * q / 5, 0]

variable [LinearOrder K] [IsStrictOrderedRing K]

theorem fBlend_eq_byOrdinates (p : K) :
    (fun u => fBlend u 1 p) = byOrdinates 5 (fOrdinates p) := by
  funext u
  rw [fBlend_eq]
  simp only [byOrdinates, fOrdinates, listed_cons_zero, listed_cons_succ]
  ring

theorem gBlend_eq_byOrdinates (q : K) : (fun u => gBlend u q) = byOrdinates 5 (gOrdinates q) := by
  funext u
  rw [gBlend_eq]
  simp only [byOrdinates, gOrdinates, listed_cons_zero, listed_cons_succ]
  ring

theorem hBlend_eq_byOrdinates (q : K) : (fun u => hBlend u q) = byOrdinates 5 (hOrdinates q) := by
  funext u
  rw [← neg_neg u, hBlend_neg]
  simp only [byOrdinates, hOrdinates, listed_cons_zero, listed_cons_succ]
  ring

theorem rises_fOrdinates {p : K} (h0 : 0 ≤ p) (h1 : p ≤ 10) : Rises 5 (fOrdinates p) := by
  intro k hk
  interval_cases k <;>
    simp only [fOrdinates, listed_cons_zero, listed_cons_succ] <;> linarith

theorem rises_gOrdinates {q : K} (h0 : 0 ≤ q) (h1 : q ≤ 1 / 2) : Rises 5 (gOrdinates q) := by
  intro k hk
  interval_cases k <;>
    simp only [gOrdinates, listed_cons_zero, listed_cons_succ] <;> linarith

end Quintics

/-! ## The shape zero -/

section ZeroShape

variable {K : Type} [Field K] [LinearOrder K]

theorem gBlend_zero_shape (t : K) : gBlend t 0 = fBlend t 1 2 := by
  rw [gBlend_eq, fBlend_eq, div_one]
  ring

theorem hBlend_zero_shape (t : K) : hBlend (-t) 0 = 0 := by
  rw [hBlend_neg, zero_mul, zero_mul, zero_mul, neg_zero]

theorem leftWeights_zero_shape {t : K} (h : 0 ≤ t) :
    leftWeights .extended t 0 = (hBlend (-t) 0, gBlend t 0) := by
  rw [gBlend_zero_shape, hBlend_zero_shape, leftWeights]
  simp only [Family.exponent, Scalar.ofNat_eq, Scalar.one_eq, Scalar.zero_eq, add_zero, mul_one]
  rw [if_neg (not_lt.2 h)]

theorem rightWeights_zero_shape [IsStrictOrderedRing K] {t : K} (h : t ≤ 1) :
    rightWeights .extended t 0 = (gBlend (1 - t) 0, hBlend (t - 1) 0) := by
  rw [rightWeights_eq, leftWeights_zero_shape (sub_nonneg.2 h), neg_sub, Prod.swap_prod_mk]

end ZeroShape

/-! ## How they rise and meet -/

section Meeting

variable {K : Type} [NontriviallyNormedField K] [LinearOrder K] [IsStrictOrderedRing K]

theorem hasJet_fBlend_zero (p : K) : HasJet (fun u => fBlend u 1 p) 0 0 0 0 := by
  rw [fBlend_eq_byOrdinates]
  refine (hasJet_of_start rfl).of_eq rfl ?_ ?_ <;> simp [fOrdinates]

theorem hasJet_fBlend_one (p : K) : HasJet (fun u => fBlend u 1 p) 1 1 0 (-(2 * p)) := by
  rw [fBlend_eq_byOrdinates]
  refine (hasJet_of_end rfl rfl).of_eq rfl rfl ?_
  simp only [fOrdinates, listed_cons_zero, listed_cons_succ]
  ring

theorem hasJet_gBlend_zero (q : K) : HasJet (fun u => gBlend u q) 0 0 q (4 * q) := by
  rw [gBlend_eq_byOrdinates]
  refine (hasJet_of_start rfl).of_eq rfl ?_ ?_ <;>
    simp only [gOrdinates, listed_cons_zero, listed_cons_succ] <;> ring

theorem hasJet_gBlend_one (q : K) : HasJet (fun u => gBlend u q) 1 1 0 (-4) := by
  rw [gBlend_eq_byOrdinates]
  refine (hasJet_of_end rfl rfl).of_eq rfl rfl ?_
  simp only [gOrdinates, listed_cons_zero, listed_cons_succ]
  ring

theorem hasJet_hBlend_zero (q : K) : HasJet (fun u => hBlend u q) 0 0 q (4 * q) := by
  rw [hBlend_eq_byOrdinates]
  refine (hasJet_of_start rfl).of_eq rfl ?_ ?_ <;>
    simp only [hOrdinates, listed_cons_zero, listed_cons_succ] <;> ring

/-- **The blends of X-splines.** The blend for positive shapes depends on the quotient `u` of its
arguments alone. For an exponent from 2 to 8 it rises strictly from 0 to 1; it starts without slope
and curvature, and arrives without slope and with twice the exponent as negative curvature. For
`q` from 0 to 1/2 the inner blend for negative shapes rises strictly from 0 to 1 too, and arrives
without slope and with curvature -4, and both blends for negative shapes start with one slope and
one curvature. The outer one has the factored form below on the other side of 0. Without `q` the
blends for negative shapes are those for the shape 0, so that the weights of an end with the shape 0
are the same on both branches. -/
theorem blends_correct :
    (∀ p : K, 2 ≤ p → p ≤ 8 →
      (∀ n d, d ≠ 0 → fBlend? n d p = some (fBlend (n / d) 1 p)) ∧
      StrictMonoOn (fun u => fBlend u 1 p) (Set.Icc 0 1) ∧
      HasJet (fun u => fBlend u 1 p) 0 0 0 0 ∧ HasJet (fun u => fBlend u 1 p) 1 1 0 (-(2 * p))) ∧
    (∀ q : K, 0 ≤ q → q ≤ 1 / 2 →
      StrictMonoOn (fun u => gBlend u q) (Set.Icc 0 1) ∧
      HasJet (fun u => gBlend u q) 0 0 q (4 * q) ∧ HasJet (fun u => gBlend u q) 1 1 0 (-4) ∧
      HasJet (fun u => hBlend u q) 0 0 q (4 * q) ∧
      ∀ t, hBlend (-t) q = -(q * t * (1 - t) ^ 3 * (1 + t))) ∧
    ∀ t : K, gBlend t 0 = fBlend t 1 2 ∧ hBlend (-t) 0 = 0 ∧
      (0 ≤ t → leftWeights .extended t 0 = (hBlend (-t) 0, gBlend t 0)) ∧
      (t ≤ 1 → rightWeights .extended t 0 = (gBlend (1 - t) 0, hBlend (t - 1) 0)) := by
  refine ⟨fun p hp0 hp1 => ⟨fun n d hd => ?_, ?_, hasJet_fBlend_zero p, hasJet_fBlend_one p⟩,
    fun q hq0 hq1 => ⟨?_, hasJet_gBlend_zero q, hasJet_gBlend_one q, hasJet_hBlend_zero q,
      fun t => hBlend_neg t q⟩,
    fun t => ⟨gBlend_zero_shape t, hBlend_zero_shape t, leftWeights_zero_shape,
      rightWeights_zero_shape⟩⟩
  · have hne : (d == 0) = false := by simpa using hd
    simp [fBlend?, hne, fBlend_eq]
  · rw [fBlend_eq_byOrdinates]
    exact strictMonoOn_byOrdinates (rises_fOrdinates (by linarith) (by linarith)) zero_lt_one
  · rw [gBlend_eq_byOrdinates]
    exact strictMonoOn_byOrdinates (rises_gOrdinates hq0 hq1) zero_lt_one

/-- The quotient of two negative numbers, where the quintic has no fifth power, and the shape -1. -/
theorem blends_correct_steepest :
    fBlend? (-1 : ℚ) (-2) 6 = some (fBlend (1 / 2) 1 6) ∧
      fBlend (1 / 4 : ℚ) 1 6 < fBlend (1 / 2) 1 6 ∧
      deriv (deriv fun u : ℚ => fBlend u 1 6) 1 = -12 ∧
      gBlend (1 / 4 : ℚ) (1 / 2) < gBlend (1 / 2) (1 / 2) ∧
      deriv (deriv fun u : ℚ => gBlend u (1 / 2)) 0 = 2 ∧
      hBlend (-(1 / 2) : ℚ) (1 / 2) = -(3 / 64) ∧
      leftWeights .extended (1 / 2 : ℚ) 0 = (hBlend (-(1 / 2)) 0, gBlend (1 / 2) 0) := by
  obtain ⟨hf, hgh, hmeet⟩ := blends_correct (K := ℚ)
  obtain ⟨hquotient, hrise, -, hend⟩ := hf 6 (by norm_num) (by norm_num)
  obtain ⟨hrise', hstart, -, -, hfactored⟩ := hgh (1 / 2) (by norm_num) (by norm_num)
  obtain ⟨-, -, hleft, -⟩ := hmeet (1 / 2)
  have hquarter : (1 / 4 : ℚ) ∈ Set.Icc (0 : ℚ) 1 := ⟨by norm_num, by norm_num⟩
  have hhalf : (1 / 2 : ℚ) ∈ Set.Icc (0 : ℚ) 1 := ⟨by norm_num, by norm_num⟩
  refine ⟨?_, hrise hquarter hhalf (by norm_num), ?_, hrise' hquarter hhalf (by norm_num), ?_, ?_,
    hleft (by norm_num)⟩
  · rw [hquotient (-1) (-2) (by norm_num), neg_div_neg_eq]
  · rw [hend.hasCurvature.deriv]
    norm_num
  · rw [hstart.hasCurvature.deriv]
    norm_num
  · rw [hfactored]
    norm_num

end Meeting

end Scheme

end CurveKit
