import CurveKit.Pool
import CurveKit.Proofs.Exact.Interpolation
import CurveKit.Proofs.Spline.Checks
import Mathlib.Algebra.Polynomial.Eval.Degree
import Mathlib.Tactic.ComputeDegree

/-!
# Curves beyond their ends

Beyond its ends a curve is held, or it goes on. Most kinds are held at their first and last
point. A guided curve is held at the second and the second-to-last one, so that it never looks
at its outer segments, nor at the slopes of its ends. Lines and parabolas go on if the
configuration says so: each component stays the polynomial of the outer segment. Between the
ends, the ends included, the configuration does not matter, so it may be changed at any time.

Results:
* `Rule.eval_extrapolate`: between the ends all configurations give the same.
* `Rule.Joined.eval_first`, `Rule.Joined.eval_last`: outer formulas that go on.
* `Rule.exists_polynomial`: they are polynomials.
* `Rule.eval_guided`: what a guided component depends on.
* `Spline.Grown.holds`, `Spline.Grown.goesOn`: the ends of a finalized spline.
* `Spline.beyond_ends`: all kinds of splines beyond their ends.
-/
namespace CurveKit

open scoped Exact
open scoped Polynomial

variable {K : Type} [Field K] [LinearOrder K] {n i : Nat} {x y : Nat → K} {t : K}

/-! ## The formulas -/

theorem exists_segment (hx : Ascending n x) (hn : 2 ≤ n) (h0 : x 0 ≤ t) (h1 : t ≤ x (n - 1)) :
    ∃ i, i + 1 < n ∧ x i ≤ t ∧ t ≤ x (i + 1) := by
  obtain ⟨m, rfl⟩ : ∃ m, n = m + 2 := ⟨n - 2, by omega⟩
  rcases h1.eq_or_lt with rfl | hlt
  · exact ⟨m, by omega, hx.le (Nat.le_succ m) (by omega), le_refl _⟩
  · obtain ⟨hl, hr, hi⟩ := segment_spec hx h0 hlt hn
    exact ⟨_, hi, hl, hr.le⟩

namespace Scheme

theorem exists_polynomial_line (x y : Nat → K) (i : Nat) :
    ∃ P : K[X], P.natDegree ≤ 1 ∧ ∀ t, linePiece x y i t = P.eval t := by
  open Polynomial in
  refine ⟨C (y i) + C ((y (i + 1) - y i) / (x (i + 1) - x i)) * (X - C (x i)), ?_, fun t => ?_⟩
  · compute_degree!
  · simp only [linePiece, eval_add, eval_mul, eval_sub, eval_C, eval_X]
    ring

theorem exists_polynomial_parabola (x y : Nat → K) (i : Nat) :
    ∃ P : K[X], P.natDegree ≤ 2 ∧ ∀ t, parabolaPiece x y i t = P.eval t := by
  open Polynomial in
  let l (v p q r : K) : K[X] := C (v / ((p - q) * (p - r))) * ((X - C q) * (X - C r))
  refine ⟨l (y i) (x i) (x (i + 1)) (x (i + 2)) + l (y (i + 1)) (x (i + 1)) (x i) (x (i + 2)) +
    l (y (i + 2)) (x (i + 2)) (x i) (x (i + 1)), ?_, fun t => ?_⟩
  · simp only [l]
    compute_degree!
  · simp only [l, parabolaPiece, Polynomial.eval_add, Polynomial.eval_mul, Polynomial.eval_sub,
      Polynomial.eval_C, Polynomial.eval_X]
    ring

theorem guided_congr {p q : Nat → Cubic K} (hx : Ascending n x) (hn : 4 ≤ n)
    (h : ∀ i, 0 < i → i + 2 < n → p i = q i) (t : K) : guided n x y p t = guided n x y q t := by
  unfold guided
  split
  · rfl
  · rename_i hfirst
    split
    · rfl
    · rename_i hlast
      obtain ⟨hi, hin, -⟩ := segment_between (g := 1) hx hn (not_le.1 hfirst)
        (by rw [Nat.sub_sub]; exact not_le.1 hlast)
      rw [cubicPiece, h _ hi (by omega), cubicPiece]

end Scheme

/-! ## The rules of the schemes -/

theorem Kind.family?_of_continues {kind : Kind} {extrapolate : Bool}
    (h : kind.continues extrapolate = true) : kind.family? = none := by
  cases kind with
  | linear | quadratic => rfl
  | _ => cases h

namespace Rule

variable {kind : Kind} {bend : Nat → Bend K} {shape : K} {r : Rule K} {extrapolate : Bool}

section Continued

variable (h : r.Joined n x y) (hx : Ascending n x) (hn : 2 ≤ n)
  (hc : r.continues extrapolate = true)

include h hx hn hc

/-- A component that goes on is the formula of the first segment up to its end. -/
theorem Joined.eval_first (ht : t ≤ x 1) :
    r.eval extrapolate n x y t = r.piece n x y 0 t := by
  have hguides := guides_of_continues hc
  rcases le_total t (x 0) with hle | hge
  · rw [eval_before hx hn (by rwa [hguides]), if_pos hc]
  · exact h.eval_segment hx (by omega) (by omega) (by omega) hge ht

/-- It is the formula of the last segment from its start on. -/
theorem Joined.eval_last (ht : x (n - 2) ≤ t) :
    r.eval extrapolate n x y t = r.piece n x y (n - 2) t := by
  have hguides := guides_of_continues hc
  obtain ⟨m, rfl⟩ : ∃ m, n = m + 2 := ⟨n - 2, by omega⟩
  rcases le_total (x (m + 1)) t with hge | hle
  · rw [eval_behind hx (by omega) (by rwa [hguides]), if_pos hc]
  · exact h.eval_segment hx (by omega) (by omega) (by omega) ht hle

end Continued

/-- The formulas of lines and parabolas are polynomials. -/
theorem exists_polynomial (hr : prepare kind n x y bend shape = .ok r) {d : Nat}
    (hd : kind = .linear ∧ d = 1 ∨ kind = .quadratic ∧ d = 2) (i : Nat) :
    ∃ P : K[X], P.natDegree ≤ d ∧ ∀ t, r.piece n x y i t = P.eval t := by
  rcases hd with ⟨rfl, rfl⟩ | ⟨rfl, rfl⟩
  · cases hr
    exact Scheme.exists_polynomial_line x y i
  · cases hr
    exact Scheme.exists_polynomial_parabola x y (i - 1)

section Prepared

variable (hr : prepare kind n x y bend shape = .ok r) (hx : Ascending n x)
  (hn : kind.minPoints ≤ n)

include hr hx hn

theorem joined_of_continues {extrapolate : Bool} (hc : kind.continues extrapolate = true) :
    r.Joined n x y := by
  have hguides : 2 * r.guides + 2 ≤ n := by
    rw [guides_of_prepare hr]
    exact kind.guides_le.trans hn
  exact joined_of_links
    (fun i hi => links_of_prepare hr (Kind.family?_of_continues hc) hx hn hi) hguides

/-- Between the ends a component does not depend on whether it goes on beyond them. -/
theorem eval_extrapolate (h0 : x 0 ≤ t) (h1 : t ≤ x (n - 1)) (extrapolate extrapolate' : Bool) :
    r.eval extrapolate n x y t = r.eval extrapolate' n x y t := by
  have hmin := kind.guides_le
  cases hc : kind.continues true with
  | true =>
    have hjoined := joined_of_continues hr hx hn hc
    have hguides : r.guides = 0 :=
      guides_of_continues ((continues_of_prepare hr true).trans hc)
    obtain ⟨i, hi, hl, hr'⟩ := exists_segment hx (by omega) h0 h1
    rw [hjoined.eval_segment hx (by omega) (by omega) (by omega) hl hr',
      hjoined.eval_segment hx (by omega) (by omega) (by omega) hl hr']
  | false =>
    have hnever (b : Bool) : r.continues b = false := by
      rw [continues_of_prepare hr]
      cases kind <;> first | rfl | cases hc
    rw [eval_eq, eval_eq, hnever, hnever]

end Prepared

/-- A guided component depends on the slopes between its ends and on the cubics between its second
and its second-to-last point. Whatever the others are, they do not matter. -/
theorem eval_guided (hr : prepare .sor n x y bend shape = .ok r) (hx : Ascending n x)
    (hn : 4 ≤ n) {m : Nat → K} {p : Nat → Scheme.Cubic K}
    (hm : ∀ i, 0 < i → i + 1 < n →
      m i = (y (i + 1) - y (i - 1)) / (x (i + 1) - x (i - 1)))
    (hp : ∀ i, 0 < i → i + 2 < n → p i = Scheme.slopeCubic x y m i) (t : K) :
    r.eval extrapolate n x y t = Scheme.guided n x y p t := by
  cases hr
  refine Scheme.guided_congr hx hn (fun i h0 hi => ?_) t
  have hstart : Scheme.chordSlope n x y i = m i := by
    rw [Scheme.chordSlope_of_inner h0 (by omega), hm i h0 (by omega)]
  have hstop : Scheme.chordSlope n x y (i + 1) = m (i + 1) := by
    rw [Scheme.chordSlope_of_inner (by omega) hi, hm (i + 1) (by omega) hi]
  rw [nthCubic_tabulate _ (by omega), hp i h0 hi, Scheme.slopeCubic, hstart, hstop,
    Scheme.slopeCubic]

end Rule

/-! ## Splines -/

namespace Spline

variable {s : Spline K} {c : Curve K} {config : Config}

structure Holds (s : Spline K) (config : Config) (i j : Nat) : Prop where
  before : ∃ a, s.store.entries[i]? = some a ∧
    ∀ t ≤ a.parameter, s.get config (.ok t) = .ok a.content.value
  behind : ∃ a, s.store.entries[j]? = some a ∧
    ∀ t, a.parameter ≤ t → s.get config (.ok t) = .ok a.content.value

/-- On its outer segments and beyond them a spline is one polynomial in each component, of degree
`d` at most. -/
structure GoesOn (s : Spline K) (config : Config) (d : Nat) : Prop where
  before : ∃ P : Nat → K[X], (∀ k < s.terms, (P k).natDegree ≤ d) ∧
    ∀ t ≤ s.parameterAt 1,
      s.get config (.ok t) = .ok ((List.range s.terms).map fun k => (P k).eval t)
  behind : ∃ P : Nat → K[X], (∀ k < s.terms, (P k).natDegree ≤ d) ∧
    ∀ t, s.parameterAt (s.store.size - 2) ≤ t →
      s.get config (.ok t) = .ok ((List.range s.terms).map fun k => (P k).eval t)

/-- Slopes and cubics for all components that are those of a guided curve, but for the slopes of the
ends and the cubics of the outer segments. -/
structure Steers (s : Spline K) (m : Nat → Nat → K) (p : Nat → Nat → Scheme.Cubic K) : Prop where
  slope : ∀ k < s.terms, ∀ i, 0 < i → i + 1 < s.store.size →
    m k i = (s.valueAt k (i + 1) - s.valueAt k (i - 1)) /
      (s.parameterAt (i + 1) - s.parameterAt (i - 1))
  cubic : ∀ k < s.terms, ∀ i, 0 < i → i + 2 < s.store.size →
    p k i = Scheme.slopeCubic s.parameterAt (s.valueAt k) (m k) i

/-- A spline that does not go on is held. -/
theorem Grown.holds (hs : s.Grown) (hc : s.curve = some c)
    (hheld : s.kind.continues (config.isOn .extrapolate) = false) :
    s.Holds config s.kind.guides (s.store.size - 1 - s.kind.guides) := by
  have hb := hs.coherent.curve c hc
  obtain ⟨hx, hmin⟩ := points_of_build hb
  have hn : 2 * s.kind.guides + 2 ≤ s.store.size := s.kind.guides_le.trans hmin
  have hentry (i : Nat) (hi : i < s.store.size) : ∃ a, s.store.entries[i]? = some a :=
    ⟨_, List.getElem?_eq_getElem hi⟩
  have hguides (k : Nat) (hk : k < s.terms) := Rule.guides_of_prepare (prepare_of_build hb hk)
  have hnever (k : Nat) (hk : k < s.terms) :
      (c.ruleAt k).continues (config.isOn .extrapolate) = false :=
    (Rule.continues_of_prepare (prepare_of_build hb hk) _).trans hheld
  obtain ⟨a, ha⟩ := hentry s.kind.guides (by omega)
  obtain ⟨b, hb'⟩ := hentry (s.store.size - 1 - s.kind.guides) (by omega)
  refine ⟨⟨a, ha, fun t ht => ?_⟩, ⟨b, hb', fun t ht => ?_⟩⟩
  · rw [← parameterAt_eq ha] at ht
    refine hs.get_point hc config ha fun k hk => ?_
    rw [← hguides k hk] at ht ⊢
    rw [Rule.eval_before hx (by omega) ht, hnever k hk, if_neg Bool.false_ne_true]
  · rw [← parameterAt_eq hb'] at ht
    refine hs.get_point hc config hb' fun k hk => ?_
    rw [← hguides k hk] at ht hn ⊢
    rw [Rule.eval_behind hx hn ht, hnever k hk, if_neg Bool.false_ne_true]

/-- A spline of lines or parabolas that is not held goes on. -/
theorem Grown.goesOn (hs : s.Grown) (hc : s.curve = some c) {d : Nat}
    (hd : s.kind = .linear ∧ d = 1 ∨ s.kind = .quadratic ∧ d = 2)
    (hcontinues : s.kind.continues (config.isOn .extrapolate) = true) : s.GoesOn config d := by
  have hb := hs.coherent.curve c hc
  obtain ⟨hx, hmin⟩ := points_of_build hb
  have hn : 2 ≤ s.store.size := by
    have := s.kind.guides_le
    omega
  have hjoined (k : Nat) (hk : k < s.terms) :=
    Rule.joined_of_continues (prepare_of_build hb hk) hx hmin hcontinues
  have hgoes (k : Nat) (hk : k < s.terms) :
      (c.ruleAt k).continues (config.isOn .extrapolate) = true :=
    (Rule.continues_of_prepare (prepare_of_build hb hk) _).trans hcontinues
  have hpolynomial (i : Nat) : ∃ P : Nat → K[X], ∀ k < s.terms, (P k).natDegree ≤ d ∧
      ∀ t, (c.ruleAt k).piece s.store.size s.parameterAt (s.valueAt k) i t = (P k).eval t := by
    choose! P hP using fun k (hk : k < s.terms) =>
      Rule.exists_polynomial (prepare_of_build hb hk) hd i
    exact ⟨P, hP⟩
  constructor
  · obtain ⟨P, hP⟩ := hpolynomial 0
    refine ⟨P, fun k hk => (hP k hk).1, fun t ht => hs.get_components hc config fun k hk => ?_⟩
    rw [(hjoined k hk).eval_first hx hn (hgoes k hk) ht, (hP k hk).2]
  · obtain ⟨P, hP⟩ := hpolynomial (s.store.size - 2)
    refine ⟨P, fun k hk => (hP k hk).1, fun t ht => hs.get_components hc config fun k hk => ?_⟩
    rw [(hjoined k hk).eval_last hx hn (hgoes k hk) ht, (hP k hk).2]

/-- Between its ends a finalized spline answers the same under all configurations. -/
theorem Grown.get_configs (hs : s.Grown) (hc : s.curve = some c)
    (h0 : s.parameterAt 0 ≤ t) (h1 : t ≤ s.parameterAt (s.store.size - 1))
    (config config' : Config) : s.get config (.ok t) = s.get config' (.ok t) := by
  have hb := hs.coherent.curve c hc
  obtain ⟨hx, hmin⟩ := points_of_build hb
  rw [hs.get_eq hc config', eval_of_build hb]
  refine hs.get_components hc config fun k hk => ?_
  exact Rule.eval_extrapolate (prepare_of_build hb hk) hx hmin h0 h1 _ _

theorem Grown.get_steered (hs : s.Grown) (hc : s.curve = some c) (hk : s.kind = .sor)
    {m : Nat → Nat → K} {p : Nat → Nat → Scheme.Cubic K} (h : s.Steers m p) (config : Config)
    (t : K) : s.get config (.ok t) = .ok ((List.range s.terms).map fun k =>
      Scheme.guided s.store.size s.parameterAt (s.valueAt k) (p k) t) := by
  have hb := hs.coherent.curve c hc
  obtain ⟨hx, hmin⟩ := points_of_build hb
  rw [hk] at hmin
  refine hs.get_components hc config fun k hkt => ?_
  exact Rule.eval_guided (hk ▸ prepare_of_build hb hkt) hx hmin (h.slope k hkt) (h.cubic k hkt) t

theorem answer_on_evaluate {p : Pool K} {j : SplineId} (hp : p.splines[j]? = some s)
    (hc : s.curve = some c) (t : Reading K) :
    (p.on j fun config s => s.evaluate config t).answer =
      (s.get (p.config s.config) t).map fun v => (v, s.terms) := by
  have hfinal : s.isFinalized = true := by rw [isFinalized, hc, Option.isSome_some]
  simp only [Pool.on, hp, evaluate_eq_get (.inl hfinal), Run.ask]

/-- **Beyond the ends.** Take a finalized spline. Natural, Catmull-Rom, Akima, Kochanek-Bartels and
X-splines hold their first and last value from there on, whatever the configuration says. A guided
spline holds its second and its second-to-last value. In between it is the formula of a segment that
is not an outer one, so neither the outer cubics nor the end slopes matter anywhere. Lines and
parabolas hold their ends if they do not extrapolate; if they do, each component is one polynomial
on the outer segment and beyond it. Between the ends, the ends included, all configurations give the
same, also if an entry is changed after the spline was finalized. -/
theorem beyond_ends (hg : s.Grown) (hc : s.curve = some c) :
    let n := s.store.size
    let x := s.parameterAt
    (s.kind ∈ [.natural, .catmullRom, .akima, .tcb, .basicX, .extendedX, .generalX] →
      ∀ config, s.Holds config 0 (n - 1)) ∧
    (s.kind = .sor → ∀ config,
      s.Holds config 1 (n - 2) ∧
      (∀ t, x 1 < t → t < x (n - 2) →
        let i := segment n x t
        1 ≤ i ∧ i ≤ n - 3 ∧ x i ≤ t ∧ t < x (i + 1) ∧
          s.get config (.ok t) = .ok (c.piece i t)) ∧
      ∀ m p, s.Steers m p → ∀ t, s.get config (.ok t) =
        .ok ((List.range s.terms).map fun k => Scheme.guided n x (s.valueAt k) (p k) t)) ∧
    (∀ d, s.kind = .linear ∧ d = 1 ∨ s.kind = .quadratic ∧ d = 2 → ∀ config,
      (config.isOn .extrapolate = false → s.Holds config 0 (n - 1)) ∧
      (config.isOn .extrapolate = true → s.GoesOn config d)) ∧
    ∀ t, x 0 ≤ t → t ≤ x (n - 1) →
      (∀ config config', s.get config (.ok t) = s.get config' (.ok t)) ∧
      ∀ (p : Pool K) j, p.splines[j]? = some s → ∀ i key d,
        ((p.editConfig i key d).on j fun config s => s.evaluate config (.ok t)).answer =
          (p.on j fun config s => s.evaluate config (.ok t)).answer := by
  intro n x
  have hb := hg.coherent.curve c hc
  obtain ⟨hx, hmin⟩ := points_of_build hb
  have hends (config : Config) (hkind : s.kind.guides = 0 ∧
      s.kind.continues (config.isOn .extrapolate) = false) : s.Holds config 0 (n - 1) := by
    have hheld := hg.holds hc hkind.2
    rwa [hkind.1] at hheld
  refine ⟨fun hk config => hends config ?_,
    fun hk config => ⟨?_, fun t hl hr => ?_, fun m p h t => ?_⟩,
    fun d hd config => ⟨fun hoff => hends config ?_, fun hon => ?_⟩, fun t h0 h1 => ⟨?_, ?_⟩⟩
  · simp only [List.mem_cons, List.not_mem_nil, or_false] at hk
    rcases hk with hk | hk | hk | hk | hk | hk | hk <;> rw [hk] <;> exact ⟨rfl, rfl⟩
  · have hheld : s.Holds config s.kind.guides (n - 1 - s.kind.guides) :=
      hg.holds hc (by rw [hk]; rfl)
    rwa [hk] at hheld
  · have hn : 4 ≤ n := by
      rw [hk] at hmin
      exact hmin
    have hr' : t < x (n - 1 - 1) := by rwa [Nat.sub_sub]
    obtain ⟨hi, hin, hstart, hstop⟩ := segment_between (n := n) (x := x) (g := 1) hx hn hl hr'
    refine ⟨hi, by omega, hstart, hstop, hg.get_between hc config ?_ ?_⟩
    · rwa [hk]
    · rwa [hk]
  · exact hg.get_steered hc hk h config t
  · rcases hd with ⟨hk, -⟩ | ⟨hk, -⟩ <;> rw [hk, hoff] <;> exact ⟨rfl, rfl⟩
  · refine hg.goesOn hc hd ?_
    rcases hd with ⟨hk, -⟩ | ⟨hk, -⟩ <;> rw [hk] <;> exact hon
  · exact hg.get_configs hc h0 h1
  · intro p j hp i key d
    have hedited : (p.editConfig i key d).splines[j]? = some s := hp
    rw [answer_on_evaluate hedited hc, answer_on_evaluate hp hc, hg.get_configs hc h0 h1]

/-- Two finalized splines on rational points: a guided one, and a straight line that was told not to
extrapolate after it had been finalized. -/
theorem beyond_ends_switched :
    let s : Spline ℚ := ((((empty .sor 0).place 3 [1] .none).place 0 [4] .none).place 6 [5]
      .none).place 1 [2] .none
    let u : Spline ℚ := ((empty .linear 0).place 2 [5] .none).place 0 [1] .none
    let held := Config.builtin.set Switch.extrapolate.key (.bool false)
    (∃ c, s.build = .ok c ∧ ∀ t ≤ 1, get .builtin { s with curve := some c } (.ok t) = .ok [2]) ∧
      ∃ c, u.build = .ok c ∧
        (∀ t ≤ 0, get held { u with curve := some c } (.ok t) = .ok [1]) ∧
        (∃ P : ℚ[X], P.natDegree ≤ 1 ∧ ∀ t ≤ 2,
          get .builtin { u with curve := some c } (.ok t) = .ok [P.eval t]) ∧
        ∀ t, 0 ≤ t → t ≤ 2 → get .builtin { u with curve := some c } (.ok t) =
          get held { u with curve := some c } (.ok t) := by
  intro s u held
  constructor
  · have hg : s.Grown := by
      refine .place_plain (.place_plain (.place_plain (.place_plain (.empty .sor 0) rfl rfl
        (by decide) ?_) rfl rfl (by decide) ?_) rfl rfl (by decide) ?_) rfl rfl (by decide) ?_
      all_goals decide +kernel
    obtain ⟨c, hb⟩ : ∃ c, s.build = .ok c := exists_ok_of_isOk (by decide +kernel)
    obtain ⟨-, hguided, -⟩ := beyond_ends (hg.rebuilt hb) rfl
    obtain ⟨⟨⟨a, ha, hbefore⟩, -⟩, -⟩ := hguided rfl .builtin
    have hsecond : s.store.entries[1]? = some ⟨1, ⟨[2], .none⟩⟩ :=
      entry_eq (by decide +kernel) (by decide +kernel)
    obtain rfl : a = ⟨1, ⟨[2], .none⟩⟩ := Option.some.inj (ha.symm.trans hsecond)
    exact ⟨c, hb, hbefore⟩
  · have hg : u.Grown := by
      refine .place_plain (.place_plain (.empty .linear 0) rfl rfl (by decide) ?_) rfl rfl
        (by decide) ?_
      all_goals decide +kernel
    obtain ⟨c, hb⟩ : ∃ c, u.build = .ok c := exists_ok_of_isOk (by decide +kernel)
    obtain ⟨-, -, hlines, hconfigs⟩ := beyond_ends (hg.rebuilt hb) rfl
    have hparameter : u.parameterAt 0 = 0 ∧ u.parameterAt 1 = 2 := by decide +kernel
    have hterms : u.terms = 1 := by decide +kernel
    have hsize : u.store.size = 2 := by decide +kernel
    have hfirst : u.store.entries[0]? = some ⟨0, ⟨[1], .none⟩⟩ :=
      entry_eq (by decide +kernel) (by decide +kernel)
    obtain ⟨⟨a, ha, hbefore⟩, -⟩ := (hlines 1 (.inl ⟨rfl, rfl⟩) held).1 rfl
    obtain rfl : a = ⟨0, ⟨[1], .none⟩⟩ := Option.some.inj (ha.symm.trans hfirst)
    obtain ⟨P, hdegree, hP⟩ := ((hlines 1 (.inl ⟨rfl, rfl⟩) .builtin).2 rfl).before
    rw [show Spline.terms { u with curve := some c } = 1 from hterms] at hdegree hP
    refine ⟨c, hb, hbefore, ⟨P 0, hdegree 0 Nat.one_pos, fun t ht => ?_⟩, fun t h0 h1 => ?_⟩
    · exact hP t (hparameter.2.symm ▸ ht)
    · refine (hconfigs t (hparameter.1.symm ▸ h0) ?_).1 .builtin held
      show t ≤ u.parameterAt (u.store.size - 1)
      rwa [hsize, hparameter.2]

end Spline

end CurveKit
