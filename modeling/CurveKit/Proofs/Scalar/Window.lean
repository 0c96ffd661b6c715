import CurveKit.Proofs.Exact.Piece

/-!
# What a segment sees of its curve

The formula of a segment reads the control points within a fixed reach and no others, even
though what a scheme computes in advance is computed for the whole curve. If another curve
has the same points there, perhaps some places further on, and its ends are no nearer, the
formula is the same. Nothing is assumed about the scalars, so it is the same to the last
bit. Only the second derivatives of a natural spline depend on all points.

Results:
* `Kind.Sees`, `Kind.Whole`: the points that a segment sees, and when none are missing at an end.
* `Scheme.linePiece_around`, `Scheme.parabolaPiece_around`, `Scheme.catmullRomPiece_around`,
  `Scheme.tangentPiece_around`, `Scheme.cubicPiece_around`, `Scheme.blendPiece_around`: the formulas
  of the schemes, one by one.
* `Rule.piece_around`: all of them together.
* `Spline.SameAround.piece_eq`: the same for the curves of two splines.
-/
namespace CurveKit

/-! ## Reach -/

/-- How many points before and behind a segment its formula reads. -/
def Kind.reach : Kind → Nat
  | linear => 0
  | akima => 2
  | _ => 1

/-- Does the formula of segment `m` read point `j`? A parabola goes through the point before the
segment, or through the point behind the first one. -/
def Kind.Sees (kind : Kind) (m j : Nat) : Prop :=
  match kind with
  | quadratic => m - 1 ≤ j ∧ j ≤ m - 1 + 2
  | natural => True
  | kind => m ≤ j + kind.reach ∧ j ≤ m + 1 + kind.reach

/-- Are there all points among `n` that the formula of segment `m` would read? -/
def Kind.Whole (kind : Kind) (n m : Nat) : Prop :=
  match kind with
  | quadratic => 1 ≤ m
  | natural => False
  | kind => kind.reach ≤ m ∧ m + 1 + kind.reach < n

instance (kind : Kind) (m j : Nat) : Decidable (kind.Sees m j) :=
  match kind with
  | .natural => instDecidableTrue
  | .quadratic | .linear | .catmullRom | .sor | .akima | .tcb | .basicX | .extendedX | .generalX =>
    instDecidableAnd

instance (kind : Kind) (n m : Nat) : Decidable (kind.Whole n m) :=
  match kind with
  | .quadratic => Nat.decLe 1 m
  | .natural => instDecidableFalse
  | .linear | .catmullRom | .sor | .akima | .tcb | .basicX | .extendedX | .generalX =>
    instDecidableAnd

/-- No end of the segment is an end of the curve then, if the kind has shapes. -/
theorem Kind.inner_of_whole {kind : Kind} {n m : Nat} (h : kind.Whole n m) :
    kind.tag ≠ .globalShape ∧ kind.tag ≠ .perPointShape ∨ 0 < m ∧ m + 2 < n := by
  cases kind with
  | basicX | extendedX | generalX => exact .inr h
  | _ => exact .inl (by decide)

theorem Kind.sees_ends (kind : Kind) (m : Nat) : kind.Sees m m ∧ kind.Sees m (m + 1) := by
  cases kind with
  | natural => exact ⟨trivial, trivial⟩
  | quadratic => exact ⟨⟨by omega, by omega⟩, by omega, by omega⟩
  | _ => exact ⟨⟨by omega, by omega⟩, by omega, by omega⟩

/-- The entries around segment `m` stand in a second sequence too, `d` places further on. -/
def Around {α : Type} (reach n m d : Nat) (f f' : Nat → α) : Prop :=
  ∀ j < n, m ≤ j + reach ∧ j ≤ m + 1 + reach → f' (j + d) = f j

/-- Segment `m` of `n` points is as far from both ends as segment `m + d` of `n'` points, or the
ends are out of reach. -/
def SamePlace (reach n n' m d : Nat) : Prop :=
  n' = n ∧ d = 0 ∨ (reach ≤ m ∧ m + 1 + reach < n) ∧ n + d ≤ n'

namespace Around

variable {α : Type} {reach n m d j : Nat} {f f' : Nat → α}

theorem next (h : Around reach n m d f f') (hj : j + 1 < n) (hl : m ≤ j + 1 + reach)
    (hr : j ≤ m + reach) : f' (j + d + 1) = f (j + 1) := by
  rw [Nat.add_right_comm]
  exact h (j + 1) hj (by omega)

theorem ends (h : Around reach n m d f f') (hm : m + 1 < n) :
    f' (m + d) = f m ∧ f' (m + d + 1) = f (m + 1) :=
  ⟨h m (by omega) (by omega), h.next hm (by omega) (by omega)⟩

end Around

variable {K : Type} [Scalar K] {reach n n' m d i j : Nat} {x x' y y' : Nat → K}

/-! ## The formulas -/

namespace Scheme

theorem linePiece_around (hx : Around reach n m d x x') (hy : Around reach n m d y y')
    (hm : m + 1 < n) (t : K) : linePiece x' y' (m + d) t = linePiece x y m t := by
  simp only [linePiece, hx.ends hm, hy.ends hm]

/-- Three points in a row, `d` places further on. -/
theorem parabolaPiece_around (hx : ∀ j, m ≤ j → j ≤ m + 2 → x' (j + d) = x j)
    (hy : ∀ j, m ≤ j → j ≤ m + 2 → y' (j + d) = y j) (t : K) :
    parabolaPiece x' y' (m + d) t = parabolaPiece x y m t := by
  have shifted {f f' : Nat → K} (h : ∀ j, m ≤ j → j ≤ m + 2 → f' (j + d) = f j) :
      f' (m + d) = f m ∧ f' (m + d + 1) = f (m + 1) ∧ f' (m + d + 2) = f (m + 2) := by
    rw [Nat.add_right_comm m d 1, Nat.add_right_comm m d 2]
    exact ⟨h m (by omega) (by omega), h (m + 1) (by omega) (by omega),
      h (m + 2) (by omega) (by omega)⟩
  simp only [parabolaPiece, shifted hx, shifted hy]

/-! ### Secants and slopes -/

theorem secant_around (hx : Around reach n m d x x') (hy : Around reach n m d y y')
    (hj : j + 1 < n) (hl : m ≤ j + reach) (hr : j ≤ m + reach) :
    secant x' y' (j + d) = secant x y j := by
  have hw : m ≤ j + reach ∧ j ≤ m + 1 + reach := by omega
  rw [secant, secant, hx j (by omega) hw, hy j (by omega) hw, hx.next hj (by omega) hr,
    hy.next hj (by omega) hr]

/-- The extrapolated secants beyond an end come from segments that are seen as well. -/
theorem paddedSecant_around (hx : Around 2 n m d x x') (hy : Around 2 n m d y y')
    (hplace : SamePlace 2 n n' m d) (hn : 3 ≤ n) (hm : m + 1 < n) (hi : m ≤ i)
    (hi' : i ≤ m + 4) : paddedSecant n' x' y' (i + d) = paddedSecant n x y i := by
  have hsecant (j : Nat) (hj : j + 1 < n) (hl : m ≤ j + 2) (hr : j ≤ m + 2) :
      secant x' y' (j + d) = secant x y j := secant_around hx hy hj hl hr
  rcases hplace with ⟨rfl, rfl⟩ | ⟨hwhole, hle⟩
  · simp only [Nat.add_zero] at hsecant ⊢
    simp only [paddedSecant, beq_iff_eq]
    split_ifs
    · rw [hsecant 0 (by omega) (by omega) (by omega), hsecant 1 (by omega) (by omega) (by omega)]
    · rw [hsecant 0 (by omega) (by omega) (by omega), hsecant 1 (by omega) (by omega) (by omega)]
    · exact hsecant (i - 2) (by omega) (by omega) (by omega)
    · rw [hsecant (n' - 2) (by omega) (by omega) (by omega),
        hsecant (n' - 3) (by omega) (by omega) (by omega)]
    · rw [hsecant (n' - 2) (by omega) (by omega) (by omega),
        hsecant (n' - 3) (by omega) (by omega) (by omega)]
  · have hindex : i + d - 2 = i - 2 + d := by omega
    rw [paddedSecant_inner (by omega) (by omega), paddedSecant_inner (by omega) (by omega), hindex]
    exact hsecant (i - 2) (by omega) (by omega) (by omega)

theorem akimaSlope_around (hx : Around 2 n m d x x') (hy : Around 2 n m d y y')
    (hplace : SamePlace 2 n n' m d) (hn : 3 ≤ n) (hm : m + 1 < n) (hi : m ≤ i)
    (hi' : i ≤ m + 1) : akimaSlope n' x' y' (i + d) = akimaSlope n x y i := by
  have hpadded (k : Nat) (hk : k ≤ 3) :
      paddedSecant n' x' y' (i + d + k) = paddedSecant n x y (i + k) := by
    rw [Nat.add_right_comm]
    exact paddedSecant_around hx hy hplace hn hm (by omega) (by omega)
  have hown := hpadded 0 (by omega)
  simp only [Nat.add_zero] at hown
  simp only [akimaSlope, hown, hpadded 1 (by omega), hpadded 2 (by omega), hpadded 3 (by omega)]

/-- The cubic of a segment, from slopes at its ends. -/
theorem cubicPiece_around {p p' : Nat → Cubic K} {slope slope' : Nat → K}
    (hx : Around reach n m d x x') (hy : Around reach n m d y y') (hm : m + 1 < n)
    (hp : p m = slopeCubic x y slope m) (hp' : p' (m + d) = slopeCubic x' y' slope' (m + d))
    (hstart : slope' (m + d) = slope m) (hstop : slope' (m + d + 1) = slope (m + 1)) (t : K) :
    cubicPiece x' p' (m + d) t = cubicPiece x p m t := by
  have hsecant := secant_around hx hy hm (by omega) (by omega)
  simp only [cubicPiece, hp, hp', slopeCubic, hsecant, hx.ends hm, hy.ends hm, hstart, hstop]

theorem tangentPiece_around {p p' q q' : Nat → K} (hx : Around reach n m d x x')
    (hy : Around reach n m d y y') (hm : m + 1 < n) (hp : p' (m + d + 1) = p (m + 1))
    (hq : q' (m + d) = q m) (t : K) :
    tangentPiece x' y' p' q' (m + d) t = tangentPiece x y p q m t := by
  simp only [tangentPiece, hx.ends hm, hy.ends hm, hp, hq]

/-! ### Neighbours -/

section Neighbours

variable (hx : Around 1 n m d x x') (hy : Around 1 n m d y y') (hplace : SamePlace 1 n n' m d)
  (hm : m + 1 < n)

include hx hplace hm

section Point

variable (hi : m ≤ i) (hi' : i ≤ m + 1)

include hi hi'

omit [Scalar K] in
theorem neighbours_around : x' (i + d - 1) = x (i - 1) ∧
    x' (min (i + d + 1) (n' - 1)) = x (min (i + 1) (n - 1)) := by
  have hbefore : i + d - 1 = i - 1 + d := by
    unfold SamePlace at hplace
    omega
  have hbehind : min (i + d + 1) (n' - 1) = min (i + 1) (n - 1) + d := by
    unfold SamePlace at hplace
    omega
  rw [hbefore, hbehind]
  exact ⟨hx (i - 1) (by omega) (by omega), hx _ (by omega) (by omega)⟩

theorem backward_around : backward x' (i + d) = backward x i := by
  have hfirst : (i + d == 0) = (i == 0) := by
    unfold SamePlace at hplace
    rw [Bool.eq_iff_iff, beq_iff_eq, beq_iff_eq]
    omega
  obtain ⟨hbefore, -⟩ := neighbours_around hx hplace hm hi hi'
  rw [backward, backward, hfirst, hbefore, hx i (by omega) (by omega)]

theorem forward_around : forward n' x' (i + d) = forward n x i := by
  have hlast : (i + d + 1 == n') = (i + 1 == n) := by
    unfold SamePlace at hplace
    rw [Bool.eq_iff_iff, beq_iff_eq, beq_iff_eq]
    omega
  rw [forward, forward, hlast]
  split
  · rfl
  · rename_i hne
    rw [beq_iff_eq] at hne
    rw [hx.next (by omega) (by omega) (by omega), hx i (by omega) (by omega)]

include hy

theorem chordTangent_around (length : K) :
    chordTangent n' x' y' (i + d) length = chordTangent n x y i length := by
  obtain ⟨hbefore, hbehind⟩ := neighbours_around hx hplace hm hi hi'
  obtain ⟨hbefore', hbehind'⟩ := neighbours_around hy hplace hm hi hi'
  simp only [chordTangent, hbefore, hbehind, hbefore', hbehind']

theorem incomingTangent_around (p : Tcb K) :
    incomingTangent n' x' y' p (i + d) = incomingTangent n x y p i := by
  simp only [incomingTangent, backward_around hx hplace hm hi hi',
    forward_around hx hplace hm hi hi', backward_around hy hplace hm hi hi',
    forward_around hy hplace hm hi hi']

theorem outgoingTangent_around (p : Tcb K) :
    outgoingTangent n' x' y' p (i + d) = outgoingTangent n x y p i := by
  simp only [outgoingTangent, backward_around hx hplace hm hi hi',
    forward_around hx hplace hm hi hi', backward_around hy hplace hm hi hi',
    forward_around hy hplace hm hi hi']

theorem chordSlope_around : chordSlope n' x' y' (i + d) = chordSlope n x y i := by
  obtain ⟨hbefore, hbehind⟩ := neighbours_around hx hplace hm hi hi'
  obtain ⟨hbefore', hbehind'⟩ := neighbours_around hy hplace hm hi hi'
  unfold SamePlace at hplace
  simp only [chordSlope, beq_iff_eq]
  by_cases hfirst : i = 0
  · -- An end is seen only if nothing has moved.
    obtain ⟨rfl, rfl⟩ : n' = n ∧ d = 0 := by omega
    rw [if_pos hfirst, if_pos (by omega)]
    exact secant_around hx hy (j := 0) (by omega) (by omega) (by omega)
  · by_cases hlast : i + 1 = n
    · obtain ⟨rfl, rfl⟩ : n' = n ∧ d = 0 := by omega
      rw [if_neg hfirst, if_pos hlast, if_neg (by omega), if_pos hlast]
      exact secant_around hx hy (j := n' - 2) (by omega) (by omega) (by omega)
    · rw [if_neg hfirst, if_neg hlast, if_neg (by omega), if_neg (by omega), hbefore, hbefore',
        hx.next (by omega) (by omega) (by omega), hy.next (by omega) (by omega) (by omega)]

end Point

include hy

theorem catmullRomPiece_around (t : K) :
    catmullRomPiece n' x' y' (m + d) t = catmullRomPiece n x y m t := by
  have hstart := chordTangent_around hx hy hplace hm (le_refl m) (Nat.le_succ m)
  have hstop (length : K) :
      chordTangent n' x' y' (m + d + 1) length = chordTangent n x y (m + 1) length := by
    rw [Nat.add_right_comm]
    exact chordTangent_around hx hy hplace hm (Nat.le_succ m) (le_refl (m + 1)) length
  simp only [catmullRomPiece, hx.ends hm, hy.ends hm, hstart, hstop]

/-- A blend sees the shapes of the two ends of the segment, but for those of the whole curve. -/
theorem blendPiece_around (f : Family) {shape shape' : Nat → K}
    (hstart : 0 < m → shape' (m + d) = shape m)
    (hstop : m + 2 < n → shape' (m + d + 1) = shape (m + 1)) (t : K) :
    blendPiece f n' x' y' shape' (m + d) t = blendPiece f n x y shape m t := by
  have hleft : (if m + d == 0 then 0 else shape' (m + d)) = if m == 0 then 0 else shape m := by
    rcases Nat.eq_zero_or_pos m with rfl | hpos
    · obtain rfl : d = 0 := by
        unfold SamePlace at hplace
        omega
      rfl
    · simp only [beq_iff_eq, hstart hpos]
      rw [if_neg (by omega), if_neg (by omega)]
  have hright : (if m + d + 2 == n' then 0 else shape' (m + d + 1)) =
      if m + 2 == n then 0 else shape (m + 1) := by
    unfold SamePlace at hplace
    simp only [beq_iff_eq]
    by_cases hlast : m + 2 = n
    · rw [if_pos hlast, if_pos (by omega)]
    · rw [if_neg hlast, if_neg (by omega), hstop (by omega)]
  obtain ⟨hbefore, -⟩ := neighbours_around hy hplace hm (le_refl m) (Nat.le_succ m)
  obtain ⟨-, hbehind⟩ := neighbours_around hy hplace hm (Nat.le_succ m) (le_refl (m + 1))
  rw [Nat.add_right_comm m 1 d] at hbehind
  simp only [blendPiece, blendWeights, hleft, hright, hx.ends hm, hy.ends hm, hbefore]
  exact congrArg _ hbehind

end Neighbours

end Scheme

/-! ## The rules of the schemes -/

/-- Do two curves have the same extension data where the formula of segment `m` reads it? It reads
the triples of the segment's own sides, or the shapes of its ends, but for the ends of the curve. -/
def Kind.SameBends (kind : Kind) (n m d : Nat) (bend bend' : Nat → Bend K)
    (shared shared' : Bend K) : Prop :=
  match kind with
  | tcb => (bend' (m + d)).triple .outgoing = (bend m).triple .outgoing ∧
      (bend' (m + d + 1)).triple .incoming = (bend (m + 1)).triple .incoming
  | basicX => shared' = shared
  | extendedX => (0 < m → bend' (m + d) = bend m) ∧
      (m + 2 < n → bend' (m + d + 1) = bend (m + 1))
  | generalX => (0 < m → bend' (m + d) = bend m) ∧
      (m + 2 < n → bend' (m + d + 1) = bend (m + 1))
  | _ => True

theorem Kind.sameBends_of_eq {kind : Kind} {bend bend' : Nat → Bend K} {shared shared' : Bend K}
    (hstart : bend' (m + d) = bend m) (hstop : bend' (m + d + 1) = bend (m + 1))
    (hshared : kind = .basicX → shared' = shared) :
    kind.SameBends n m d bend bend' shared shared' := by
  cases kind with
  | tcb => exact ⟨by rw [hstart], by rw [hstop]⟩
  | basicX => exact hshared rfl
  | extendedX | generalX => exact ⟨fun _ => hstart, fun _ => hstop⟩
  | _ => trivial

namespace Rule

variable {kind : Kind} {bend bend' : Nat → Bend K} {shared shared' : Bend K} {r r' : Rule K}

/-- **Reach.** The formula of a segment is that of another curve, `d` places further on, if the
points and the extension data that it reads are the same there, and either nothing has moved or
no point is missing at an end. -/
theorem piece_around (hkind : kind ≠ .natural) (hn : kind.minPoints ≤ n) (hm : m + 1 < n)
    (hplace : n' = n ∧ d = 0 ∨ kind.Whole n m ∧ n + d ≤ n')
    (hx : ∀ j < n, kind.Sees m j → x' (j + d) = x j)
    (hy : ∀ j < n, kind.Sees m j → y' (j + d) = y j)
    (hbend : kind.SameBends n m d bend bend' shared shared')
    (hr : prepare kind n x y bend shared.freedom = .ok r)
    (hr' : prepare kind n' x' y' bend' shared'.freedom = .ok r') (t : K) :
    r'.piece n' x' y' (m + d) t = r.piece n x y m t := by
  have hstart : m + d < n' - 1 := by omega
  have hstart' : m + d < n' := by omega
  have hstop' : m + d + 1 < n' := by omega
  cases kind with
  | natural => exact absurd rfl hkind
  | linear =>
    cases hr
    cases hr'
    exact Scheme.linePiece_around hx hy hm t
  | quadratic =>
    cases hr
    cases hr'
    have hthree : 3 ≤ n := hn
    have hbefore : m + d - 1 = m - 1 + d := by
      rcases hplace with ⟨-, rfl⟩ | ⟨hwhole, -⟩
      · rfl
      · have hpos : 1 ≤ m := hwhole
        omega
    rw [piece, piece, hbefore]
    exact Scheme.parabolaPiece_around (fun j hl hr => hx j (by omega) ⟨hl, hr⟩)
      (fun j hl hr => hy j (by omega) ⟨hl, hr⟩) t
  | catmullRom =>
    cases hr
    cases hr'
    exact Scheme.catmullRomPiece_around hx hy hplace hm t
  | sor =>
    cases hr
    cases hr'
    refine Scheme.cubicPiece_around hx hy hm (nthCubic_tabulate _ (by omega))
      (nthCubic_tabulate _ hstart) ?_ ?_ t
    · exact Scheme.chordSlope_around hx hy hplace hm (le_refl m) (Nat.le_succ m)
    · rw [Nat.add_right_comm]
      exact Scheme.chordSlope_around hx hy hplace hm (Nat.le_succ m) (le_refl (m + 1))
  | akima =>
    cases hr
    cases hr'
    have hthree : 3 ≤ n := Nat.le_of_succ_le hn
    refine Scheme.cubicPiece_around hx hy hm (nthCubic_tabulate _ (by omega))
      (nthCubic_tabulate _ hstart) ?_ ?_ t
    · exact Scheme.akimaSlope_around hx hy hplace hthree hm (le_refl m) (Nat.le_succ m)
    · rw [Nat.add_right_comm]
      exact Scheme.akimaSlope_around hx hy hplace hthree hm (Nat.le_succ m) (le_refl (m + 1))
  | tcb =>
    cases hr
    cases hr'
    obtain ⟨hout, hin⟩ := hbend
    refine Scheme.tangentPiece_around hx hy hm ?_ ?_ t
    · rw [nth_tabulate _ hstop', nth_tabulate _ hm, hin, Nat.add_right_comm]
      exact Scheme.incomingTangent_around hx hy hplace hm (Nat.le_succ m) (le_refl (m + 1)) _
    · rw [nth_tabulate _ hstart', nth_tabulate _ (by omega), hout]
      exact Scheme.outgoingTangent_around hx hy hplace hm (le_refl m) (Nat.le_succ m) _
  | basicX =>
    cases hr
    cases hr'
    have hshared : shared' = shared := hbend
    refine Scheme.blendPiece_around hx hy hplace hm .basic (fun _ => ?_) (fun _ => ?_) t
    · rw [nth_tabulate _ hstart', nth_tabulate _ (by omega), hshared]
    · rw [nth_tabulate _ hstop', nth_tabulate _ hm, hshared]
  | extendedX | generalX =>
    cases hr
    cases hr'
    obtain ⟨hleft, hright⟩ := hbend
    refine Scheme.blendPiece_around hx hy hplace hm _ (fun hpos => ?_) (fun hpos => ?_) t
    · rw [nth_tabulate _ hstart', nth_tabulate _ (by omega), hleft hpos]
    · rw [nth_tabulate _ hstop', nth_tabulate _ hm, hright hpos]

end Rule

/-! ## Splines -/

namespace Spline

variable {s u : Spline K} {c c' : Curve K}

/-- A second spline has the points and the extension data that the formula of segment `m` reads,
`d` places further on. -/
structure SameAround (s u : Spline K) (m d : Nat) : Prop where
  kind : u.kind = s.kind
  points : ∀ j < s.store.size, s.kind.Sees m j →
    u.parameterAt (j + d) = s.parameterAt j ∧ u.values[j + d]? = s.values[j]?
  bends : s.kind.SameBends s.store.size m d s.bendAt u.bendAt s.shared u.shared

theorem sameAround_of_entries (hkind : u.kind = s.kind)
    (hshared : s.kind = .basicX → u.shared = s.shared) (hm : m + 1 < s.store.size)
    (h : ∀ j < s.store.size, s.kind.Sees m j →
      u.store.entries[j + d]? = s.store.entries[j]?) : s.SameAround u m d := by
  have hentry (j : Nat) (hj : j < s.store.size) (hsees : s.kind.Sees m j) :
      ∃ a, s.store.entries[j]? = some a ∧ u.store.entries[j + d]? = some a := by
    have ha : s.store.entries[j]? = some s.store.entries[j] := List.getElem?_eq_getElem hj
    exact ⟨_, ha, (h j hj hsees).trans ha⟩
  have hbend (j : Nat) (hj : j < s.store.size) (hsees : s.kind.Sees m j) :
      u.bendAt (j + d) = s.bendAt j := by
    obtain ⟨a, ha, ha'⟩ := hentry j hj hsees
    rw [bendAt_eq ha', bendAt_eq ha]
  obtain ⟨hstart, hstop⟩ := s.kind.sees_ends m
  refine ⟨hkind, fun j hj hsees => ?_, ?_⟩
  · obtain ⟨a, ha, ha'⟩ := hentry j hj hsees
    rw [parameterAt_eq ha', parameterAt_eq ha, getElem?_values, getElem?_values, ha', ha]
    exact ⟨rfl, rfl⟩
  · refine Kind.sameBends_of_eq (hbend m (by omega) hstart) ?_ hshared
    rw [Nat.add_right_comm]
    exact hbend (m + 1) hm hstop

theorem SameAround.ends (h : s.SameAround u m d) (hm : m + 1 < s.store.size) :
    u.parameterAt (m + d) = s.parameterAt m ∧
      u.parameterAt (m + d + 1) = s.parameterAt (m + 1) := by
  obtain ⟨hstart, hstop⟩ := s.kind.sees_ends m
  rw [Nat.add_right_comm]
  exact ⟨(h.points m (by omega) hstart).1, (h.points (m + 1) hm hstop).1⟩

omit [Scalar K] in
theorem hasText_eq (s : Spline K) (i : Nat) : s.hasText i =
    match s.kind.tag with
    | .globalShape => s.shared.isText
    | .perPointShape => (s.bendAt i).isText
    | _ => false := by
  unfold hasText
  cases s.kind.tag with
  | perPointShape =>
    unfold bendAt
    cases ha : s.store.contents[i]? <;> simp [ha, Bend.isText]
  | _ => rfl

omit [Scalar K] in
theorem hasText_of_plain (s : Spline K)
    (h : s.kind.tag ≠ .globalShape ∧ s.kind.tag ≠ .perPointShape) (i : Nat) :
    s.hasText i = false := by
  unfold hasText
  split
  · exact absurd ‹_› h.1
  · exact absurd ‹_› h.2
  · rfl

theorem SameAround.hasText (h : s.SameAround u m d) :
    (0 < m → u.hasText (m + d) = s.hasText m) ∧
      (m + 2 < s.store.size → u.hasText (m + d + 1) = s.hasText (m + 1)) := by
  have hbends := h.bends
  simp only [hasText_eq, h.kind]
  cases hkind : s.kind with
  | basicX =>
    rw [hkind] at hbends
    have hshared : u.shared = s.shared := hbends
    exact ⟨fun _ => congrArg Bend.isText hshared, fun _ => congrArg Bend.isText hshared⟩
  | extendedX | generalX =>
    rw [hkind] at hbends
    exact ⟨fun hm => congrArg Bend.isText (hbends.1 hm),
      fun hm => congrArg Bend.isText (hbends.2 hm)⟩
  | _ => exact ⟨fun _ => rfl, fun _ => rfl⟩

/-- The formula of the segment is the same, component by component. -/
theorem SameAround.piece_eq (h : s.SameAround u m d) (hs : s.Coherent) (hu : u.Coherent)
    (hb : s.build = .ok c) (hb' : u.build = .ok c') (hkind : s.kind ≠ .natural)
    (hm : m + 1 < s.store.size) (hplace : u.store.size = s.store.size ∧ d = 0 ∨
      s.kind.Whole s.store.size m ∧ s.store.size + d ≤ u.store.size) (t : K) :
    c'.piece (m + d) t = c.piece m t := by
  have hvalues (j : Nat) (hj : j < s.store.size) (hsees : s.kind.Sees m j) (k : Nat) :
      u.valueAt k (j + d) = s.valueAt k j := by
    rw [valueAt_eq, valueAt_eq, u.values.getD_eq_getElem?_getD, (h.points j hj hsees).2,
      s.values.getD_eq_getElem?_getD]
  have hterms : u.terms = s.terms := by
    have hlt : m < s.values.length := by
      rw [length_values]
      omega
    have hv : s.values[m]? = some s.values[m] := List.getElem?_eq_getElem hlt
    have hv' : u.values[m + d]? = some s.values[m] := by
      rw [(h.points m (by omega) (s.kind.sees_ends m).1).2, hv]
    rw [← hs.length_of_mem_values (List.mem_of_getElem? hv),
      ← hu.length_of_mem_values (List.mem_of_getElem? hv')]
  rw [piece_of_build hb', piece_of_build hb, hterms]
  refine List.map_congr_left fun k hk => ?_
  have hk := List.mem_range.1 hk
  have hrule := prepare_of_build hb' (k := k) (by rwa [hterms])
  rw [h.kind] at hrule
  exact Rule.piece_around hkind (minPoints_le_of_build hb) hm hplace
    (fun j hj hsees => (h.points j hj hsees).1) (fun j hj hsees => hvalues j hj hsees k) h.bends
    (prepare_of_build hb hk) hrule t

end Spline

end CurveKit
