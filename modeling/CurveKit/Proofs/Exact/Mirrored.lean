import CurveKit.Proofs.Exact.Rescaled

/-!
# Curves that run backwards

A negative factor reverses the order of the points: the start of a curve becomes its end,
and the two ends of every segment change their places. Padding and clamping at one end then
have to do what they did at the other end. All schemes but the quadratic one, whose
parabolas look to one side, treat both directions alike; a Kochanek-Bartels point is passed
the other way round, so its triples change their places and their bias turns. A control
point lies in the segment behind it in either direction, so that the two curves use
different formulas there, and agree because these are joined.

Results:
* `Mirrored.position`: the position of a parameter in a segment that is run through backwards.
* `Scheme.linePiece_mirror`, `Scheme.naturalPiece_mirror`, `Scheme.catmullRomPiece_mirror`,
  `Scheme.tangentPiece_mirror`, `Scheme.cubicPiece_mirror`, `Scheme.blendPiece_mirror`: the formulas
  of the schemes, one by one.
* `Scheme.Moments.mirror`: the second derivatives of a natural spline.
* `Rule.piece_mirror`, `Rule.eval_mirror`: all of them together, and the ends.
* `Spline.reparametrised`: what a spline on other parameters answers.
-/
namespace CurveKit

open scoped Exact

/-! ## Extension data -/

/-- The triple of a tangent that is run through backwards. -/
def Tcb.mirror {K : Type} [Neg K] (p : Tcb K) : Tcb K := { p with bias := -p.bias }

def Side.other : Side → Side
  | incoming => outgoing
  | outgoing => incoming

/-- The extension data of a control point that is passed the other way round. -/
def Bend.mirror {K : Type} [Neg K] : Bend K → Bend K
  | tcb incoming outgoing => tcb outgoing.mirror incoming.mirror
  | b => b

/-- A control point that is passed the other way round. -/
def Knot.mirror {K : Type} [Neg K] (a : Knot K) : Knot K := { a with bend := a.bend.mirror }

/-- One sequence runs through the other one backwards. -/
def Mirrored {α : Type} (n : Nat) (f f' : Nat → α) : Prop := ∀ i < n, f' i = f (n - 1 - i)

theorem Mirrored.apply {α : Type} {n i j : Nat} {f f' : Nat → α} (h : Mirrored n f f')
    (hij : i + j + 1 = n) : f' j = f i := by
  rw [h j (by omega), show n - 1 - j = i by omega]

theorem getD_reverse_map {α β : Type} (f : α → β) {l : List α} {i : Nat} (hi : i < l.length)
    (d : α) (d' : β) :
    (l.map f).reverse.toArray.getD i d' = f (l.toArray.getD (l.length - 1 - i) d) := by
  have hlast : l.length - 1 - i < l.length := by omega
  simp [hi, hlast]

theorem Mirrored.ends {α : Type} {n i j : Nat} {f f' : Nat → α} (h : Mirrored n f f')
    (hij : i + j + 2 = n) : f' j = f (i + 1) ∧ f' (j + 1) = f i :=
  ⟨h.apply (by omega), h.apply (by omega)⟩

variable {K : Type} [Field K] [LinearOrder K] {n i j : Nat} {x x' y y' : Nat → K}

@[simp] theorem Bend.freedom_mirror (b : Bend K) : b.mirror.freedom = b.freedom := by
  cases b <;> rfl

omit [LinearOrder K] in
theorem Bend.isFor_mirror {kind : Kind} {b : Bend K} : b.mirror.IsFor kind ↔ b.IsFor kind := by
  cases b <;> exact Iff.rfl

@[simp] theorem Bend.triple_mirror (b : Bend K) (side : Side) :
    b.mirror.triple side = (b.triple side.other).mirror := by
  cases b <;> cases side <;> simp [mirror, triple, Side.other, Tcb.mirror]

/-! ## The formulas -/

omit [LinearOrder K] in
theorem Mirrored.position (hx : Mirrored n x x') (hij : i + j + 2 = n) (hne : x i ≠ x (i + 1))
    (t : K) :
    (t - x' j) / (x' (j + 1) - x' j) = 1 - (t - x i) / (x (i + 1) - x i) := by
  obtain ⟨hstart, hstop⟩ := hx.ends hij
  have hback : x i - x (i + 1) ≠ 0 := sub_ne_zero.2 hne
  have hforth : x (i + 1) - x i ≠ 0 := sub_ne_zero.2 hne.symm
  rw [hstart, hstop]
  field_simp
  ring

namespace Scheme

section Formulas

variable (hx : Mirrored n x x') (hy : Mirrored n y y')

include hx hy

theorem linePiece_mirror (hij : i + j + 2 = n) (hne : x i ≠ x (i + 1)) (t : K) :
    linePiece x' y' j t = linePiece x y i t := by
  obtain ⟨hstart, hstop⟩ := hy.ends hij
  simp only [linePiece]
  rw [hx.position hij hne, hstart, hstop]
  ring

/-- A quotient of differences does not see the direction. -/
theorem secant_mirror (hij : i + j + 2 = n) : secant x' y' j = secant x y i := by
  obtain ⟨hstart, hstop⟩ := hx.ends hij
  obtain ⟨hstart', hstop'⟩ := hy.ends hij
  rw [secant, secant, hstart, hstop, hstart', hstop', ← neg_sub (y (i + 1)), ← neg_sub (x (i + 1)),
    neg_div_neg_eq]

omit hy in
theorem naturalPiece_mirror {m m' : Nat → K} (hy : Mirrored n y y') (hm : Mirrored n m m')
    (hij : i + j + 2 = n) (t : K) : naturalPiece x' y' m' j t = naturalPiece x y m i t := by
  obtain ⟨hstart, hstop⟩ := hx.ends hij
  obtain ⟨hstart', hstop'⟩ := hy.ends hij
  obtain ⟨hstart'', hstop''⟩ := hm.ends hij
  have hquotient (u v : K) : (u - v) / (x i - x (i + 1)) = (v - u) / (x (i + 1) - x i) := by
    rw [← neg_sub v, ← neg_sub (x (i + 1)), neg_div_neg_eq]
  simp only [naturalPiece]
  rw [hstart, hstop, hstart', hstop', hstart'', hstop'', hquotient, hquotient]
  ring

/-- The second derivatives that solve the system of a natural spline run backwards as well. -/
theorem Moments.mirror {m : Nat → K} (hm : Moments n x y m) :
    Moments n x' y' fun i => m (n - 1 - i) where
  solves := by
    have hlast : m (n - 1) = 0 := hm.beyond _ (le_refl _)
    refine solves_of_rows (by rwa [Nat.sub_zero]) (by rw [Nat.sub_self, hm.first]) fun j hj => ?_
    obtain ⟨i, hij⟩ : ∃ i, i + j + 3 = n := ⟨n - 3 - j, by omega⟩
    have hrow := solves_momentRows hm.solves hm.first hlast (show i + 2 < n by omega)
    have hbefore : (y' (j + 1) - y' j) / (x' (j + 1) - x' j) = _ :=
      secant_mirror hx hy (show (i + 1) + j + 2 = n by omega)
    have hbehind : (y' (j + 2) - y' (j + 1)) / (x' (j + 2) - x' (j + 1)) = _ :=
      secant_mirror hx hy (show i + (j + 1) + 2 = n by omega)
    rw [hbefore, hbehind, hx.apply (show (i + 2) + j + 1 = n by omega),
      hx.apply (show (i + 1) + (j + 1) + 1 = n by omega),
      hx.apply (show i + (j + 2) + 1 = n by omega), show n - 1 - j = i + 2 by omega,
      show n - 1 - (j + 1) = i + 1 by omega, show n - 1 - (j + 2) = i by omega]
    simp only [secant]
    linear_combination -hrow
  first := hm.beyond _ (by omega)
  beyond i hi := by rw [show n - 1 - i = 0 by omega, hm.first]

omit hx hy in
theorem hermite_mirror (u v0 v1 m0 m1 : K) :
    hermite (1 - u) v1 v0 (-m1) (-m0) = hermite u v0 v1 m0 m1 := by
  simp only [hermite, Scalar.ofNat_eq, Scalar.one_eq]
  ring

theorem chordTangent_mirror (hij : i + j + 1 = n) (length : K) :
    chordTangent n x' y' j (-length) = -chordTangent n x y i length := by
  have hbefore : min (i + 1) (n - 1) + (j - 1) + 1 = n := by omega
  have hbehind : (i - 1) + min (j + 1) (n - 1) + 1 = n := by omega
  simp only [chordTangent]
  rw [hx.apply hbefore, hx.apply hbehind, hy.apply hbefore, hy.apply hbehind,
    ← neg_sub (x (min (i + 1) (n - 1))), neg_div_neg_eq]
  ring

theorem catmullRomPiece_mirror (hij : i + j + 2 = n) (hne : x i ≠ x (i + 1)) (t : K) :
    catmullRomPiece n x' y' j t = catmullRomPiece n x y i t := by
  obtain ⟨hstart, hstop⟩ := hx.ends hij
  obtain ⟨hstart', hstop'⟩ := hy.ends hij
  simp only [catmullRomPiece]
  rw [hx.position hij hne, hstart, hstop, hstart', hstop', ← neg_sub (x (i + 1)),
    chordTangent_mirror hx hy (show (i + 1) + j + 1 = n by omega),
    chordTangent_mirror hx hy (show i + (j + 1) + 1 = n by omega), hermite_mirror]

omit hy in
theorem backward_mirror (hij : i + j + 1 = n) : backward x' j = -forward n x i := by
  simp only [backward, forward, beq_iff_eq, Scalar.zero_eq]
  by_cases hj : j = 0
  · rw [if_pos hj, if_pos (by omega), neg_zero]
  · rw [if_neg hj, if_neg (by omega), hx.apply hij,
      hx.apply (show (i + 1) + (j - 1) + 1 = n by omega), neg_sub]

omit hy in
theorem forward_mirror (hij : i + j + 1 = n) : forward n x' j = -backward x i := by
  simp only [backward, forward, beq_iff_eq, Scalar.zero_eq]
  by_cases hi : i = 0
  · rw [if_pos hi, if_pos (by omega), neg_zero]
  · rw [if_neg hi, if_neg (by omega), hx.apply hij,
      hx.apply (show (i - 1) + (j + 1) + 1 = n by omega), neg_sub]

omit hx hy in
theorem incomingMix_mirror (p : Tcb K) (before behind : K) :
    incomingMix p.mirror (-behind) (-before) = -outgoingMix p before behind := by
  simp only [incomingMix, outgoingMix, Tcb.mirror, Scalar.ofNat_eq, Scalar.one_eq]
  ring

omit hx hy in
theorem outgoingMix_mirror (p : Tcb K) (before behind : K) :
    outgoingMix p.mirror (-behind) (-before) = -incomingMix p before behind := by
  simp only [incomingMix, outgoingMix, Tcb.mirror, Scalar.ofNat_eq, Scalar.one_eq]
  ring

omit [LinearOrder K] hx hy in
theorem scale_mirror (before behind u : K) :
    2 * -u / (-behind + -before) = 2 * u / (before + behind) := by
  rw [← neg_add, mul_neg, neg_div_neg_eq, add_comm]

theorem incomingTangent_mirror (p : Tcb K) (hij : i + j + 1 = n) :
    incomingTangent n x' y' p.mirror j = -outgoingTangent n x y p i := by
  simp only [incomingTangent, outgoingTangent, incomingScale, outgoingScale]
  rw [backward_mirror hx hij, forward_mirror hx hij, backward_mirror hy hij,
    forward_mirror hy hij, incomingMix_mirror, neg_mul]
  exact congrArg _ (congrArg _ (scale_mirror _ _ _))

theorem outgoingTangent_mirror (p : Tcb K) (hij : i + j + 1 = n) :
    outgoingTangent n x' y' p.mirror j = -incomingTangent n x y p i := by
  simp only [incomingTangent, outgoingTangent, incomingScale, outgoingScale]
  rw [backward_mirror hx hij, forward_mirror hx hij, backward_mirror hy hij,
    forward_mirror hy hij, outgoingMix_mirror, neg_mul]
  exact congrArg _ (congrArg _ (scale_mirror _ _ _))

theorem tangentPiece_mirror {p p' q q' : Nat → K} (hij : i + j + 2 = n) (hne : x i ≠ x (i + 1))
    (hp : p' (j + 1) = -q i) (hq : q' j = -p (i + 1)) (t : K) :
    tangentPiece x' y' p' q' j t = tangentPiece x y p q i t := by
  obtain ⟨hstart, hstop⟩ := hy.ends hij
  simp only [tangentPiece]
  rw [hx.position hij hne, hstart, hstop, hp, hq, hermite_mirror]

theorem chordSlope_mirror (hn : 2 ≤ n) (hij : i + j + 1 = n) :
    chordSlope n x' y' j = chordSlope n x y i := by
  simp only [chordSlope, beq_iff_eq]
  by_cases hi : i = 0
  · subst hi
    rw [if_neg (by omega), if_pos (by omega), if_pos rfl,
      secant_mirror hx hy (show 0 + (n - 2) + 2 = n by omega)]
  · by_cases hj : j = 0
    · rw [if_pos hj, if_neg hi, if_pos (by omega),
        secant_mirror hx hy (show (n - 2) + 0 + 2 = n by omega)]
    · have hbefore : (i - 1) + (j + 1) + 1 = n := by omega
      have hbehind : (i + 1) + (j - 1) + 1 = n := by omega
      rw [if_neg hj, if_neg hi, if_neg (by omega), if_neg (by omega), hx.apply hbefore,
        hx.apply hbehind, hy.apply hbefore, hy.apply hbehind, ← neg_sub (y (i + 1)),
        ← neg_sub (x (i + 1)), neg_div_neg_eq]

/-- The secants beyond one end are those beyond the other one. -/
theorem paddedSecant_mirror (hn : 3 ≤ n) {k l : Nat} (hkl : k + l = n + 2) :
    paddedSecant n x' y' l = paddedSecant n x y k := by
  have hinner (k l : Nat) (hkl : k + l + 2 = n) : secant x' y' l = secant x y k :=
    secant_mirror hx hy hkl
  have h0 := hinner (n - 2) 0 (by omega)
  have h1 := hinner (n - 3) 1 (by omega)
  have h2 := hinner 0 (n - 2) (by omega)
  have h3 := hinner 1 (n - 3) (by omega)
  simp only [paddedSecant, beq_iff_eq, h0, h1, h2, h3]
  by_cases hl0 : l = 0
  · rw [if_pos hl0, if_neg (by omega), if_neg (by omega), if_neg (by omega), if_neg (by omega)]
  · by_cases hl1 : l = 1
    · rw [if_neg hl0, if_pos hl1, if_neg (by omega), if_neg (by omega), if_neg (by omega),
        if_pos (by omega)]
    · by_cases hk0 : k = 0
      · rw [if_neg hl0, if_neg hl1, if_neg (by omega), if_neg (by omega), if_pos hk0]
      · by_cases hk1 : k = 1
        · rw [if_neg hl0, if_neg hl1, if_neg (by omega), if_pos (by omega), if_neg hk0, if_pos hk1]
        · rw [if_neg hl0, if_neg hl1, if_pos (by omega), if_neg hk0, if_neg hk1,
            if_pos (by omega), hinner (k - 2) (l - 2) (by omega)]

omit hx hy in
theorem weightedSlope_comm (before behind p q : K) :
    weightedSlope behind before q p = weightedSlope before behind p q := by
  simp only [weightedSlope]
  rw [add_comm q p, add_comm behind before, add_comm (q * behind)]

theorem akimaSlope_mirror (hn : 3 ≤ n) (hij : i + j + 1 = n) :
    akimaSlope n x' y' j = akimaSlope n x y i := by
  have hpadded {k l : Nat} (hkl : k + l = n + 2) := paddedSecant_mirror hx hy hn hkl
  have hchange (u v : K) : Scalar.magnitude (u - v) = Scalar.magnitude (v - u) := abs_sub_comm u v
  simp only [akimaSlope]
  rw [hpadded (show (i + 3) + j = n + 2 by omega),
    hpadded (show (i + 2) + (j + 1) = n + 2 by omega),
    hpadded (show (i + 1) + (j + 2) = n + 2 by omega),
    hpadded (show i + (j + 3) = n + 2 by omega), weightedSlope_comm, hchange (paddedSecant n x y i),
    hchange (paddedSecant n x y (i + 2)) (paddedSecant n x y (i + 3))]

theorem cubicPiece_mirror {p q : Nat → Cubic K} {m m' : Nat → K} (hp : p i = slopeCubic x y m i)
    (hq : q j = slopeCubic x' y' m' j) (hij : i + j + 2 = n) (hne : x i ≠ x (i + 1))
    (h0 : m' j = m (i + 1)) (h1 : m' (j + 1) = m i) (t : K) :
    cubicPiece x' q j t = cubicPiece x p i t := by
  obtain ⟨hstart, hstop⟩ := hx.ends hij
  obtain ⟨hstart', -⟩ := hy.ends hij
  have hback : x i - x (i + 1) ≠ 0 := sub_ne_zero.2 hne
  have hforth : x (i + 1) - x i ≠ 0 := sub_ne_zero.2 hne.symm
  rw [cubicPiece, cubicPiece, hp, hq]
  simp only [Cubic.eval, slopeCubic, Scalar.ofNat_eq]
  rw [secant_mirror hx hy hij, hstart, hstop, hstart', h0, h1, secant]
  field_simp
  ring

end Formulas

section Blends

variable [IsStrictOrderedRing K] {f : Family} {shape shape' : Nat → K}

theorem weights_mirror (f : Family) (u s1 s2 : K) :
    weights f (1 - u) s2 s1 = ⟨(weights f u s1 s2).w3, (weights f u s1 s2).w2,
      (weights f u s1 s2).w1, (weights f u s1 s2).w0⟩ := by
  rw [weights_eq, weights_eq, sub_sub_cancel]

omit [IsStrictOrderedRing K] in
theorem mean_mirror (w : Weights K) (p0 p1 p2 p3 : K) :
    Weights.mean ⟨w.w3, w.w2, w.w1, w.w0⟩ p3 p2 p1 p0 = w.mean p0 p1 p2 p3 := by
  simp only [Weights.mean, Weights.total]
  congr 1 <;> ring

omit [IsStrictOrderedRing K] [LinearOrder K] in
theorem actingShape_mirror (hs : Mirrored n shape shape') (hij : i + j + 1 = n) :
    actingShape n shape' j = actingShape n shape i := by
  rw [actingShape, actingShape, hs.apply hij]
  exact if_congr (by omega) rfl rfl

theorem blendPiece_mirror (hx : Mirrored n x x') (hy : Mirrored n y y')
    (hs : Mirrored n shape shape') (hij : i + j + 2 = n) (hne : x i ≠ x (i + 1)) (t : K) :
    blendPiece f n x' y' shape' j t = blendPiece f n x y shape i t := by
  obtain ⟨hstart, hstop⟩ := hy.ends hij
  rw [blendPiece, blendPiece, blendWeights_eq (by omega), blendWeights_eq (by omega),
    hx.position hij hne, actingShape_mirror hs (show (i + 1) + j + 1 = n by omega),
    actingShape_mirror hs (show i + (j + 1) + 1 = n by omega), weights_mirror,
    hy.apply (show min (i + 2) (n - 1) + (j - 1) + 1 = n by omega), hstart, hstop,
    hy.apply (show (i - 1) + min (j + 2) (n - 1) + 1 = n by omega), mean_mirror]

end Blends

end Scheme

/-! ## The rules of the schemes -/

theorem mirrored_tabulate {f f' : Nat → K} (h : Mirrored n f f') :
    Mirrored n (nth (tabulate n f)) (nth (tabulate n f')) := by
  intro i hi
  rw [nth_tabulate _ hi, nth_tabulate _ (by omega), h i hi]

namespace Rule

variable {kind : Kind} {bend bend' : Nat → Bend K} {shape a b : K} {p q : Rule K}

/-- The shapes travel with their points. -/
theorem shapes_mirror (hp : prepare kind n x y bend shape = .ok p)
    (hq : prepare kind n x' y' bend' shape = .ok q)
    (hbend : Mirrored n (fun i => (bend i).mirror) bend') {f : Scheme.Family} {shapes' : Array K}
    (hf : q = .blends f shapes') :
    ∃ shapes, p = .blends f shapes ∧ Mirrored n (nth shapes) (nth shapes') := by
  have hfreedom : Mirrored n (fun i => (bend i).freedom) fun i => (bend' i).freedom := by
    intro i hi
    exact (congrArg Bend.freedom (hbend i hi)).trans (Bend.freedom_mirror _)
  cases kind with
  | natural =>
    obtain ⟨m, -, rfl⟩ := map_eq_ok.1 hq
    cases hf
  | basicX =>
    cases hp
    cases hq
    cases hf
    exact ⟨_, rfl, mirrored_tabulate fun _ _ => rfl⟩
  | extendedX | generalX =>
    cases hp
    cases hq
    cases hf
    exact ⟨_, rfl, mirrored_tabulate hfreedom⟩
  | _ =>
    cases hq
    cases hf

variable [IsStrictOrderedRing K]

theorem joined_of_prepare (hp : prepare kind n x y bend shape = .ok p) (hx : Ascending n x)
    (hn : kind.minPoints ≤ n)
    (hadmits : ∀ f shapes, p = .blends f shapes → ∀ i < n, f.Admits (nth shapes i)) :
    p.Joined n x y := by
  have hguides : 2 * p.guides + 2 ≤ n := by
    rw [guides_of_prepare hp]
    exact kind.guides_le.trans hn
  cases kind with
  | basicX | extendedX | generalX =>
    cases hp
    exact Scheme.joined_blends (hadmits _ _ rfl) hx hn
  | _ => exact joined_of_links (fun i hi => links_of_prepare hp rfl hx hn hi) hguides

section Mirrored

variable (hp : prepare kind n x y bend shape = .ok p)
  (hq : prepare kind n x' y' bend' shape = .ok q)
  (hx' : Rescaled n a b (fun i => x (n - 1 - i)) x') (hy : Mirrored n y y')
  (hbend : Mirrored n (fun i => (bend i).mirror) bend') (h : Ascending n x) (h' : Ascending n x')
  (hn : kind.minPoints ≤ n) (hquadratic : kind ≠ .quadratic)

include hp hq hx' hy hbend h h' hn hquadratic

/-- The formulas of a curve that runs backwards on rescaled parameters are the same. -/
theorem piece_mirror (ha : a ≠ 0) (hij : i + j + 2 = n) (t : K) :
    q.piece n x' y' j (a * t + b) = p.piece n x y i t := by
  have hx : Mirrored n x fun i => x (n - 1 - i) := fun _ _ => rfl
  have hne : x i ≠ x (i + 1) := (h i (i + 1) (by omega) (by omega)).ne
  have hj : j + 1 < n := by omega
  have hlt : i < n - 1 := by omega
  have hlt' : j < n - 1 := by omega
  have hstart : (i + 1) + j + 1 = n := by omega
  have hstop : i + (j + 1) + 1 = n := by omega
  have hshapes (f : Scheme.Family) (shapes' : Array K) (hf : q = .blends f shapes') :=
    shapes_mirror hp hq hbend hf
  cases kind with
  | linear =>
    cases hp
    cases hq
    exact (Scheme.linePiece_rescale hx' ha hj t).trans (Scheme.linePiece_mirror hx hy hij hne t)
  | quadratic => exact absurd rfl hquadratic
  | natural =>
    obtain ⟨m, hm, rfl⟩ := map_eq_ok.1 hp
    obtain ⟨m', hm', rfl⟩ := map_eq_ok.1 hq
    have hmoments := ((Scheme.nth_of_moments h hm).1.mirror hx hy).rescale hx' ha
    rw [piece, (Scheme.nth_of_moments h' hm').2 _ hmoments]
    exact (Scheme.naturalPiece_rescale hx' ha _ hj t).trans
      (Scheme.naturalPiece_mirror hx hy (fun _ _ => rfl) hij t)
  | catmullRom =>
    cases hp
    cases hq
    exact (Scheme.catmullRomPiece_rescale hx' ha hj t).trans
      (Scheme.catmullRomPiece_mirror hx hy hij hne t)
  | sor =>
    cases hp
    cases hq
    have htwo : 2 ≤ n := by omega
    refine (Scheme.cubicPiece_rescale hx' ha rfl (nthCubic_tabulate _ hlt') hj ?_ ?_ t).trans
      (Scheme.cubicPiece_mirror hx hy (nthCubic_tabulate _ hlt) rfl hij hne
        (Scheme.chordSlope_mirror hx hy htwo hstart) (Scheme.chordSlope_mirror hx hy htwo hstop) t)
    · exact Scheme.chordSlope_rescale hx' htwo (by omega)
    · exact Scheme.chordSlope_rescale hx' htwo hj
  | akima =>
    cases hp
    cases hq
    have hthree : 3 ≤ n := le_trans (by decide) hn
    refine (Scheme.cubicPiece_rescale hx' ha rfl (nthCubic_tabulate _ hlt') hj ?_ ?_ t).trans
      (Scheme.cubicPiece_mirror hx hy (nthCubic_tabulate _ hlt) rfl hij hne
        (Scheme.akimaSlope_mirror hx hy hthree hstart)
        (Scheme.akimaSlope_mirror hx hy hthree hstop) t)
    · exact Scheme.akimaSlope_rescale hx' hthree j
    · exact Scheme.akimaSlope_rescale hx' hthree (j + 1)
  | tcb =>
    cases hp
    cases hq
    refine (Scheme.tangentPiece_rescale hx' ha hj rfl rfl t).trans
      (Scheme.tangentPiece_mirror hx hy hij hne ?_ ?_ t)
    · rw [nth_tabulate _ hj, nth_tabulate _ (show i < n by omega),
        Scheme.incomingTangent_rescale hx' ha _ hj, hbend.apply hstop, Bend.triple_mirror]
      exact Scheme.incomingTangent_mirror hx hy _ hstop
    · rw [nth_tabulate _ (show j < n by omega), nth_tabulate _ (show i + 1 < n by omega),
        Scheme.outgoingTangent_rescale hx' ha _ (by omega), hbend.apply hstart, Bend.triple_mirror]
      exact Scheme.outgoingTangent_mirror hx hy _ hstart
  | basicX | extendedX | generalX =>
    cases hp
    cases hq
    obtain ⟨shapes, hrule, hs⟩ := hshapes _ _ rfl
    cases hrule
    exact (Scheme.blendPiece_rescale hx' ha _ _ hj t).trans
      (Scheme.blendPiece_mirror hx hy hs hij hne t)

/-- So the whole component runs backwards on them. At a control point the formulas of different
segments are used, which are joined there. -/
theorem eval_mirror (ha : a < 0)
    (hadmits : ∀ f shapes, p = .blends f shapes → ∀ i < n, f.Admits (nth shapes i))
    (extrapolate : Bool) (t : K) :
    q.eval extrapolate n x' y' (a * t + b) = p.eval extrapolate n x y t := by
  have hguides := kind.guides_le.trans hn
  have hpoint (i : Nat) (hi : i < n) : x' (n - 1 - i) = a * x i + b := by
    simpa only [show n - 1 - (n - 1 - i) = i by omega] using hx' (n - 1 - i) (by omega)
  have hle (i : Nat) (hi : i < n) : x' (n - 1 - i) ≤ a * t + b ↔ t ≤ x i := by
    rw [hpoint i hi, add_le_add_iff_right, mul_le_mul_left_of_neg ha]
  have hge (i : Nat) (hi : i < n) : a * t + b ≤ x' (n - 1 - i) ↔ x i ≤ t := by
    rw [hpoint i hi, add_le_add_iff_right, mul_le_mul_left_of_neg ha]
  have hpiece (i j : Nat) (hij : i + j + 2 = n) :=
    piece_mirror hp hq hx' hy hbend h h' hn hquadratic ha.ne hij t
  have hjoined : q.Joined n x' y' := by
    refine joined_of_prepare hq h' hn fun f shapes' hf i hi => ?_
    obtain ⟨shapes, hshapes, hs⟩ := shapes_mirror hp hq hbend hf
    rw [hs i hi]
    exact hadmits f shapes hshapes _ (by omega)
  have hsame : q.guides = p.guides := (guides_of_prepare hq).trans (guides_of_prepare hp).symm
  have hcontinues : q.continues extrapolate = p.continues extrapolate :=
    (continues_of_prepare hq extrapolate).trans (continues_of_prepare hp extrapolate).symm
  rw [← guides_of_prepare hp] at hguides
  have hother : n - 1 - (n - 1 - p.guides) = p.guides := by omega
  rcases le_or_gt t (x p.guides) with hfirst | hfirst
  · have hfirst' := (hle p.guides (by omega)).2 hfirst
    rw [eval_before h (by omega) hfirst, eval_behind h' (by rwa [hsame]) (by rwa [hsame]), hsame,
      hcontinues, hpiece 0 (n - 2) (by omega),
      hy.apply (show p.guides + (n - 1 - p.guides) + 1 = n by omega)]
  · rcases le_or_gt (x (n - 1 - p.guides)) t with hlast | hlast
    · have hlast' := (hge (n - 1 - p.guides) (by omega)).2 hlast
      rw [hother] at hlast'
      rw [eval_behind h hguides hlast, eval_before h' (by omega) (by rwa [hsame]), hsame,
        hcontinues, hpiece (n - 2) 0 (by omega),
        hy.apply (show (n - 1 - p.guides) + p.guides + 1 = n by omega)]
    · obtain ⟨i, hi, hin, hstart, hstop, heval⟩ := eval_between h hguides hfirst hlast
      obtain ⟨j, hij⟩ : ∃ j, i + j + 2 = n := ⟨n - 2 - i, by omega⟩
      have hfrom := (hle (i + 1) (by omega)).2 hstop.le
      have hto := (hge i (by omega)).2 hstart
      rw [show n - 1 - (i + 1) = j by omega] at hfrom
      rw [show n - 1 - i = j + 1 by omega] at hto
      rw [heval, ← hpiece i j hij]
      exact hjoined.eval_segment h' (by rwa [hsame]) (by omega) (by omega) hfrom hto

end Mirrored

end Rule

/-! ## Splines -/

namespace Spline

variable {s u : Spline K} {c : Curve K} {a b : K} {k : Nat}

/-- A spline with the points of another one at parameters that are shifted and stretched. -/
structure RescaledTo (s : Spline K) (a b : K) (u : Spline K) : Prop where
  kind : u.kind = s.kind
  shared : u.shared = s.shared
  parameters : u.store.parameters = s.store.parameters.map fun p => a * p + b
  contents : u.store.contents = s.store.contents

/-- A spline with the points of another one at such parameters, but in reversed order and passed
the other way round. -/
structure MirroredTo (s : Spline K) (a b : K) (u : Spline K) : Prop where
  kind : u.kind = s.kind
  shared : u.shared = s.shared
  parameters : u.store.parameters = (s.store.parameters.map fun p => a * p + b).reverse
  contents : u.store.contents = (s.store.contents.map Knot.mirror).reverse

/-! ### Rescaled points -/

section Rescaled

variable (h : s.RescaledTo a b u)

include h

omit [LinearOrder K] in
theorem RescaledTo.size : u.store.size = s.store.size := by
  rw [← Store.length_parameters, h.parameters, List.length_map, Store.length_parameters]

theorem RescaledTo.parameterAt : Rescaled s.store.size a b s.parameterAt u.parameterAt := by
  intro i hi
  rw [← Store.length_parameters] at hi
  simp [Spline.parameterAt, h.parameters, nth, List.getElem?_eq_getElem hi]

theorem RescaledTo.valueAt (k : Nat) : u.valueAt k = s.valueAt k := by
  rw [Spline.valueAt, h.contents, Spline.valueAt]

omit [LinearOrder K] in
theorem RescaledTo.bendAt : u.bendAt = s.bendAt := by
  funext i
  rw [Spline.bendAt, h.contents, Spline.bendAt]

omit [LinearOrder K] in
theorem RescaledTo.terms : u.terms = s.terms := by
  rw [Spline.terms, h.contents, Spline.terms]

theorem RescaledTo.globalShape : u.globalShape = s.globalShape := congrArg Bend.freedom h.shared

omit [LinearOrder K] in
theorem RescaledTo.legible (hs : s.Legible) : u.Legible where
  points := by rw [h.contents, h.kind]; exact hs.points
  shared := by rw [h.shared]; exact hs.shared

end Rescaled

/-! ### Points in reversed order -/

section Mirrored

variable (h : s.MirroredTo a b u)

include h

omit [LinearOrder K] in
theorem MirroredTo.size : u.store.size = s.store.size := by
  rw [← Store.length_parameters, h.parameters, List.length_reverse, List.length_map,
    Store.length_parameters]

theorem MirroredTo.parameterAt :
    Rescaled s.store.size a b (fun i => s.parameterAt (s.store.size - 1 - i)) u.parameterAt := by
  intro i hi
  have hreversed := getD_reverse_map (fun p => a * p + b) (l := s.store.parameters)
    (by rwa [Store.length_parameters]) 0 0
  rw [Store.length_parameters] at hreversed
  rw [Spline.parameterAt, h.parameters]
  simpa [Spline.parameterAt, nth] using hreversed

theorem MirroredTo.valueAt (k : Nat) : Mirrored s.store.size (s.valueAt k) (u.valueAt k) := by
  intro i hi
  have hvalues : u.values = (s.values.map id).reverse := by
    rw [values, h.contents, List.map_reverse, List.map_map, List.map_id, values]
    rfl
  have hreversed := getD_reverse_map id (l := s.values) (by rwa [length_values]) [] []
  rw [length_values] at hreversed
  rw [valueAt_eq, valueAt_eq, hvalues]
  exact congrArg (fun v : List K => v.getD k _) (by simpa using hreversed)

omit [LinearOrder K] in
theorem MirroredTo.bendAt : Mirrored s.store.size (fun i => (s.bendAt i).mirror) u.bendAt := by
  intro i hi
  have hreversed := getD_reverse_map Bend.mirror (l := s.store.contents.map (·.bend))
    (by rwa [List.length_map, Store.length_contents]) .none .none
  rw [List.length_map, Store.length_contents, List.map_map] at hreversed
  rw [Spline.bendAt, h.contents, List.map_reverse, List.map_map]
  exact hreversed

theorem MirroredTo.terms (hs : s.Coherent) (hn : 0 < s.store.size) : u.terms = s.terms := by
  rw [← h.size, ← Store.length_contents] at hn
  refine terms_eq (List.getElem_mem hn) fun d hd => ?_
  rw [h.contents, List.mem_reverse, List.mem_map] at hd
  obtain ⟨d, hd, rfl⟩ := hd
  exact (hs.width d hd).1

theorem MirroredTo.globalShape : u.globalShape = s.globalShape := congrArg Bend.freedom h.shared

omit [LinearOrder K] in
theorem MirroredTo.legible (hs : s.Legible) : u.Legible where
  points d hd := by
    rw [h.contents, List.mem_reverse, List.mem_map] at hd
    obtain ⟨d, hd, rfl⟩ := hd
    rw [h.kind]
    exact Bend.isFor_mirror.2 (hs.points d hd)
  shared := by rw [h.shared]; exact hs.shared

end Mirrored

variable [IsStrictOrderedRing K]

/-- A spline on stretched parameters has a curve, which goes with them. -/
theorem exists_rescaled (hb : s.build = .ok c) (ha : 0 < a) (alive : u.destroyed = false)
    (h : s.RescaledTo a b u) : ∃ d, u.build = .ok d ∧
      ∀ extrapolate t, d.eval extrapolate (a * t + b) = c.eval extrapolate t := by
  obtain ⟨hx, hn⟩ := points_of_build hb
  have hx' : Ascending s.store.size u.parameterAt := by
    intro i j hij hj
    rw [h.parameterAt i (hij.trans hj), h.parameterAt j hj, add_lt_add_iff_right,
      mul_lt_mul_iff_right₀ ha]
    exact hx i j hij hj
  obtain ⟨d, hd⟩ : ∃ d, u.build = .ok d := by
    apply exists_curve alive
    · rwa [h.kind, h.size]
    · rwa [h.size]
  refine ⟨d, hd, fun extrapolate t => ?_⟩
  rw [eval_of_build hd, eval_of_build hb, h.terms, h.size]
  refine List.map_congr_left fun k hk => ?_
  have hk := List.mem_range.1 hk
  have hq := prepare_of_build hd (k := k) (by rwa [h.terms])
  rw [h.kind, h.size, h.valueAt, h.bendAt, h.globalShape] at hq
  rw [h.valueAt]
  exact Rule.eval_rescale (prepare_of_build hb hk) hq h.parameterAt hx hx' hn ha extrapolate t

/-- A spline that runs backwards has a curve, which is run through backwards. -/
theorem Grown.exists_mirrored (hs : s.Grown) (hb : s.build = .ok c) (ha : a < 0)
    (hquadratic : s.kind ≠ .quadratic) (alive : u.destroyed = false) (h : s.MirroredTo a b u) :
    ∃ d, u.build = .ok d ∧
      ∀ extrapolate t, d.eval extrapolate (a * t + b) = c.eval extrapolate t := by
  obtain ⟨hx, hn⟩ := points_of_build hb
  have hguides := s.kind.guides_le
  have hx' : Ascending s.store.size u.parameterAt := by
    intro i j hij hj
    rw [h.parameterAt i (hij.trans hj), h.parameterAt j hj, add_lt_add_iff_right,
      mul_lt_mul_left_of_neg ha]
    exact hx _ _ (by omega) (by omega)
  obtain ⟨d, hd⟩ : ∃ d, u.build = .ok d := by
    apply exists_curve alive
    · rwa [h.kind, h.size]
    · rwa [h.size]
  have hterms := h.terms hs.coherent (by omega)
  refine ⟨d, hd, fun extrapolate t => ?_⟩
  rw [eval_of_build hd, eval_of_build hb, hterms, h.size]
  refine List.map_congr_left fun k hk => ?_
  have hk := List.mem_range.1 hk
  have hq := prepare_of_build hd (k := k) (by rwa [hterms])
  rw [h.kind, h.size, h.globalShape] at hq
  exact Rule.eval_mirror (prepare_of_build hb hk) hq h.parameterAt (h.valueAt k) h.bendAt hx hx' hn
    hquadratic ha (fun f shapes hf i _ => (hs.admits_of_blends hb hk hf).2 i) extrapolate t

/-- **Other parameters.** Take a finalized spline and a live one with the same points at parameters
`a * p + b`. For a positive `a` it can be finalized, and answers at `a * t + b` what the given one
answers at `t`, for every `t` between the ends and beyond them. For a negative `a`, where the points
come in reversed order and are passed the other way round, the same holds for all kinds but the
quadratic one. -/
theorem reparametrised (hs : s.Grown) (hc : s.curve = some c) (config : Config) (a b : K) :
    (0 < a → ∀ u : Spline K, u.destroyed = false → s.RescaledTo a b u →
      ∃ d, u.build = .ok d ∧ ∀ t, ∃ v, s.get config (.ok t) = .ok v ∧
        get config { u with curve := some d } (.ok (a * t + b)) = .ok v) ∧
    (a < 0 → s.kind ≠ .quadratic → ∀ u : Spline K, u.destroyed = false → s.MirroredTo a b u →
      ∃ d, u.build = .ok d ∧ ∀ t, ∃ v, s.get config (.ok t) = .ok v ∧
        get config { u with curve := some d } (.ok (a * t + b)) = .ok v) := by
  have hb := hs.coherent.curve c hc
  constructor
  · intro ha u alive h
    obtain ⟨d, hd, heval⟩ := exists_rescaled hb ha alive h
    refine ⟨d, hd, fun t => ⟨_, hs.get_eq hc config t, ?_⟩⟩
    rw [(h.legible hs.legible).get_of_build hd, heval]
  · intro ha hquadratic u alive h
    obtain ⟨d, hd, heval⟩ := hs.exists_mirrored hb ha hquadratic alive h
    refine ⟨d, hd, fun t => ⟨_, hs.get_eq hc config t, ?_⟩⟩
    rw [(h.legible hs.legible).get_of_build hd, heval]

/-- Three rational points with tangents of all sorts, on parameters that are stretched and on
parameters that run backwards. -/
theorem reparametrised_tcb :
    let s : Spline ℚ := (((empty .tcb 0).place 3 [1, 0] (.tcb ⟨0, 1, 0⟩ ⟨1, 0, 0⟩)).place 0 [4, 1]
      (.tcb ⟨0, 0, 0⟩ ⟨1 / 2, -1, 3⟩)).place 1 [2, 5] (.tcb ⟨0, 2, 1⟩ ⟨0, 0, -1⟩)
    let u : Spline ℚ := (((empty .tcb 0).place 5 [1, 0] (.tcb ⟨0, 1, 0⟩ ⟨1, 0, 0⟩)).place (-1)
      [4, 1] (.tcb ⟨0, 0, 0⟩ ⟨1 / 2, -1, 3⟩)).place 1 [2, 5] (.tcb ⟨0, 2, 1⟩ ⟨0, 0, -1⟩)
    let w : Spline ℚ := (((empty .tcb 0).place (-7) [1, 0] (.tcb ⟨1, 0, 0⟩ ⟨0, -1, 0⟩)).place (-1)
      [4, 1] (.tcb ⟨1 / 2, 1, 3⟩ ⟨0, 0, 0⟩)).place (-3) [2, 5] (.tcb ⟨0, 0, -1⟩ ⟨0, -2, 1⟩)
    w.Grown ∧ ∃ c d e, s.build = .ok c ∧ u.build = .ok d ∧ w.build = .ok e ∧
      (∀ t, ∃ v, get .builtin { s with curve := some c } (.ok t) = .ok v ∧
        get .builtin { u with curve := some d } (.ok (2 * t + -1)) = .ok v) ∧
      ∀ t, ∃ v, get .builtin { s with curve := some c } (.ok t) = .ok v ∧
        get .builtin { w with curve := some e } (.ok (-2 * t + -1)) = .ok v := by
  intro s u w
  have hs : s.Grown := by
    refine .place_pair (.place_pair (.place_pair (.empty .tcb 0) rfl rfl (by decide) ?_ _ _) rfl rfl
      (by decide) ?_ _ _) rfl rfl (by decide) ?_ _ _
    all_goals decide +kernel
  have hw : w.Grown := by
    refine .place_pair (.place_pair (.place_pair (.empty .tcb 0) rfl rfl (by decide) ?_ _ _) rfl rfl
      (by decide) ?_ _ _) rfl rfl (by decide) ?_ _ _
    all_goals decide +kernel
  obtain ⟨c, hc⟩ : ∃ c, s.build = .ok c := exists_ok_of_isOk (by decide +kernel)
  have hrescaled : s.RescaledTo 2 (-1) u := ⟨rfl, rfl, by decide +kernel, by decide +kernel⟩
  have hmirrored : s.MirroredTo (-2) (-1) w := ⟨rfl, rfl, by decide +kernel, by decide +kernel⟩
  have hquadratic : s.kind ≠ .quadratic := by decide
  obtain ⟨hstretched, -⟩ := reparametrised (hs.rebuilt hc) rfl .builtin (2 : ℚ) (-1)
  obtain ⟨-, hbackwards⟩ := reparametrised (hs.rebuilt hc) rfl .builtin (-2 : ℚ) (-1)
  obtain ⟨d, hd, hforth⟩ := hstretched (by norm_num) u rfl
    ⟨hrescaled.1, hrescaled.2, hrescaled.3, hrescaled.4⟩
  obtain ⟨e, he, hback⟩ := hbackwards (by norm_num) hquadratic w rfl
    ⟨hmirrored.1, hmirrored.2, hmirrored.3, hmirrored.4⟩
  exact ⟨hw, c, d, e, hc, hd, he, hforth, hback⟩

end Spline

end CurveKit
