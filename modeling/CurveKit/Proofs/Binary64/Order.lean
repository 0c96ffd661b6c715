import CurveKit.Scalar
import Mathlib.Data.Prod.Lex
import Mathlib.Order.Compare

/-!
# The order of finite doubles

Comparing doubles is comparing their signs first, then the exponents, then the
mantissas. `rank` puts the three into one linear order, in which the two zeros have
the same place, so that finite doubles are compared like their ranks.

Results:
* `le_iff_rank`, `lt_iff_rank`, `beq_iff_rank`: comparing finite doubles is comparing ranks.
-/
namespace CurveKit.Binary64

open Float.Model (UnpackedFloat)
open Float.Model.UnpackedFloat (Sign)

/-- Sign, exponent and mantissa, in the order in which they decide. -/
def unpackedRank : UnpackedFloat → ℤ ×ₗ ℤ ×ₗ ℤ
  | .finite .positive m e _ => toLex (1, toLex (e, (m : ℤ)))
  | .finite .negative m e _ => toLex (-1, toLex (-e, -(m : ℤ)))
  | _ => toLex (0, toLex (0, 0))

/-- The place of a finite double in the order of all of them. -/
def rank (x : Float) : ℤ ×ₗ ℤ ×ₗ ℤ := unpackedRank x.toModel.unpack

section Lexicographic

variable {o o' : Ordering} {e₁ e₂ m₁ m₂ : ℤ}

theorem compares_then {α β : Type} [LinearOrder α] [LinearOrder β] {a₁ a₂ : α} {b₁ b₂ : β}
    (h : o.Compares a₁ a₂) (h' : o'.Compares b₁ b₂) :
    (o.then o').Compares (toLex (a₁, b₁)) (toLex (a₂, b₂)) := by
  cases o with
  | lt => exact Prod.Lex.toLex_lt_toLex.2 (.inl h)
  | gt => exact Prod.Lex.toLex_lt_toLex.2 (.inl h)
  | eq =>
    obtain rfl : a₁ = a₂ := h
    cases o' with
    | lt => exact Prod.Lex.toLex_lt_toLex.2 (.inr ⟨rfl, h'⟩)
    | gt => exact Prod.Lex.toLex_lt_toLex.2 (.inr ⟨rfl, h'⟩)
    | eq =>
      obtain rfl : b₁ = b₂ := h'
      rfl

theorem compares_compare (m₁ m₂ : ℕ) : (compare m₁ m₂).Compares (m₁ : ℤ) (m₂ : ℤ) := by
  have h := (compare_iff m₁ m₂).1 rfl
  cases ho : compare m₁ m₂ with
  | lt => rw [ho] at h; exact Int.ofNat_lt.2 h
  | gt => rw [ho] at h; exact Int.ofNat_lt.2 h
  | eq => rw [ho] at h; exact congrArg Int.ofNat h

theorem compares_neg (h : o.Compares e₁ e₂) : o.swap.Compares (-e₁) (-e₂) := by
  cases o with
  | lt => exact Int.neg_lt_neg h
  | gt => exact Int.neg_lt_neg h
  | eq => exact congrArg (- ·) h

end Lexicographic

theorem swap_then (o o' : Ordering) : (o.then o').swap = o.swap.then o'.swap := by
  cases o <;> rfl

theorem lt_of_sign {s₁ s₂ : ℤ} (h : s₁ < s₂) (x y : ℤ ×ₗ ℤ) : toLex (s₁, x) < toLex (s₂, y) :=
  Prod.Lex.toLex_lt_toLex.2 (.inl h)

/-- Finite doubles are compared like their ranks. -/
theorem compare_unpacked {a b : UnpackedFloat} (ha : a.isFinite = true) (hb : b.isFinite = true) :
    ∃ o, a.compare b = some o ∧ o.Compares (unpackedRank a) (unpackedRank b) := by
  cases a with
  | infinity => cases ha
  | notANumber => cases ha
  | zero s =>
    cases b with
    | infinity => cases hb
    | notANumber => cases hb
    | zero t => exact ⟨.eq, rfl, rfl⟩
    | finite t m e hm =>
      cases t with
      | positive => exact ⟨.lt, rfl, lt_of_sign (by decide) _ _⟩
      | negative => exact ⟨.gt, rfl, lt_of_sign (by decide) _ _⟩
  | finite s m₁ e₁ hm₁ =>
    cases b with
    | infinity => cases hb
    | notANumber => cases hb
    | zero t =>
      cases s with
      | positive => exact ⟨.gt, rfl, lt_of_sign (by decide) _ _⟩
      | negative => exact ⟨.lt, rfl, lt_of_sign (by decide) _ _⟩
    | finite t m₂ e₂ hm₂ =>
      have he : (compare e₁ e₂).Compares e₁ e₂ := (compare_iff e₁ e₂).1 rfl
      have hm := compares_compare m₁ m₂
      cases s with
      | positive =>
        cases t with
        | positive => exact ⟨_, rfl, compares_then (o := .eq) rfl (compares_then he hm)⟩
        | negative => exact ⟨.gt, rfl, lt_of_sign (by decide) _ _⟩
      | negative =>
        cases t with
        | positive => exact ⟨.lt, rfl, lt_of_sign (by decide) _ _⟩
        | negative =>
          refine ⟨_, rfl, ?_⟩
          rw [swap_then]
          exact compares_then (o := .eq) rfl (compares_then (compares_neg he) (compares_neg hm))

section Finite

variable {x y z : Float}

theorem compare_model (hx : x.isFinite = true) (hy : y.isFinite = true) :
    ∃ o, x.toModel.compare y.toModel = some o ∧ o.Compares (rank x) (rank y) :=
  compare_unpacked hx hy

theorem lt_iff_rank (hx : x.isFinite = true) (hy : y.isFinite = true) :
    x < y ↔ rank x < rank y := by
  obtain ⟨o, hc, ho⟩ := compare_model hx hy
  have h : x < y ↔ (x.toModel.compare y.toModel == some .lt) = true := decide_eq_true_iff
  rw [h, hc, ← ho.eq_lt]
  cases o <;> decide

theorem le_iff_rank (hx : x.isFinite = true) (hy : y.isFinite = true) :
    x ≤ y ↔ rank x ≤ rank y := by
  obtain ⟨o, hc, ho⟩ := compare_model hx hy
  have h : x ≤ y ↔ (x.toModel.compare y.toModel).any (·.isLE) = true := decide_eq_true_iff
  rw [h, hc, ← not_lt, ← ho.eq_gt]
  cases o <;> decide

theorem le_of_lt (hx : x.isFinite = true) (hy : y.isFinite = true) (h : x < y) : x ≤ y :=
  (le_iff_rank hx hy).2 ((lt_iff_rank hx hy).1 h).le

theorem le_trans_of_isFinite (hx : x.isFinite = true) (hy : y.isFinite = true)
    (hz : z.isFinite = true) (hxy : x ≤ y) (hyz : y ≤ z) : x ≤ z :=
  (le_iff_rank hx hz).2 (((le_iff_rank hx hy).1 hxy).trans ((le_iff_rank hy hz).1 hyz))

theorem lt_trans_of_isFinite (hx : x.isFinite = true) (hy : y.isFinite = true)
    (hz : z.isFinite = true) (hxy : x < y) (hyz : y < z) : x < z :=
  (lt_iff_rank hx hz).2 (((lt_iff_rank hx hy).1 hxy).trans ((lt_iff_rank hy hz).1 hyz))

theorem not_le_iff_lt (hx : x.isFinite = true) (hy : y.isFinite = true) : ¬ x ≤ y ↔ y < x := by
  rw [le_iff_rank hx hy, lt_iff_rank hy hx, not_le]

theorem not_lt_iff_le (hx : x.isFinite = true) (hy : y.isFinite = true) : ¬ x < y ↔ y ≤ x := by
  rw [lt_iff_rank hx hy, le_iff_rank hy hx, not_lt]

theorem beq_iff_rank (hx : x.isFinite = true) (hy : y.isFinite = true) :
    (x == y) = true ↔ rank x = rank y := by
  obtain ⟨o, hc, ho⟩ := compare_model hx hy
  have h : (x == y) = (x.toModel.compare y.toModel == some .eq) := rfl
  rw [h, hc, ← ho.eq_eq]
  cases o <;> decide

theorem pairwise_rank {α : Type} {l : List α} {f : α → Float}
    (hf : ∀ a ∈ l, (f a).isFinite = true) (h : l.Pairwise fun a b => (f a == f b) = false) :
    l.Pairwise fun a b => rank (f a) ≠ rank (f b) := by
  refine h.imp_of_mem fun {a b} ha hb hne he => ?_
  rw [(beq_iff_rank (hf a ha) (hf b hb)).2 he] at hne
  cases hne

end Finite

end CurveKit.Binary64
