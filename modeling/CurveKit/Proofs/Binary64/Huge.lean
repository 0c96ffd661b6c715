import CurveKit.Datum.Number
import Mathlib.Tactic.Ring

/-!
# Integers beyond the largest double

An integer is taken as the nearest double. That is infinite for those that are at least halfway
from the largest double to the next power of two, as halfway counts as nearest to the even one of
the two neighbours, which is beyond all doubles.

Results:
* `Binary64.isFinite_ofBits`: which bits are those of a finite double.
* `Decimal.le_roundDiv_iff`: when rounding reaches an even number.
* `Decimal.nearestBits_infinite`: the natural numbers without a finite nearest double.
* `Datum.intToFloat_eq_tooLarge`: the integers that are too large for a double.
-/
namespace CurveKit

/-! ## Finite bits -/

namespace Binary64

open Float.Model (UnpackedFloat Format)
open Float.Model.UnpackedFloat (Sign unpack pack packComponents packedInfinity unpackExponent
  unpackExponent_packComponents unpackMantissa)

/-- With all bits of the exponent set, bits stand for no number. -/
theorem unpack_special {b : BitVec Format.binary64.numBits} (h : unpackExponent b = -1#_) :
    (∃ s, unpack Format.binary64 b = .infinity s) ∨ unpack Format.binary64 b = .notANumber := by
  by_cases hm : unpackMantissa b = 0#_
  · exact .inl ⟨_, (if_pos h).trans (if_pos hm)⟩
  · exact .inr ((if_pos h).trans (if_neg hm))

/-- All other bits stand for a number, whose exponent is at most that of the largest double. -/
theorem unpack_number {b : BitVec Format.binary64.numBits} (h : unpackExponent b ≠ -1#_) :
    (∃ s, unpack Format.binary64 b = .zero s) ∨
      ∃ s m e hm, e ≤ 971 ∧ unpack Format.binary64 b = .finite s m e hm := by
  have hbias : Format.binary64.exponentBias = 1023 := rfl
  have hwidth : Format.binary64.mantissaBitsWithoutImplicit = 52 := rfl
  have hbound : (unpackExponent b).toNat < 2048 := (unpackExponent b).isLt
  by_cases hz : unpackExponent b = 0#_
  · by_cases hm : unpackMantissa b = 0#_
    · exact .inl ⟨_, (if_neg h).trans ((if_pos hz).trans (dif_pos hm))⟩
    · have hnone : (unpackExponent b).toNat = 0 := congrArg BitVec.toNat hz
      refine .inr ⟨_, _, _, _, ?_, (if_neg h).trans ((if_pos hz).trans (dif_neg hm))⟩
      rw [hbias, hwidth]
      omega
  · have hne : (unpackExponent b).toNat ≠ 2047 := fun he => h (BitVec.eq_of_toNat_eq he)
    refine .inr ⟨_, _, _, _, ?_, (if_neg h).trans (if_neg hz)⟩
    rw [hbias, hwidth]
    omega

theorem isFinite_unpack (b : BitVec Format.binary64.numBits) :
    (unpack Format.binary64 b).isFinite = true ↔ unpackExponent b ≠ -1#_ := by
  by_cases h : unpackExponent b = -1#_
  · refine iff_of_false ?_ (not_not_intro h)
    obtain ⟨s, hs⟩ | hs := unpack_special h
    · rw [hs]
      exact Bool.false_ne_true
    · rw [hs]
      exact Bool.false_ne_true
  · refine iff_of_true ?_ h
    obtain ⟨s, hs⟩ | ⟨s, m, e, hm, -, hs⟩ := unpack_number h
    · rw [hs]
      rfl
    · rw [hs]
      rfl

theorem unpackExponent_ne {s : Sign} {e : BitVec 11} {m : BitVec 52} (h : e ≠ -1#_) :
    unpackExponent (packComponents Format.binary64 s e m) ≠ -1#_ := by
  rwa [unpackExponent_packComponents]

theorem unpackExponent_pack_finite (s : Sign) {m : Nat} {e : Int} (hm : 0 < m) (he : e ≤ 971) :
    unpackExponent (pack Format.binary64 (.finite s m e hm)) ≠ -1#_ := by
  have hbias : Format.binary64.exponentBias = 1023 := rfl
  let biased := (e + Format.binary64.exponentBias + Format.binary64.mantissaBitsWithoutImplicit).toNat
  have hbiased : biased ≤ 2046 := by
    simp only [biased, hbias]
    omega
  have hfits : ¬ 2 ^ Format.binary64.exponentBits ≤ biased + 1 := by
    show ¬ 2048 ≤ biased + 1
    omega
  have hpack : pack Format.binary64 (.finite s m e hm) =
      if 2 ^ Format.binary64.exponentBits ≤ biased + 1 then packedInfinity Format.binary64 s
      else if m.log2 + 1 = Format.binary64.mantissaBits then
        packComponents Format.binary64 s (BitVec.ofNat _ biased) (BitVec.ofNat _ m)
      else packComponents Format.binary64 s 0#_ (BitVec.ofNat _ m) := rfl
  rw [hpack, if_neg hfits]
  split
  · refine unpackExponent_ne fun h => ?_
    have hbits := congrArg BitVec.toNat h
    rw [BitVec.toNat_ofNat] at hbits
    have hmod : biased % 2048 = 2047 := hbits
    omega
  · exact unpackExponent_ne (by decide)

theorem unpackExponent_pack_unpack (b : BitVec Format.binary64.numBits) :
    unpackExponent (pack Format.binary64 (unpack Format.binary64 b)) = -1#_ ↔
      unpackExponent b = -1#_ := by
  by_cases h : unpackExponent b = -1#_
  · refine iff_of_true ?_ h
    obtain ⟨s, hs⟩ | hs := unpack_special h
    · rw [hs]
      exact unpackExponent_packComponents
    · rw [hs]
      exact unpackExponent_packComponents
  · refine iff_of_false ?_ h
    obtain ⟨s, hs⟩ | ⟨s, m, e, hm, he, hs⟩ := unpack_number h
    · rw [hs]
      exact unpackExponent_ne (by decide)
    · rw [hs]
      exact unpackExponent_pack_finite s hm he

theorem isFinite_ofBits (a : UInt64) :
    (Float.ofBits a).isFinite = true ↔ a.toNat / 2 ^ 52 % 2 ^ 11 ≠ 2047 := by
  have h : (Float.ofBits a).isFinite =
      (unpack Format.binary64 (pack Format.binary64 (unpack Format.binary64 a.toBitVec))).isFinite :=
    rfl
  rw [h, isFinite_unpack, ne_eq, unpackExponent_pack_unpack, ← BitVec.toNat_inj]
  simp [unpackExponent, Nat.shiftRight_eq_div_pow]

end Binary64

/-! ## Rounding -/

namespace Decimal

/-- Halfway to an even number, rounding goes up. -/
theorem roundDiv_half {p : Nat} (hp : 0 < p) (m : Nat) :
    roundDiv (2 * p * (2 * m + 1) + p) (2 * p) = 2 * m + 2 := by
  have hq : (2 * p * (2 * m + 1) + p) / (2 * p) = 2 * m + 1 := by
    rw [Nat.mul_add_div (by omega), Nat.div_eq_of_lt (by omega), Nat.add_zero]
  have hr : (2 * p * (2 * m + 1) + p) % (2 * p) = p := by
    rw [Nat.mul_add_mod, Nat.mod_eq_of_lt (by omega)]
  have hodd : ¬ ((2 * m + 1) % 2 == 0) = true := by
    rw [beq_iff_eq]
    omega
  simp only [roundDiv, hq, hr, Nat.lt_irrefl, if_false]
  rw [if_neg hodd]

/-- Rounding reaches an even number from half a unit below it on. -/
theorem le_roundDiv_iff {p : Nat} (hp : 0 < p) (num m : Nat) :
    2 * m + 2 ≤ roundDiv num (2 * p) ↔ 2 * p * (2 * m + 1) + p ≤ num := by
  have hlow := le_roundDiv (show 0 < 2 * p by omega) num
  have hhigh := roundDiv_le (show 0 < 2 * p by omega) num
  constructor
  · intro h
    have hmul : 2 * p * (2 * m + 1 + 1) ≤ 2 * p * roundDiv num (2 * p) := Nat.mul_le_mul_left _ h
    rw [Nat.mul_succ] at hmul
    omega
  · intro h
    by_contra hn
    have hmul : 2 * p * roundDiv num (2 * p) ≤ 2 * p * (2 * m + 1) :=
      Nat.mul_le_mul_left _ (by omega)
    obtain rfl : num = 2 * p * (2 * m + 1) + p := by omega
    rw [roundDiv_half hp] at hn
    exact hn (Nat.le_refl _)

theorem roundDiv_mem {num den a b : Nat} (hd : 0 < den) (ha : a * den ≤ num) (hb : num < b * den) :
    a ≤ roundDiv num den ∧ roundDiv num den ≤ b := by
  have hlow := le_roundDiv hd num
  have hhigh := roundDiv_le hd num
  constructor
  · by_contra hn
    have hmul : den * (roundDiv num den + 1) ≤ den * a := Nat.mul_le_mul_left _ (by omega)
    rw [Nat.mul_succ, Nat.mul_comm den a] at hmul
    omega
  · by_contra hn
    have hmul : den * (b + 1) ≤ den * roundDiv num den := Nat.mul_le_mul_left _ (by omega)
    rw [Nat.mul_succ, Nat.mul_comm den b] at hmul
    omega

/-! ## The nearest double -/

theorem scaleRatio_of_le {l : Nat} (h : l ≤ 52) (num : Nat) :
    scaleRatio 2 (52 - l) num 1 = (num * 2 ^ (52 - l), 1) := by
  rw [show (52 - l : Int) = Int.ofNat (52 - l) from (Int.ofNat_sub h).symm]
  rfl

theorem scaleRatio_of_gt {l : Nat} (h : 52 < l) (num : Nat) :
    scaleRatio 2 (52 - l) num 1 = (num, 2 ^ (l - 52)) := by
  obtain ⟨k, rfl⟩ : ∃ k, l = k + 53 := ⟨l - 53, by omega⟩
  rw [show (52 - (k + 53 : Nat) : Int) = Int.negSucc k by omega]
  exact congrArg (Prod.mk num) (Nat.one_mul _)

/-- Scaled so, a natural number has its 53 leading bits before the point. -/
theorem scaled_mem {num : Nat} (h : num ≠ 0) {a b : Nat}
    (hs : scaleRatio 2 (52 - num.log2) num 1 = (a, b)) :
    0 < b ∧ 2 ^ 52 * b ≤ a ∧ a < 2 ^ 53 * b := by
  have hlow : 2 ^ num.log2 ≤ num := Nat.log2_self_le h
  have hhigh : num < 2 ^ (num.log2 + 1) := Nat.lt_log2_self
  by_cases hle : num.log2 ≤ 52
  · rw [scaleRatio_of_le hle] at hs
    cases hs
    have hpow (e : Nat) : 2 ^ (52 + e) = 2 ^ (num.log2 + e) * 2 ^ (52 - num.log2) := by
      rw [← pow_add, show num.log2 + e + (52 - num.log2) = 52 + e by omega]
    refine ⟨Nat.one_pos, ?_, ?_⟩
    · rw [Nat.mul_one, hpow 0]
      exact Nat.mul_le_mul_right _ hlow
    · rw [Nat.mul_one, hpow 1]
      exact Nat.mul_lt_mul_of_pos_right hhigh (Nat.two_pow_pos _)
  · have hgt : 52 < num.log2 := by omega
    rw [scaleRatio_of_gt hgt] at hs
    cases hs
    have hpow (e : Nat) : 2 ^ (52 + e) * 2 ^ (num.log2 - 52) = 2 ^ (num.log2 + e) := by
      rw [← pow_add, show 52 + e + (num.log2 - 52) = num.log2 + e by omega]
    refine ⟨Nat.two_pow_pos _, ?_, ?_⟩
    · rw [hpow 0]
      exact hlow
    · rw [hpow 1]
      exact hhigh

theorem nearestBits_nat {num : Nat} (h : num ≠ 0) {a b : Nat}
    (hs : scaleRatio 2 (52 - num.log2) num 1 = (a, b)) :
    nearestBits num 1 = min ((num.log2 + 1022) * 2 ^ 52 + roundDiv a b) (2047 * 2 ^ 52) := by
  obtain ⟨hpos, hlow, -⟩ := scaled_mem h hs
  have hwide : ¬ a / b < Nat.pow 2 52 := Nat.not_lt.2 ((Nat.le_div_iff_mul_le hpos).2 hlow)
  have hone : Nat.log2 1 = 0 := rfl
  have hexponent : max ((num.log2 : Int) - 52) (-1074) = num.log2 - 52 := by omega
  have hbiased : ((num.log2 : Int) - 52 + 1074).toNat = num.log2 + 1022 := by omega
  unfold nearestBits
  simp only [hone, Int.natCast_zero, Int.sub_zero, hs]
  rw [if_neg hwide, hexponent, Int.neg_sub, hs, hbiased]
  rfl

/-- Half a unit beyond the largest double, and so halfway to the next power of two. -/
def beyondLargest : Nat := (2 ^ 54 - 1) * 2 ^ 970

/-- The exponent as a variable, so that no power of it is computed. -/
theorem exists_beyondLargest : ∃ k, k = 970 ∧ beyondLargest = (2 ^ 54 - 1) * 2 ^ k :=
  ⟨970, rfl, rfl⟩

theorem beyondLargest_pos : 0 < beyondLargest := by
  obtain ⟨k, -, hk⟩ := exists_beyondLargest
  rw [hk]
  exact Nat.mul_pos (by decide) (Nat.two_pow_pos k)

/-- From there on the nearest double is infinite. -/
theorem nearestBits_infinite {num : Nat} (h : num ≠ 0) :
    nearestBits num 1 = 2047 * 2 ^ 52 ↔ beyondLargest ≤ num := by
  have hlow : 2 ^ num.log2 ≤ num := Nat.log2_self_le h
  have hhigh : num < 2 ^ (num.log2 + 1) := Nat.lt_log2_self
  obtain ⟨a, b, hs⟩ : ∃ a b, scaleRatio 2 (52 - num.log2) num 1 = (a, b) := ⟨_, _, rfl⟩
  obtain ⟨hpos, hfrom, hto⟩ := scaled_mem h hs
  obtain ⟨hmin, hmax⟩ := roundDiv_mem hpos hfrom hto
  obtain ⟨k, hk, hbeyond⟩ := exists_beyondLargest
  have hpow (e : Nat) : 2 ^ (e + k) = 2 ^ e * 2 ^ k := pow_add 2 e k
  have hunit : 0 < 2 ^ k := Nat.two_pow_pos k
  rw [nearestBits_nat h hs, min_eq_right_iff, hbeyond]
  rcases Nat.lt_trichotomy num.log2 1023 with hlt | heq | hgt
  · have hbelow : 2 ^ (num.log2 + 1) ≤ 2 ^ (53 + k) := Nat.pow_le_pow_right (by decide) (by omega)
    rw [hpow] at hbelow
    omega
  · rw [scaleRatio_of_gt (by omega), show num.log2 - 52 = 1 + k by omega, hpow, Nat.pow_one] at hs
    cases hs
    -- Among the last doubles, rounding up to 2 ^ 53 carries into the exponent of infinity.
    have hhalf : (2 ^ 54 - 1) * 2 ^ k = 2 * 2 ^ k * (2 * (2 ^ 52 - 1) + 1) + 2 ^ k := by omega
    rw [heq, hhalf, ← le_roundDiv_iff hunit]
    omega
  · have habove : 2 ^ (54 + k) ≤ 2 ^ num.log2 := Nat.pow_le_pow_right (by decide) (by omega)
    rw [hpow] at habove
    omega

end Decimal

/-! ## Integers -/

open Decimal Binary64

theorem Decimal.isFinite_ofRatio (negative : Bool) (num : Nat) :
    (ofRatio negative num 1).isFinite = true ↔ num < beyondLargest := by
  have hbits {bits : Nat} (h : bits ≤ 2047 * 2 ^ 52) :
      (Float.ofBits (UInt64.ofNat (if negative then Nat.pow 2 63 + bits else bits))).isFinite = true ↔
        bits ≠ 2047 * 2 ^ 52 := by
    rw [isFinite_ofBits, UInt64.toNat_ofNat']
    cases negative with
    | true =>
      simp only [if_true, Nat.pow_eq]
      omega
    | false =>
      simp only [Bool.false_eq_true, if_false]
      omega
  simp only [ofRatio]
  by_cases hn : num = 0
  · subst hn
    simp only [beq_self_eq_true, if_true]
    rw [hbits (Nat.zero_le _), iff_true_right beyondLargest_pos]
    decide
  · have hzero : ¬ (num == 0) = true := by rwa [beq_iff_eq]
    have hle : nearestBits num 1 ≤ 2047 * 2 ^ 52 := by
      unfold nearestBits
      exact Nat.min_le_right _ _
    simp only [if_neg hzero]
    rw [hbits hle, ne_eq, nearestBits_infinite hn, Nat.not_le]

theorem Datum.intToFloat_eq_tooLarge {n : Int} :
    intToFloat n = .error .tooLarge ↔ beyondLargest ≤ n.natAbs := by
  have hfinite := isFinite_ofRatio (n < 0) n.natAbs
  unfold intToFloat
  dsimp only
  split
  · rename_i hf
    simp only [reduceCtorEq, false_iff, Nat.not_le]
    exact hfinite.1 hf
  · rename_i hf
    simp only [true_iff]
    rw [← Nat.not_lt, ← hfinite]
    exact hf

end CurveKit
