import CurveKit.Proofs.Binary64.Order
import CurveKit.Store
import Mathlib.Data.List.Pairwise
import Mathlib.Data.List.Perm.Basic

/-!
# Stores are sorted

A new entry goes behind all entries with a parameter that is not greater, which
bisection finds among sorted parameters. So a store with finite parameters stays
sorted, and what it holds does not depend on the order in which the entries came as
long as their parameters differ.

Results:
* `upperBound_spec`, `segment_of_upperBound`: what bisection finds, and the segment there.
* `sorted_insert`, `perm_insert`: a new entry keeps the order, and is all that is new.
* `eq_of_perm`: sorted stores with the same entries at different parameters are equal.
-/
namespace CurveKit

/-! ## Bisection -/

section Bisection

variable {K : Type} [Scalar K]

/-- Where the entries that are greater than `t` come last, bisection finds the first of them. -/
theorem upperBound_spec {a : Nat → K} {t : K} {lo hi : Nat}
    (mono : ∀ i j, lo ≤ i → i ≤ j → j < hi → t < a i → t < a j) :
    (∀ i, lo ≤ i → i < upperBound a t lo hi → ¬ t < a i) ∧
      ∀ i, upperBound a t lo hi ≤ i → i < hi → t < a i := by
  fun_induction upperBound a t lo hi with
  | case1 lo hi hlt mid ht ih =>
    have hm : lo ≤ mid ∧ mid < hi := by omega
    obtain ⟨below, above⟩ := ih fun i j h1 h2 h3 => mono i j h1 h2 (by omega)
    refine ⟨below, fun i h1 h2 => ?_⟩
    by_cases hi : i < mid
    · exact above i h1 hi
    · exact mono mid i hm.1 (by omega) h2 ht
  | case2 lo hi hlt mid ht ih =>
    have hm : lo ≤ mid ∧ mid < hi := by omega
    obtain ⟨below, above⟩ := ih fun i j h1 h2 h3 => mono i j (by omega) h2 h3
    refine ⟨fun i h1 h2 hlt => ?_, above⟩
    by_cases hi : i ≤ mid
    · exact ht (mono i mid h1 hi hm.2 hlt)
    · exact below i (by omega) h2 hlt
  | case3 lo hi hlt =>
    exact ⟨fun i h1 h2 => absurd h2 (by omega), fun i h1 h2 => absurd h2 (by omega)⟩

/-- Where bisection finds how many of the entries, from the first on, have a property, and neither
all nor none have it, the segment starts with the last that has it. -/
theorem segment_of_upperBound {a : Nat → K} {t : K} {n : Nat} {P : Nat → Prop}
    (h : ∀ i < n, (i < upperBound a t 0 n ↔ P i)) (first : P 0) (last : ¬ P (n - 1)) (hn : 2 ≤ n) :
    P (segment n a t) ∧ ¬ P (segment n a t + 1) ∧ segment n a t + 1 < n := by
  have hfirst : 0 < upperBound a t 0 n := (h 0 (by omega)).2 first
  have hlast : ¬ n - 1 < upperBound a t 0 n := fun hlt => last ((h (n - 1) (by omega)).1 hlt)
  have hseg : segment n a t = upperBound a t 0 n - 1 := by
    unfold segment
    omega
  have hlt : segment n a t + 1 < n := by omega
  refine ⟨(h _ (by omega)).1 (by omega), fun hnext => ?_, hlt⟩
  have := (h _ hlt).2 hnext
  omega

end Bisection

/-! ## Sorted stores -/

namespace Store

open Binary64

variable {α : Type}

/-- Finite parameters in ascending order. -/
structure Sorted (s : Store Float α) : Prop where
  finite : ∀ e ∈ s.entries, e.parameter.isFinite = true
  order : s.entries.Pairwise fun a b => a.parameter ≤ b.parameter

theorem pairwise_insertIdx {β : Type} {R : β → β → Prop} {l : List β} {n : Nat} {x : β}
    (h : l.Pairwise R) (hn : n ≤ l.length) (before : ∀ i, ∀ a ∈ l[i]?, i < n → R a x)
    (after : ∀ i, ∀ a ∈ l[i]?, n ≤ i → R x a) : (l.insertIdx n x).Pairwise R := by
  induction l generalizing n with
  | nil =>
    obtain rfl : n = 0 := Nat.le_zero.1 hn
    exact List.pairwise_singleton R x
  | cons y l ih =>
    obtain ⟨hy, hl⟩ := List.pairwise_cons.1 h
    cases n with
    | zero =>
      refine List.pairwise_cons.2 ⟨fun a ha => ?_, h⟩
      obtain ⟨i, hi⟩ := List.getElem?_of_mem ha
      exact after i a hi (Nat.zero_le i)
    | succ n =>
      have hn' : n ≤ l.length := Nat.le_of_succ_le_succ hn
      refine List.pairwise_cons.2 ⟨fun a ha => ?_, ih hl hn' ?_ ?_⟩
      · rcases (List.mem_insertIdx hn').1 ha with rfl | ha
        · exact before 0 y rfl (Nat.succ_pos n)
        · exact hy a ha
      · intro i a ha hi
        exact before (i + 1) a ha (Nat.succ_lt_succ hi)
      · intro i a ha hi
        exact after (i + 1) a ha (Nat.succ_le_succ hi)

theorem getD_parameters {s : Store Float α} {i : Nat} {e : Entry Float α}
    (h : s.entries[i]? = some e) : s.parameters.getD i 0 = e.parameter := by
  simp [parameters, List.getD_eq_getElem?_getD, h]

theorem finite_of_getElem? {s : Store Float α} (hs : s.Sorted) {i : Nat} {e : Entry Float α}
    (h : s.entries[i]? = some e) : e.parameter.isFinite = true :=
  hs.finite e (List.mem_of_getElem? h)

/-- The place of a new entry is behind all entries that are not greater, and before the rest. -/
theorem place_spec {s : Store Float α} (hs : s.Sorted) {p : Float} (hp : p.isFinite = true)
    {i : Nat} {e : Entry Float α} (h : s.entries[i]? = some e) :
    (i < s.place p → e.parameter ≤ p) ∧ (s.place p ≤ i → p < e.parameter) := by
  have hlt : i < s.size := (List.getElem?_eq_some_iff.1 h).1
  have he := finite_of_getElem? hs h
  have mono : ∀ i j, 0 ≤ i → i ≤ j → j < s.size →
      p < s.parameters.getD i 0 → p < s.parameters.getD j 0 := by
    intro i j _ hij hj hpi
    have hj' : j < s.entries.length := hj
    have hi' : i < s.entries.length := by omega
    have ha : s.entries[i]? = some s.entries[i] := List.getElem?_eq_getElem hi'
    have hb : s.entries[j]? = some s.entries[j] := List.getElem?_eq_getElem hj'
    rw [getD_parameters ha] at hpi
    rw [getD_parameters hb]
    have fa := finite_of_getElem? hs ha
    have fb := finite_of_getElem? hs hb
    rw [lt_iff_rank hp fa] at hpi
    rw [lt_iff_rank hp fb]
    rcases Nat.eq_or_lt_of_le hij with rfl | hij
    · exact hpi
    · have hab := List.pairwise_iff_getElem.1 hs.order i j hi' hj' hij
      exact lt_of_lt_of_le hpi ((le_iff_rank fa fb).1 hab)
  obtain ⟨below, above⟩ := upperBound_spec mono
  constructor
  · intro hi
    have hn := below i (Nat.zero_le i) hi
    rw [getD_parameters h, lt_iff_rank hp he, not_lt] at hn
    exact (le_iff_rank he hp).2 hn
  · intro hi
    have hn := above i hi hlt
    rwa [getD_parameters h] at hn

/-- A new entry is all that is new. -/
theorem perm_insert (s : Store Float α) (p : Float) (a : α) :
    (s.insert p a).entries.Perm (⟨p, a⟩ :: s.entries) :=
  List.perm_insertIdx _ _ (s.place_le_size p)

/-- A new entry keeps the order. -/
theorem sorted_insert {s : Store Float α} (hs : s.Sorted) {p : Float} (hp : p.isFinite = true)
    (a : α) : (s.insert p a).Sorted where
  finite e he := by
    rcases List.mem_cons.1 ((s.perm_insert p a).mem_iff.1 he) with rfl | he
    · exact hp
    · exact hs.finite e he
  order := pairwise_insertIdx hs.order (s.place_le_size p)
    (fun _ _ h hi => (place_spec hs hp h).1 hi)
    (fun _ _ h hi => le_of_lt hp (finite_of_getElem? hs h) ((place_spec hs hp h).2 hi))

/-- Sorted stores with the same entries are equal, if the parameters differ. -/
theorem eq_of_perm {s t : Store Float α} (hs : s.Sorted) (ht : t.Sorted)
    (hp : s.entries.Perm t.entries)
    (hd : s.entries.Pairwise fun a b => rank a.parameter ≠ rank b.parameter) : s = t := by
  have key : s.entries = t.entries := by
    refine List.Perm.eq_of_pairwise (fun a b ha hb hab hba => ?_) hs.order ht.order hp
    have hb' := hp.mem_iff.2 hb
    have he : rank a.parameter = rank b.parameter := le_antisymm
      ((le_iff_rank (hs.finite a ha) (hs.finite b hb')).1 hab)
      ((le_iff_rank (hs.finite b hb') (hs.finite a ha)).1 hba)
    have : Std.Symm fun a b : Entry Float α => rank a.parameter ≠ rank b.parameter :=
      ⟨fun _ _ h => h.symm⟩
    by_contra hne
    exact hd.forall ha hb' hne he
  cases s
  cases t
  exact congrArg Store.mk key

end Store

end CurveKit
