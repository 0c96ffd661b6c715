import CurveKit.Proofs.Store.Sorted
import Mathlib.Data.List.Sort

/-!
# Stores sort stably

Entries with equal parameters stay in the order in which they came. So a store is the
stable sort of all entries that it was given, and a new entry stands behind as many
others as have a parameter that is not greater.

Results:
* `eq_of_atKey_eq`: sorted lists are equal if they agree on what they hold at every key.
* `Arranges.insert`: a new entry comes last among those at its parameter.
* `Arranges.entries_eq`: a store is the stable sort of what it was given.
* `Arranges.place_eq`: where a new entry goes.
-/
namespace CurveKit

/-! ## Sorting by a key -/

section Keys

variable {β κ : Type} [LinearOrder κ] {key : β → κ}

/-- What a list holds at a key, in order. -/
def atKey (key : β → κ) (k : κ) (l : List β) : List β := l.filter fun b => key b = k

theorem atKey_append (k : κ) (l m : List β) :
    atKey key k (l ++ m) = atKey key k l ++ atKey key k m :=
  List.filter_append l m

theorem atKey_cons_self (a : β) (l : List β) :
    atKey key (key a) (a :: l) = a :: atKey key (key a) l :=
  List.filter_cons_of_pos (by simp)

theorem atKey_cons_of_ne {a : β} {k : κ} (h : key a ≠ k) (l : List β) :
    atKey key k (a :: l) = atKey key k l :=
  List.filter_cons_of_neg (by simpa using h)

theorem atKey_eq_nil {l : List β} {k : κ} (h : ∀ b ∈ l, key b ≠ k) : atKey key k l = [] :=
  List.filter_eq_nil_iff.2 fun b hb => by simpa using h b hb

theorem mem_of_atKey_eq {l m : List β} {a : β} (h : ∀ k, atKey key k l = atKey key k m)
    (ha : a ∈ l) : a ∈ m := by
  have hl : a ∈ atKey key (key a) l := List.mem_filter.2 ⟨ha, by simp⟩
  rw [h] at hl
  exact (List.mem_filter.1 hl).1

/-- Sorted lists are equal if they agree on what they hold at every key. -/
theorem eq_of_atKey_eq {l m : List β} (hl : l.Pairwise fun a b => key a ≤ key b)
    (hm : m.Pairwise fun a b => key a ≤ key b) (h : ∀ k, atKey key k l = atKey key k m) :
    l = m := by
  induction l generalizing m with
  | nil =>
    cases m with
    | nil => rfl
    | cons b m => cases mem_of_atKey_eq (fun k => (h k).symm) (List.mem_cons_self (a := b))
  | cons a l ih =>
    cases m with
    | nil => cases mem_of_atKey_eq h (List.mem_cons_self (a := a))
    | cons b m =>
      obtain ⟨ha, hl'⟩ := List.pairwise_cons.1 hl
      obtain ⟨hb, hm'⟩ := List.pairwise_cons.1 hm
      -- Each head is in the other list too, so neither has the smaller key.
      have hab : key a ≤ key b := by
        rcases List.mem_cons.1 (mem_of_atKey_eq (fun k => (h k).symm) List.mem_cons_self)
          with rfl | hmem
        · exact le_refl _
        · exact ha b hmem
      have hba : key b ≤ key a := by
        rcases List.mem_cons.1 (mem_of_atKey_eq h List.mem_cons_self) with rfl | hmem
        · exact le_refl _
        · exact hb a hmem
      have hk : key b = key a := le_antisymm hba hab
      have hhead := h (key a)
      rw [atKey_cons_self, ← hk, atKey_cons_self, hk] at hhead
      obtain rfl : a = b := (List.cons.inj hhead).1
      refine congrArg (a :: ·) (ih hl' hm' fun k => ?_)
      by_cases hak : key a = k
      · subst hak
        exact (List.cons.inj hhead).2
      · have := h k
        rwa [atKey_cons_of_ne hak, atKey_cons_of_ne hak] at this

theorem decide_key_le_trans (a b c : β) (hab : decide (key a ≤ key b) = true)
    (hbc : decide (key b ≤ key c) = true) : decide (key a ≤ key c) = true :=
  decide_eq_true ((of_decide_eq_true hab).trans (of_decide_eq_true hbc))

theorem decide_key_le_total (a b : β) :
    (decide (key a ≤ key b) || decide (key b ≤ key a)) = true := by
  simpa using le_total (key a) (key b)

theorem pairwise_mergeSort_key (l : List β) :
    (l.mergeSort fun a b => decide (key a ≤ key b)).Pairwise fun a b => key a ≤ key b := by
  have h : (l.mergeSort fun a b => decide (key a ≤ key b)).Pairwise
      fun a b => decide (key a ≤ key b) = true :=
    List.pairwise_mergeSort decide_key_le_trans decide_key_le_total l
  exact h.imp of_decide_eq_true

/-- Sorting by a key leaves what is held at every key in order. -/
theorem atKey_mergeSort (l : List β) (k : κ) :
    atKey key k (l.mergeSort fun a b => decide (key a ≤ key b)) = atKey key k l := by
  have hp := List.mergeSort_perm l fun a b => decide (key a ≤ key b)
  -- What is held at one key is sorted already, so it comes through sorting as it is.
  have hsorted : (atKey key k l).Pairwise fun a b => decide (key a ≤ key b) = true := by
    refine List.pairwise_of_forall_mem_list fun a ha b hb => decide_eq_true ?_
    have ha : key a = k := by simpa using (List.mem_filter.1 ha).2
    have hb : key b = k := by simpa using (List.mem_filter.1 hb).2
    exact (ha.trans hb.symm).le
  have hsub : (atKey key k l).Sublist (l.mergeSort fun a b => decide (key a ≤ key b)) :=
    List.sublist_mergeSort decide_key_le_trans decide_key_le_total hsorted List.filter_sublist
  have hfix : atKey key k (atKey key k l) = atKey key k l := by simp [atKey]
  refine (List.Sublist.eq_of_length (hfix ▸ hsub.filter _) ?_).symm
  exact (hp.filter _).length_eq.symm

end Keys

/-! ## Stores -/

theorem insertIdx_eq {β : Type} {l : List β} {n : Nat} (hn : n ≤ l.length) (b : β) :
    l.insertIdx n b = l.take n ++ b :: l.drop n := by
  induction l generalizing n with
  | nil =>
    obtain rfl : n = 0 := Nat.le_zero.1 hn
    rfl
  | cons c l ih =>
    cases n with
    | zero => rfl
    | succ n => simp [ih (Nat.le_of_succ_le_succ hn)]

namespace Store

open Binary64

variable {α : Type} {s : Store Float α} {log : List (Entry Float α)} {p : Float}

/-- The place of an entry among finite doubles. -/
def key (e : Entry Float α) : ℤ ×ₗ ℤ ×ₗ ℤ := rank e.parameter

/-- A sorted store holds what it was given, and at every place in the order in which it came. -/
structure Arranges (log : List (Entry Float α)) (s : Store Float α) : Prop where
  sorted : s.Sorted
  stable : ∀ k, atKey key k s.entries = atKey key k log

theorem arranges_empty : Arranges [] (empty : Store Float α) where
  sorted := ⟨fun _ h => (List.not_mem_nil h).elim, List.Pairwise.nil⟩
  stable _ := rfl

theorem key_of_mem_take (hs : s.Sorted) (hp : p.isFinite = true) {e : Entry Float α}
    (he : e ∈ s.entries.take (s.place p)) : key e ≤ rank p := by
  obtain ⟨i, hi, rfl⟩ := List.mem_take_iff_getElem.1 he
  have hlt : i < s.place p := by omega
  have h := List.getElem?_eq_getElem (l := s.entries) (i := i) (by omega)
  exact (le_iff_rank (finite_of_getElem? hs h) hp).1 ((place_spec hs hp h).1 hlt)

theorem key_of_mem_drop (hs : s.Sorted) (hp : p.isFinite = true) {e : Entry Float α}
    (he : e ∈ s.entries.drop (s.place p)) : rank p < key e := by
  obtain ⟨i, hi, rfl⟩ := List.mem_drop_iff_getElem.1 he
  have h := List.getElem?_eq_getElem (l := s.entries) (i := s.place p + i) (by omega)
  exact (lt_iff_rank hp (finite_of_getElem? hs h)).1 ((place_spec hs hp h).2 (by omega))

/-- A new entry comes last among those at its parameter. -/
theorem Arranges.insert (h : Arranges log s) (hp : p.isFinite = true) (a : α) :
    Arranges (log ++ [⟨p, a⟩]) (s.insert p a) where
  sorted := sorted_insert h.sorted hp a
  stable k := by
    have hsplit : atKey key k s.entries = atKey key k (s.entries.take (s.place p)) ++
        atKey key k (s.entries.drop (s.place p)) := by
      rw [← atKey_append, List.take_append_drop]
    rw [Store.insert, insertIdx_eq (s.place_le_size p), atKey_append, atKey_append, ← h.stable k,
      hsplit]
    by_cases hk : rank p = k
    · have hdrop : atKey key k (s.entries.drop (s.place p)) = [] :=
        atKey_eq_nil fun e he => hk ▸ (key_of_mem_drop h.sorted hp he).ne'
      have hself : key (⟨p, a⟩ : Entry Float α) = k := hk
      rw [← hself, atKey_cons_self, atKey_cons_self, hself, hdrop]
      simp [atKey]
    · have hne : key (⟨p, a⟩ : Entry Float α) ≠ k := hk
      rw [atKey_cons_of_ne hne, atKey_cons_of_ne hne]
      simp [atKey]

theorem Arranges.mem_iff (h : Arranges log s) {e : Entry Float α} : e ∈ s.entries ↔ e ∈ log :=
  ⟨mem_of_atKey_eq h.stable, mem_of_atKey_eq fun k => (h.stable k).symm⟩

/-- A store is the stable sort of what it was given. -/
theorem Arranges.entries_eq (h : Arranges log s) :
    s.entries = log.mergeSort fun a b => decide (a.parameter ≤ b.parameter) := by
  have hf : ∀ e ∈ log, e.parameter.isFinite = true := fun e he => h.sorted.finite e (h.mem_iff.2 he)
  have hrank : log.mergeSort (fun a b => decide (a.parameter ≤ b.parameter)) =
      log.mergeSort fun a b => decide (key a ≤ key b) := by
    have := List.map_mergeSort (f := id) (l := log)
      (r := fun a b => decide (a.parameter ≤ b.parameter)) (s := fun a b => decide (key a ≤ key b))
      fun a ha b hb => decide_eq_decide.2 (le_iff_rank (hf a ha) (hf b hb))
    simpa using this
  rw [hrank]
  refine eq_of_atKey_eq ?_ ?_ fun k => (h.stable k).trans (atKey_mergeSort log k).symm
  · exact h.sorted.order.imp_of_mem fun ha hb hab =>
      (le_iff_rank (h.sorted.finite _ ha) (h.sorted.finite _ hb)).1 hab
  · exact pairwise_mergeSort_key log

/-- As many entries stand before the place of a new one as have a parameter that is not
greater. -/
theorem Arranges.place_eq (h : Arranges log s) (hp : p.isFinite = true) :
    s.place p = log.countP fun e => decide (e.parameter ≤ p) := by
  have hperm : s.entries.Perm log := by
    rw [h.entries_eq]
    exact List.mergeSort_perm _ _
  have hf : ∀ e ∈ s.entries, e.parameter.isFinite = true := h.sorted.finite
  have htake : (s.entries.take (s.place p)).countP (fun e => decide (e.parameter ≤ p)) =
      (s.entries.take (s.place p)).length :=
    List.countP_eq_length.2 fun e he => decide_eq_true
      ((le_iff_rank (hf e (List.mem_of_mem_take he)) hp).2 (key_of_mem_take h.sorted hp he))
  have hdrop : (s.entries.drop (s.place p)).countP (fun e => decide (e.parameter ≤ p)) = 0 :=
    List.countP_eq_zero.2 fun e he hle => absurd
      ((le_iff_rank (hf e (List.mem_of_mem_drop he)) hp).1 (of_decide_eq_true hle))
      (not_le.2 (key_of_mem_drop h.sorted hp he))
  rw [← hperm.countP_eq, ← List.take_append_drop (s.place p) s.entries, List.countP_append, htake,
    hdrop, List.length_take]
  exact (Nat.min_eq_left (s.place_le_size p)).symm

end Store

end CurveKit
