import CurveKit.Proofs.Binary64.Huge
import CurveKit.Proofs.Spline.Changes
import Mathlib.Data.List.Forall2

/-!
# Which data are arrays of numbers

A scalar is an array, and so is a list or a group of arrays that all have one shape. Reading
one goes through its scalars in their order; the first that is no number decides how that
fails. A flat vector is a list or a group of scalars, or a scalar alone.

Results:
* `shape?_eq_some`: the shape that is found is the shape of an array.
* `exists_toTable`, `toTable_of_not_isNumeric`: which data are read, and how reading fails.
* `toTable_shape`, `toTable_entries`: the shape and the entries of what is read.
-/
namespace CurveKit

section Items

variable {ε α β : Type} {f : α → Except ε β} {l : List α} {m : List β} {e : ε}

theorem mapM_eq_ok : l.mapM f = .ok m ↔ List.Forall₂ (fun a b => f a = .ok b) l m := by
  induction l generalizing m with
  | nil =>
    rw [List.mapM_nil, List.forall₂_nil_left_iff]
    exact ⟨fun h => by cases h; rfl, fun h => by rw [h]; rfl⟩
  | cons a l ih =>
    rw [List.mapM_cons, bind_eq_ok, List.forall₂_cons_left_iff]
    constructor
    · rintro ⟨b, hb, h⟩
      obtain ⟨n, hn, h⟩ := bind_eq_ok.1 h
      cases h
      exact ⟨b, n, hb, ih.1 hn, rfl⟩
    · rintro ⟨b, n, hb, hn, rfl⟩
      exact ⟨b, hb, bind_eq_ok.2 ⟨n, ih.2 hn, rfl⟩⟩

/-- The first item that fails decides the failure. -/
theorem mapM_eq_error : l.mapM f = .error e ↔ ∃ before a after, l = before ++ a :: after ∧
    (∀ b ∈ before, ∃ c, f b = .ok c) ∧ f a = .error e := by
  induction l with
  | nil =>
    rw [List.mapM_nil]
    refine ⟨nofun, ?_⟩
    rintro ⟨before, a, after, h, -⟩
    simp at h
  | cons a l ih =>
    rw [List.mapM_cons]
    cases ha : f a with
    | error d =>
      constructor
      · intro h
        cases h
        exact ⟨[], a, l, rfl, nofun, ha⟩
      · rintro ⟨before, b, after, h, hok, hb⟩
        cases before with
        | nil =>
          cases h
          rw [ha] at hb
          cases hb
          rfl
        | cons c before =>
          cases h
          obtain ⟨d, hd⟩ := hok a (.head _)
          rw [ha] at hd
          cases hd
    | ok b =>
      have hbind : (Except.ok b >>= fun b => l.mapM f >>= fun n => pure (b :: n)) =
          (Except.error e : Except ε (List β)) ↔ l.mapM f = .error e := by
        cases l.mapM f with
        | error d => exact Iff.rfl
        | ok n => exact ⟨nofun, nofun⟩
      rw [hbind, ih]
      constructor
      · rintro ⟨before, c, after, rfl, hok, hc⟩
        refine ⟨a :: before, c, after, rfl, ?_, hc⟩
        rintro d (_ | ⟨_, hd⟩)
        · exact ⟨b, ha⟩
        · exact hok d hd
      · rintro ⟨before, c, after, h, hok, hc⟩
        cases before with
        | nil =>
          cases h
          rw [ha] at hc
          cases hc
        | cons d before =>
          cases h
          exact ⟨before, c, after, rfl, fun b hb => hok b (.tail _ hb), hc⟩

theorem exists_mapM (h : ∀ a ∈ l, ∃ b, f a = .ok b) : ∃ m, l.mapM f = .ok m := by
  cases hm : l.mapM f with
  | ok m => exact ⟨m, rfl⟩
  | error e =>
    obtain ⟨before, a, after, rfl, -, ha⟩ := mapM_eq_error.1 hm
    obtain ⟨b, hb⟩ := h a (by simp)
    rw [ha] at hb
    cases hb

end Items

namespace Datum

/-! ## Shapes -/

def elements? : Datum → Option (List Datum)
  | list items => some items
  | group items => some items
  | _ => none

/-- The parts that make up a vector: the items of a list or a group, and anything else is its
own only part. -/
def parts (d : Datum) : List Datum := d.elements?.getD [d]

/-- A datum is an array of a shape. Nothing is known about the items of an empty list, so that it
has one dimension. -/
inductive IsArray : List Nat → Datum → Prop
  | scalar {d : Datum} (h : d.elements? = none) : IsArray [] d
  | nested {d : Datum} {items : List Datum} {shape : List Nat} (h : d.elements? = some items)
      (items_isArray : ∀ i ∈ items, IsArray shape i) (empty : items = [] → shape = []) :
      IsArray (items.length :: shape) d

/-- The items of an array with one dimension more than they have. -/
def AreArrays (shape : List Nat) (items : List Datum) : Prop :=
  ∃ inner, shape = items.length :: inner ∧ (∀ i ∈ items, IsArray inner i) ∧
    (items = [] → inner = [])

theorem isArray_scalar {d : Datum} (h : d.elements? = none) {shape : List Nat} :
    IsArray shape d ↔ shape = [] := by
  constructor
  · rintro (_ | ⟨hs, -, -⟩)
    · rfl
    · rw [h] at hs
      cases hs
  · rintro rfl
    exact .scalar h

theorem isArray_nested {d : Datum} {items : List Datum} (h : d.elements? = some items)
    {shape : List Nat} : IsArray shape d ↔ AreArrays shape items := by
  constructor
  · rintro (hs | ⟨hs, hi, he⟩)
    · rw [h] at hs
      cases hs
    · rw [h] at hs
      cases hs
      exact ⟨_, rfl, hi, he⟩
  · rintro ⟨inner, rfl, hi, he⟩
    exact .nested h hi he

theorem areArrays_singleton {d : Datum} {shape : List Nat} :
    AreArrays shape [d] ↔ ∃ inner, IsArray inner d ∧ shape = 1 :: inner := by
  constructor
  · rintro ⟨inner, rfl, hi, -⟩
    exact ⟨inner, hi d (.head _), rfl⟩
  · rintro ⟨inner, hd, rfl⟩
    refine ⟨inner, rfl, fun i hi => ?_, nofun⟩
    rw [List.mem_singleton] at hi
    rw [hi]
    exact hd

theorem areArrays_cons {d : Datum} {rest : List Datum} {shape : List Nat} (hr : rest ≠ []) :
    AreArrays shape (d :: rest) ↔
      ∃ n inner, IsArray inner d ∧ AreArrays (n :: inner) rest ∧ shape = (n + 1) :: inner := by
  constructor
  · rintro ⟨inner, rfl, hi, -⟩
    exact ⟨rest.length, inner, hi d (.head _),
      ⟨inner, rfl, fun i hm => hi i (.tail _ hm), fun h => absurd h hr⟩, rfl⟩
  · rintro ⟨n, inner, hd, ⟨other, h, hi, -⟩, rfl⟩
    cases h
    refine ⟨inner, rfl, ?_, nofun⟩
    rintro i (_ | ⟨_, hm⟩)
    · exact hd
    · exact hi i hm

theorem sharedShape?_cons {d : Datum} {rest : List Datum} {shape : List Nat} (hr : rest ≠ []) :
    sharedShape? (d :: rest) = some shape ↔ ∃ n inner, d.shape? = some inner ∧
      sharedShape? rest = some (n :: inner) ∧ shape = (n + 1) :: inner := by
  obtain ⟨e, rest, rfl⟩ := List.exists_cons_of_ne_nil hr
  rw [sharedShape?.eq_def (d :: e :: rest)]
  dsimp only
  cases d.shape? with
  | none => simp
  | some s =>
    rcases sharedShape? (e :: rest) with _ | (_ | ⟨n, t⟩)
    · simp
    · simp
    · by_cases hst : s = t
      · simp [hst, eq_comm (a := shape)]
      · have hts : t ≠ s := fun h => hst h.symm
        simp [hst, hts]

mutual

/-- The shape that is found is the shape of an array. -/
theorem shape?_eq_some : ∀ (d : Datum) (shape : List Nat),
    d.shape? = some shape ↔ IsArray shape d
  | list items, shape => (sharedShape?_eq_some items shape).trans (isArray_nested rfl).symm
  | group items, shape => (sharedShape?_eq_some items shape).trans (isArray_nested rfl).symm
  | null, _ | bool _, _ | int _, _ | float _, _ | str _, _ | dictionary _, _ => by
    rw [isArray_scalar rfl]
    simp [shape?, eq_comm]

theorem sharedShape?_eq_some : ∀ (items : List Datum) (shape : List Nat),
    sharedShape? items = some shape ↔ AreArrays shape items
  | [], shape => by
    rw [sharedShape?, Option.some.injEq]
    constructor
    · rintro rfl
      exact ⟨[], rfl, nofun, fun _ => rfl⟩
    · rintro ⟨inner, rfl, -, h⟩
      rw [h rfl]
      rfl
  | [d], shape => by
    rw [areArrays_singleton]
    simp only [← shape?_eq_some d]
    unfold sharedShape?
    cases d.shape? <;> simp [eq_comm]
  | d :: e :: rest, shape => by
    rw [sharedShape?_cons (List.cons_ne_nil _ _), areArrays_cons (List.cons_ne_nil _ _)]
    simp only [shape?_eq_some d, sharedShape?_eq_some (e :: rest)]

end

/-! ## Reading -/

/-- An array that is not nested too deeply. -/
def IsTable (d : Datum) : Prop := ∃ shape, IsArray shape d ∧ shape.length ≤ maxDimensions

/-- Does a datum stand for a number among others? -/
def IsElement (d : Datum) : Prop := ∃ x, d.elementToFloat = .ok x

/-- An array of numbers. -/
def IsNumeric (d : Datum) : Prop := d.IsTable ∧ ∀ i ∈ d.scalars, i.IsElement

/-- An integer that is too large for a double. -/
def IsHuge (d : Datum) : Prop := ∃ n, d = .int n ∧ Decimal.beyondLargest ≤ n.natAbs

/-- The first scalar of an array that is no number is an integer that is too large. -/
def Overflows (d : Datum) : Prop :=
  d.IsTable ∧ ∃ before i after, d.scalars = before ++ i :: after ∧
    (∀ b ∈ before, b.IsElement) ∧ i.IsHuge

/-- A vector: none of its parts has parts of its own. -/
def IsFlat (d : Datum) : Prop := ∀ i ∈ d.parts, i.elements? = none

section Reading

variable {d : Datum} {t : Table} {why : NotNumber}

theorem toFloat_eq_tooLarge : d.toFloat = .error .tooLarge ↔ d.IsHuge := by
  cases d with
  | int n => simp [toFloat, IsHuge, intToFloat_eq_tooLarge]
  | str s =>
    rw [toFloat]
    split <;> simp [IsHuge]
  | _ => simp [toFloat, IsHuge]

theorem elementToFloat_eq_tooLarge : d.elementToFloat = .error .tooLarge ↔ d.IsHuge := by
  cases d with
  | null => simp [elementToFloat, IsHuge]
  | _ =>
    rw [elementToFloat, toFloat_eq_tooLarge]
    exact nofun

theorem toTable_eq_ok : d.toTable = .ok t ↔ ∃ shape, IsArray shape d ∧
    shape.length ≤ maxDimensions ∧
    List.Forall₂ (fun i x => i.elementToFloat = .ok x) d.scalars t.entries ∧
    t.shape = if shape.isEmpty then [1] else shape := by
  simp only [← shape?_eq_some, ← mapM_eq_ok]
  unfold toTable
  cases d.shape? with
  | none => simp
  | some shape =>
    dsimp only
    by_cases hd : maxDimensions < shape.length
    · rw [if_pos hd]
      refine ⟨nofun, ?_⟩
      rintro ⟨_, h, hle, -⟩
      cases h
      omega
    · rw [if_neg hd, bind_eq_ok]
      constructor
      · rintro ⟨entries, he, ht⟩
        cases ht
        exact ⟨shape, rfl, Nat.le_of_not_lt hd, he, rfl⟩
      · rintro ⟨_, h, -, he, hs⟩
        cases h
        exact ⟨t.entries, he, by rw [← hs]; rfl⟩

theorem toTable_eq_error : d.toTable = .error why ↔ (¬ d.IsTable ∧ why = .malformed) ∨
    (d.IsTable ∧ ∃ before i after, d.scalars = before ++ i :: after ∧
      (∀ b ∈ before, b.IsElement) ∧ i.elementToFloat = .error why) := by
  simp only [IsTable, IsElement, ← shape?_eq_some, ← mapM_eq_error]
  unfold toTable
  cases d.shape? with
  | none => simp [eq_comm]
  | some shape =>
    dsimp only
    by_cases hd : maxDimensions < shape.length
    · simp [hd, Nat.not_le.2 hd, eq_comm]
    · rw [if_neg hd]
      cases d.scalars.mapM elementToFloat with
      | error e => simp [Nat.le_of_not_lt hd, bind, Except.bind]
      | ok m => simp [Nat.le_of_not_lt hd, bind, Except.bind, pure, Except.pure]

theorem isNumeric_of_toTable (h : d.toTable = .ok t) : d.IsNumeric := by
  obtain ⟨shape, ha, hd, he, -⟩ := toTable_eq_ok.1 h
  refine ⟨⟨shape, ha, hd⟩, fun i hi => ?_⟩
  obtain ⟨k, hk, rfl⟩ := List.getElem_of_mem hi
  exact ⟨_, he.get hk (he.length_eq ▸ hk)⟩

/-- An array of numbers is read. -/
theorem exists_toTable (h : d.IsNumeric) : ∃ t, d.toTable = .ok t := by
  obtain ⟨⟨shape, ha, hd⟩, hall⟩ := h
  obtain ⟨entries, he⟩ := exists_mapM hall
  exact ⟨⟨_, entries⟩, toTable_eq_ok.2 ⟨shape, ha, hd, mapM_eq_ok.1 he, rfl⟩⟩

/-- Reading anything else fails; whether that is for an integer that is too large can be told. -/
theorem toTable_of_not_isNumeric (h : ¬ d.IsNumeric) :
    ∃ why, d.toTable = .error why ∧ (why = .tooLarge ↔ d.Overflows) := by
  cases ht : d.toTable with
  | ok t => exact absurd (isNumeric_of_toTable ht) h
  | error why =>
    refine ⟨why, rfl, ?_⟩
    constructor
    · rintro rfl
      obtain ⟨-, hw⟩ | ⟨htab, before, i, after, hs, hb, hi⟩ := toTable_eq_error.1 ht
      · cases hw
      · exact ⟨htab, before, i, after, hs, hb, elementToFloat_eq_tooLarge.1 hi⟩
    · rintro ⟨htab, before, i, after, hs, hb, hi⟩
      have hlarge : d.toTable = .error .tooLarge := toTable_eq_error.2
        (.inr ⟨htab, before, i, after, hs, hb, elementToFloat_eq_tooLarge.2 hi⟩)
      rw [ht] at hlarge
      cases hlarge
      rfl

/-! ## Vectors -/

theorem isFlat_of_isArray {shape : List Nat} (h : IsArray shape d) :
    (if shape.isEmpty then [1] else shape).length = 1 ↔ d.IsFlat := by
  rcases h with hs | ⟨hs, hi, he⟩
  · refine iff_of_true rfl fun i hi => ?_
    rw [parts, hs, Option.getD_none, List.mem_singleton] at hi
    rw [hi]
    exact hs
  · rename_i items inner
    have hparts : d.parts = items := by rw [parts, hs, Option.getD_some]
    have hlen : (items.length :: inner).length = 1 ↔ inner = [] := by
      rw [List.length_cons, Nat.add_eq_right, List.length_eq_zero_iff]
    rw [List.isEmpty_cons, if_neg Bool.false_ne_true, hlen, IsFlat, hparts]
    constructor
    · rintro rfl i hm
      cases hi i hm with
      | scalar h => exact h
    · intro hflat
      cases items with
      | nil => exact he rfl
      | cons i items => exact (isArray_scalar (hflat i (.head _))).1 (hi i (.head _))

theorem scalars_of_scalar (h : d.elements? = none) : d.scalars = [d] := by
  cases d with
  | list items => cases h
  | group items => cases h
  | _ => rw [scalars] <;> exact nofun

theorem scalarsOf_of_scalars {items : List Datum} (h : ∀ i ∈ items, i.elements? = none) :
    scalarsOf items = items := by
  induction items with
  | nil => rfl
  | cons i items ih =>
    rw [scalarsOf, scalars_of_scalar (h i (.head _)), ih fun j hj => h j (.tail _ hj)]
    rfl

theorem IsFlat.scalars_eq (h : d.IsFlat) : d.scalars = d.parts := by
  cases d with
  | list items => exact scalarsOf_of_scalars h
  | group items => exact scalarsOf_of_scalars h
  | _ => exact scalars_of_scalar rfl

/-- What is read has one dimension if and only if it is a vector. -/
theorem toTable_shape (h : d.toTable = .ok t) : t.shape.length = 1 ↔ d.IsFlat := by
  obtain ⟨shape, ha, -, -, hs⟩ := toTable_eq_ok.1 h
  rw [hs]
  exact isFlat_of_isArray ha

/-- The entries of a vector are the numbers that its parts stand for. -/
theorem toTable_entries (h : d.toTable = .ok t) (hf : d.IsFlat) :
    List.Forall₂ (fun i x => i.elementToFloat = .ok x) d.parts t.entries := by
  obtain ⟨shape, -, -, he, -⟩ := toTable_eq_ok.1 h
  rwa [← hf.scalars_eq]

end Reading

end Datum

end CurveKit
