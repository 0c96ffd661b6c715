import CurveKit.Segment

/-!
# Stores of control points

A store keeps entries in ascending order of their parameters; entries with equal
parameters stay in the order in which they came. It only grows, until it is
cleared.

Results:
* `place_le_size`, `size_insert`: a new entry finds a place, and adds one to the size.
* `parameters_insert`, `contents_insert`: both views change at that place alone.
* `modify_insert`: a new entry may get its content in two steps.
-/
namespace CurveKit

/-- Something that is kept at a parameter. -/
structure Entry (K α : Type) where
  parameter : K
  content : α

structure Store (K α : Type) where
  entries : List (Entry K α)

namespace Store

variable {K α : Type}

def empty : Store K α := ⟨[]⟩

def size (s : Store K α) : Nat := s.entries.length

def parameters (s : Store K α) : List K := s.entries.map (·.parameter)

def contents (s : Store K α) : List α := s.entries.map (·.content)

/-- The place of a new entry: behind all entries with a parameter that is not greater. -/
def place [Scalar K] (s : Store K α) (p : K) : Nat :=
  upperBound (fun i => s.parameters.getD i 0) p 0 s.size

/-- The store with a new entry at its place. -/
def insert [Scalar K] (s : Store K α) (p : K) (a : α) : Store K α :=
  ⟨s.entries.insertIdx (s.place p) ⟨p, a⟩⟩

@[simp] theorem length_parameters (s : Store K α) : s.parameters.length = s.size := by
  simp [parameters, size]

@[simp] theorem length_contents (s : Store K α) : s.contents.length = s.size := by
  simp [contents, size]

theorem place_le_size [Scalar K] (s : Store K α) (p : K) : s.place p ≤ s.size :=
  upperBound_le _ _ (Nat.zero_le _)

@[simp] theorem size_insert [Scalar K] (s : Store K α) (p : K) (a : α) :
    (s.insert p a).size = s.size + 1 :=
  List.length_insertIdx_of_le_length (s.place_le_size p) _

theorem map_insertIdx {β γ : Type} (f : β → γ) (l : List β) (n : Nat) (b : β) :
    (l.insertIdx n b).map f = (l.map f).insertIdx n (f b) := by
  induction l generalizing n with
  | nil => cases n <;> simp
  | cons c l ih => cases n <;> simp [ih]

theorem modify_insertIdx {β : Type} (l : List β) (n : Nat) (b : β) (f : β → β) :
    (l.insertIdx n b).modify n f = l.insertIdx n (f b) := by
  induction l generalizing n with
  | nil => cases n <;> simp
  | cons c l ih => cases n <;> simp [ih]

theorem parameters_insert [Scalar K] (s : Store K α) (p : K) (a : α) :
    (s.insert p a).parameters = s.parameters.insertIdx (s.place p) p :=
  map_insertIdx _ _ _ _

theorem contents_insert [Scalar K] (s : Store K α) (p : K) (a : α) :
    (s.insert p a).contents = s.contents.insertIdx (s.place p) a :=
  map_insertIdx _ _ _ _

/-- The store with the content of one entry changed. -/
def modify (s : Store K α) (i : Nat) (f : α → α) : Store K α :=
  ⟨s.entries.modify i fun e => { e with content := f e.content }⟩

/-- What is changed of a new entry could have been put there at once. -/
theorem modify_insert [Scalar K] (s : Store K α) (p : K) (a : α) (f : α → α) :
    (s.insert p a).modify (s.place p) f = s.insert p (f a) := by
  exact congrArg Store.mk (modify_insertIdx s.entries (s.place p) ⟨p, a⟩ _)

/-- The entry at an index; negative indexes count from the end. -/
def get? (s : Store K α) (i : Int) : Option (Entry K α) :=
  if 0 ≤ i then s.entries[i.toNat]?
  else if -i ≤ s.size then s.entries[s.size - (-i).toNat]? else none

end Store

end CurveKit
