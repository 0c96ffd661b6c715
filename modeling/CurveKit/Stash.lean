import CurveKit.Formula

/-!
# A store and its copies

A stash is one store of plain values at work, and copies of it that were put
aside. A copy is independent of the store it was made of; the store at work may
change places with one. A value is an array of any number of axes. One without
axes has nothing to list, so a stash that holds such a value cannot be shown.
-/
namespace CurveKit

structure Stash where
  store : Store Float (Tensor Float)
  copies : List (Store Float (Tensor Float))

namespace Stash

inductive Action where
  | insert (parameter value : Datum)
  | item (index : Datum)
  | arrays
  | copy
  | swap (index : Datum)
  | clear

inductive Answer where
  | nothing
  | index (n : Nat)
  | point (p : Entry Float (Tensor Float))
  | arrays (parameters : List Float) (values : Tensor Float)

structure Report where
  answer : Except (Fault Float) Answer
  points : List (Entry Float (Tensor Float))
  copies : List Nat

def empty : Stash := ⟨.empty, []⟩

def emptyTable : Tensor Float := { shape := [0, 0], entry := fun _ => 0 }

/-- All parameters, and all values one below the other, if they fit together. -/
def gather (s : Store Float (Tensor Float)) : Except (Fault Float) Answer :=
  match s.contents with
  | [] => .ok (.arrays s.parameters emptyTable)
  | first :: rest => (Formula.matched (Tensor.stack? first rest)).map (.arrays s.parameters)

/-- Does one thing with a stash; the stash stays as it is if that fails. -/
def perform (s : Stash) : Action → Except (Fault Float) (Stash × Answer)
  | .insert parameter value => do
    let p ← Formula.number parameter
    let v ← Formula.array value
    pure ({ s with store := s.store.insert p v }, .index (s.store.place p))
  | .item index => do
    match s.store.get? (← index.index) with
    | some e => pure (s, .point e)
    | none => throw .indexOutside
  | .arrays => (gather s.store).map fun a => (s, a)
  | .copy => pure ({ s with copies := s.copies ++ [s.store] }, .nothing)
  | .swap index => do
    let i ← index.index
    let j := if i < 0 then i + s.copies.length else i
    match if j < 0 then none else s.copies[j.toNat]? with
    | some c => pure ({ store := c, copies := s.copies.set j.toNat s.store }, .nothing)
    | none => throw .indexOutside
  | .clear => pure ({ s with store := .empty }, .nothing)

/-- One step: its answer, and the stash afterwards. -/
def step (s : Stash) (a : Action) : Stash × Except (Fault Float) Answer :=
  match s.perform a with
  | .ok (t, answer) => (t, .ok answer)
  | .error f => (s, .error f)

def report (s : Stash) (answer : Except (Fault Float) Answer) : Except (Fault Float) Report :=
  if s.store.contents.all fun v => !v.shape.isEmpty then
    .ok { answer, points := s.store.entries, copies := s.copies.map Store.size }
  else .error .wrongForm

/-- The reports of actions, one after the other. -/
def run : Stash → List Action → Except (Fault Float) (List Report)
  | _, [] => .ok []
  | s, a :: rest => do
    let (t, answer) := s.step a
    let report ← t.report answer
    let reports ← run t rest
    pure (report :: reports)

end Stash

end CurveKit
