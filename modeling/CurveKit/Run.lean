import CurveKit.Event

/-!
# Running operations

An operation on a state leaves an answer or a fault, the state afterwards, and
the events on the way. The state and the events of a failed operation count too.

Results:
* `done_andThen`: an operation that only answers can be left out.
* `fail_andThen`: nothing happens behind a fault.
* `ask_andThen_cases`, `log_andThen_cases`: what a check in front of an operation makes of it.
-/
namespace CurveKit

/-- What an operation leaves. -/
@[ext]
structure Run (K σ α : Type) where
  answer : Except (Fault K) α
  state : σ
  events : List (Event K)

/-! ## Answers -/

theorem bind_eq_ok {ε α β : Type} {x : Except ε α} {f : α → Except ε β} {b : β} :
    x >>= f = .ok b ↔ ∃ a, x = .ok a ∧ f a = .ok b := by
  cases x with
  | error e => simp [bind, Except.bind]
  | ok a => simp [bind, Except.bind]

theorem map_eq_ok {ε α β : Type} {x : Except ε α} {f : α → β} {b : β} :
    x.map f = .ok b ↔ ∃ a, x = .ok a ∧ f a = b := by
  cases x <;> simp [Except.map]

theorem map_eq_error {ε α β : Type} {x : Except ε α} {f : α → β} {e : ε} :
    x.map f = .error e ↔ x = .error e := by
  cases x <;> simp [Except.map]

theorem map_map {ε α β γ : Type} (x : Except ε α) (f : α → β) (g : β → γ) :
    (x.map f).map g = x.map fun a => g (f a) := by
  cases x <;> rfl

theorem exists_ok_of_isOk {ε α : Type} {x : Except ε α} (h : x.isOk = true) : ∃ a, x = .ok a := by
  cases x with
  | error e => cases h
  | ok a => exact ⟨a, rfl⟩

/-! ## Runs -/

namespace Run

variable {K σ α β : Type}

/-- An answer, and nothing else happens. -/
def done (s : σ) (a : α) : Run K σ α := ⟨.ok a, s, []⟩

/-- A fault, and nothing else happens. -/
def fail (s : σ) (f : Fault K) : Run K σ α := ⟨.error f, s, []⟩

/-- A question that changes nothing. -/
def ask (s : σ) (answer : Except (Fault K) α) : Run K σ α := ⟨answer, s, []⟩

/-- A question that changes nothing, with events on the way to its answer. -/
def log (s : σ) : Except (Fault K) (α × List (Event K)) → Run K σ α
  | .error f => ⟨.error f, s, []⟩
  | .ok (a, events) => ⟨.ok a, s, events⟩

/-- One operation, and if it has an answer, another one behind it. -/
def andThen (r : Run K σ α) (next : α → σ → Run K σ β) : Run K σ β :=
  match r.answer with
  | .error f => ⟨.error f, r.state, r.events⟩
  | .ok a =>
    let q := next a r.state
    ⟨q.answer, q.state, r.events ++ q.events⟩

/-- The same operation with its answer in another form. -/
def map (r : Run K σ α) (f : α → β) : Run K σ β := ⟨r.answer.map f, r.state, r.events⟩

/-- The same operation with its fault in another form. -/
def mapFault (r : Run K σ α) (f : Fault K → Fault K) : Run K σ α :=
  ⟨r.answer.mapError f, r.state, r.events⟩

@[simp] theorem done_andThen (s : σ) (a : α) (next : α → σ → Run K σ β) :
    (done s a).andThen next = next a s := rfl

@[simp] theorem fail_andThen (s : σ) (f : Fault K) (next : α → σ → Run K σ β) :
    (fail s f).andThen next = fail s f := rfl

@[simp] theorem ask_ok_andThen (s : σ) (a : α) (next : α → σ → Run K σ β) :
    (ask s (.ok a)).andThen next = next a s := rfl

@[simp] theorem log_ok_andThen (s : σ) (a : α) (events : List (Event K))
    (next : α → σ → Run K σ β) : (log s (.ok (a, events))).andThen next =
      { next a s with events := events ++ (next a s).events } := rfl

theorem answer_ask_andThen (s : σ) (answer : Except (Fault K) α) (next : α → σ → Run K σ β) :
    ((ask s answer).andThen next).answer = answer >>= fun a => (next a s).answer := by
  cases answer <;> rfl

theorem answer_log_andThen (s : σ) (answer : Except (Fault K) (α × List (Event K)))
    (next : α → σ → Run K σ β) :
    ((log s answer).andThen next).answer = answer >>= fun a => (next a.1 s).answer := by
  cases answer <;> rfl

/-- A question stops everything behind it, or is left out. -/
theorem ask_andThen_cases (s : σ) (answer : Except (Fault K) α) (next : α → σ → Run K σ β) :
    (∃ f, answer = .error f ∧ (ask s answer).andThen next = .fail s f) ∨
      ∃ a, answer = .ok a ∧ (ask s answer).andThen next = next a s := by
  cases h : answer with
  | error f => exact .inl ⟨f, rfl, rfl⟩
  | ok a => exact .inr ⟨a, rfl, rfl⟩

/-- What a question warns of stays, if it does not stop everything behind it. -/
theorem log_andThen_cases (s : σ) (answer : Except (Fault K) (α × List (Event K)))
    (next : α → σ → Run K σ β) :
    (∃ f, answer = .error f ∧ (log s answer).andThen next = .fail s f) ∨
      ∃ a events, answer = .ok (a, events) ∧
        (log s answer).andThen next = { next a s with events := events ++ (next a s).events } := by
  cases h : answer with
  | error f => exact .inl ⟨f, rfl, rfl⟩
  | ok a => exact .inr ⟨a.1, a.2, rfl, rfl⟩

end Run

end CurveKit
