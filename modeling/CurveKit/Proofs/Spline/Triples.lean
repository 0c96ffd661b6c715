import CurveKit.Proofs.Spline.Acceptance

/-!
# Which data are triples

A datum is read as a triple by going through its items. Each item is converted before the next
one is asked for, and a fourth one is asked for to see that there are no more than three. So an
integer that is too large for a double is told as such if it is among the first four items and
everything before it is a number; whatever else is wrong is told in one way. Nothing is said about
the numbers themselves: that they are finite is demanded only of a control point, and a spline that
refuses one is left as it was.

Results:
* `Datum.items?_eq_some`: what going through a datum gives.
* `Datum.triple_cases`, `Datum.triple_eq_ok`, `Datum.triple_eq_tooLarge`: how reading a triple ends.
* `Spline.finite_of_insert`, `Spline.insertTriples_eq_fail`: triples that are not finite.
* `Spline.triples_correct`: which data are triples, and which triples are refused later.
-/
namespace CurveKit

namespace Datum

/-! ## Going through a datum -/

/-- What going through a datum gives: the items of a list or a group, the characters of a text,
the keys of a dictionary. -/
inductive Yields : Datum → List Datum → Prop
  | list (items : List Datum) : Yields (.list items) items
  | group (items : List Datum) : Yields (.group items) items
  | text (s : String) : Yields (.str s) (s.toList.map fun c => .str (String.singleton c))
  | keys (entries : List (String × Datum)) :
      Yields (.dictionary entries) (entries.map fun e => .str e.1)

variable {d : Datum} {items : List Datum} {t : Tcb Float}

theorem items?_eq_some : d.items? = some items ↔ d.Yields items := by
  constructor
  · intro h
    cases d with
    | list _ | group _ | str _ | dictionary _ =>
      cases h
      constructor
    | _ => cases h
  · rintro (_ | _ | _ | _) <;> rfl

/-! ## Reading a triple -/

/-- Three items that are the numbers of a triple. -/
def StandsFor (d : Datum) (t : Tcb Float) : Prop :=
  ∃ a b c, d.Yields [a, b, c] ∧ a.toFloat = .ok t.tension ∧ b.toFloat = .ok t.bias ∧
    c.toFloat = .ok t.continuity

/-- One of the first four items is an integer that is too large for a double, and those before it
are numbers. -/
def OverflowsEarly (d : Datum) : Prop :=
  ∃ before i after, d.Yields (before ++ i :: after) ∧ before.length < 4 ∧
    (∀ b ∈ before, ∃ x, b.toFloat = .ok x) ∧ i.IsHuge

/-- Reading a triple ends in one of three ways. -/
theorem triple_cases (d : Datum) : (∃ t, d.triple = .ok t) ∨ d.triple = .error .tooLarge ∨
    d.triple = .error (.notTriple d) := by
  unfold triple
  split
  · exact .inr (.inr rfl)
  · split
    · exact .inl ⟨_, rfl⟩
    · exact .inr (.inl rfl)
    · exact .inr (.inr rfl)

theorem triple_eq_ok : d.triple = .ok t ↔ d.StandsFor t := by
  unfold triple
  constructor
  · intro h
    split at h
    · cases h
    · rename_i items hitems
      split at h
      · rename_i tension bias continuity hread
        cases h
        generalize htake : items.take 4 = looked at hread
        obtain _ | @⟨a, _, _, _, ha, _ | @⟨b, _, _, _, hb, _ | @⟨c, _, _, _, hc, ⟨⟩⟩⟩⟩ :=
          mapM_eq_ok.1 hread
        -- Four items are looked at and three were there, so there are no others.
        have hlength : min 4 items.length = 3 := by rw [← List.length_take, htake]; rfl
        have hall : items.take 4 = items := List.take_of_length_le (by omega)
        rw [hall] at htake
        exact ⟨a, b, c, items?_eq_some.1 (hitems.trans (congrArg some htake)), ha, hb, hc⟩
      · cases h
      · cases h
  · rintro ⟨a, b, c, hitems, ha, hb, hc⟩
    rw [items?_eq_some.2 hitems]
    have hread : ([a, b, c].take 4).mapM toFloat = .ok [t.tension, t.bias, t.continuity] :=
      mapM_eq_ok.2 (.cons ha (.cons hb (.cons hc .nil)))
    dsimp only
    rw [hread]

theorem triple_eq_tooLarge : d.triple = .error .tooLarge ↔ d.OverflowsEarly := by
  unfold triple
  constructor
  · intro h
    split at h
    · cases h
    · rename_i items hitems
      split at h
      · cases h
      · rename_i hread
        obtain ⟨before, i, after, htake, hbefore, hi⟩ := mapM_eq_error.1 hread
        have hsplit : items = before ++ i :: (after ++ items.drop 4) := by
          rw [← List.cons_append, ← List.append_assoc, ← htake, List.take_append_drop]
        have hlength : (items.take 4).length ≤ 4 := List.length_take_le 4 items
        rw [htake, List.length_append, List.length_cons] at hlength
        rw [hsplit] at hitems
        exact ⟨before, i, _, items?_eq_some.1 hitems, by omega, hbefore, toFloat_eq_tooLarge.1 hi⟩
      · cases h
  · rintro ⟨before, i, after, hitems, hlength, hbefore, hi⟩
    rw [items?_eq_some.2 hitems]
    obtain ⟨k, hk⟩ : ∃ k, 4 - before.length = k + 1 := ⟨3 - before.length, by omega⟩
    have htake : (before ++ i :: after).take 4 = before ++ i :: after.take k := by
      rw [List.take_append, List.take_of_length_le (by omega), hk, List.take_succ_cons]
    have hread : ((before ++ i :: after).take 4).mapM toFloat = .error .tooLarge :=
      mapM_eq_error.2 ⟨before, i, after.take k, htake, hbefore, toFloat_eq_tooLarge.2 hi⟩
    dsimp only
    rw [hread]

theorem triple_eq_notTriple : d.triple = .error (.notTriple d) ↔
    (∀ t, ¬ d.StandsFor t) ∧ ¬ d.OverflowsEarly := by
  simp only [← triple_eq_ok, ← triple_eq_tooLarge]
  rcases triple_cases d with ⟨t, h⟩ | h | h
  · simp [h]
  · simp [h]
  · simp [h]

end Datum

/-! ## Triples that are not finite -/

namespace Spline

variable {clamp : Bool} {s : Spline Float} {config : Config} {parameter value : Datum}

theorem pair?_group (a b : Tcb Float) :
    (Extension.items .group [.triple a, .triple b]).pair? = some (.ok a, .ok b) := rfl

/-- The triples of an accepted control point are finite. -/
theorem finite_of_insert {p : Reading Float} {v : Except (Fault Float) (List Float)}
    {a b : Tcb Float} {i : Nat}
    (h : (s.insert clamp p v (.items .group [.triple a, .triple b])).answer = .ok i) :
    a.isFinite = true ∧ b.isFinite = true := by
  obtain ⟨_, _, bend, events, -, hpresence, -, -, -, hbend, -⟩ := insert_eq_ok h
  rcases checkBend_eq_ok hbend with ⟨ht, -, -⟩ | ⟨-, hpair, -⟩ | ⟨-, c, hc, -⟩
  · rw [checkPresence, ht] at hpresence
    cases hpresence
  · obtain ⟨incoming, outgoing, hread, hin, hout, -⟩ := checkPair_eq_ok hpair
    rw [pair?_group] at hread
    cases hread
    exact ⟨hin, hout⟩
  · cases hc

/-- A triple that is not finite is not accepted, and the spline stays as it is. -/
theorem insertTriples_eq_fail {incoming outgoing : Datum} {a b : Tcb Float}
    (ha : incoming.triple = .ok a) (hb : outgoing.triple = .ok b)
    (hinfinite : (a.isFinite && b.isFinite) = false) :
    ∃ f, s.insertTriples config parameter value incoming outgoing = .fail s f := by
  rw [insertTriples, ha, hb]
  change ∃ f, s.insertData config parameter value _ = .fail s f
  rw [insertData]
  cases hr : (s.insert (config.isOn .clampShapes) parameter.parameter
      (value.vector config.maxTerms) (.items .group [.triple a, .triple b])).answer with
  | error f => exact ⟨f, insert_eq_error hr⟩
  | ok i =>
    obtain ⟨hfirst, hsecond⟩ := finite_of_insert hr
    rw [hfirst, hsecond] at hinfinite
    cases hinfinite

/-- A live spline that takes triples, to which a control point comes with nothing wrong about its
parameter and its value. -/
structure Welcomes (s : Spline Float) (config : Config) (parameter value : Datum) (p : Float)
    (v : List Float) : Prop where
  alive : s.destroyed = false
  kind : s.kind = .tcb
  parameter_eq : parameter.parameter = .ok p
  value_eq : value.vector config.maxTerms = .ok v
  width : s.terms ≠ 0 → v.length = s.terms

/-- Only the numbers in the triples can be wrong where the spline welcomes the point. -/
theorem Welcomes.insertTriples_eq {incoming outgoing : Datum} {a b : Tcb Float} {p : Float}
    {v : List Float} (h : s.Welcomes config parameter value p v) (ha : incoming.triple = .ok a)
    (hb : outgoing.triple = .ok b) :
    s.insertTriples config parameter value incoming outgoing =
      if a.isFinite && b.isFinite then
        ⟨.ok (s.store.place p), s.place p v (.tcb a b), []⟩
      else .fail s (if a.isFinite then .tripleNotFinite .outgoing b
        else .tripleNotFinite .incoming a) := by
  let e : Extension Float := .items .group [.triple a, .triple b]
  have hpresence : checkPresence s.kind e = .ok () := by
    rw [h.kind]
    rfl
  have hbend : checkBend (config.isOn .clampShapes) s.kind e =
      (checkPair e).map fun b => (b, []) := by
    rw [h.kind]
    rfl
  rw [insertTriples, ha, hb]
  change s.insertData config parameter value e = _
  rw [insertData, h.parameter_eq, h.value_eq]
  split
  · rename_i hfinite
    rw [Bool.and_eq_true] at hfinite
    have hpair : checkPair e = .ok (.tcb a b) := by
      simp [checkPair, e, pair?_group, checkTriple, hfinite]
      rfl
    exact insert_of_ok h.alive hpresence h.width (by rw [hbend, hpair]; rfl)
  · rename_i hinfinite
    have hpair : checkPair e = .error (if a.isFinite then .tripleNotFinite .outgoing b
        else .tripleNotFinite .incoming a) := by
      cases hfirst : a.isFinite with
      | false =>
        simp [checkPair, e, pair?_group, checkTriple, hfirst]
        rfl
      | true =>
        have hsecond : b.isFinite = false := by simpa [hfirst] using hinfinite
        simp [checkPair, e, pair?_group, checkTriple, hfirst, hsecond]
        rfl
    refine insert_eq_error ?_
    rw [answer_insert, checkAlive_eq_ok.2 h.alive, hpresence]
    simp only [bind, Except.bind]
    rw [checkWidth_eq_ok.2 h.width, hbend, hpair]
    rfl

/-- **Triples.** A datum is read as a triple if and only if going through it gives exactly three
items that stand for numbers; the triple has these numbers, finite or not. Otherwise an integer that
is too large for a double is told as such, without a notice, if it is among the first four items and
those before it stand for numbers. Everything else is told by a notice about extension data. With a
triple that is not finite every spline refuses a control point and stays as it is. A live spline
that takes triples does so for that reason alone, if nothing is wrong about the parameter and the
value. -/
theorem triples_correct :
    (∀ d : Datum,
      (∀ t, d.triple = .ok t ↔ d.StandsFor t) ∧
      (d.triple = .error .tooLarge ↔ d.OverflowsEarly) ∧
      (d.triple = .error (.notTriple d) ↔ (∀ t, ¬ d.StandsFor t) ∧ ¬ d.OverflowsEarly) ∧
      Fault.notice? .tooLarge = none ∧ (Fault.notTriple d).IsAbout .extension) ∧
    ∀ (config : Config) (s : Spline Float) (parameter value incoming outgoing : Datum)
      (a b : Tcb Float), incoming.triple = .ok a → outgoing.triple = .ok b →
      let r := s.insertTriples config parameter value incoming outgoing
      ((a.isFinite && b.isFinite) = false → ∃ f, r = .fail s f) ∧
      ∀ p v, s.Welcomes config parameter value p v →
        r = if a.isFinite && b.isFinite then
            ⟨.ok (s.store.place p), s.place p v (.tcb a b), []⟩
          else .fail s (if a.isFinite then .tripleNotFinite .outgoing b
            else .tripleNotFinite .incoming a) :=
  ⟨fun _ => ⟨fun _ => Datum.triple_eq_ok, Datum.triple_eq_tooLarge, Datum.triple_eq_notTriple, rfl,
      rfl⟩,
    fun _ _ _ _ _ _ _ _ ha hb => ⟨insertTriples_eq_fail ha hb,
      fun _ _ h => h.insertTriples_eq ha hb⟩⟩

/-- A truth value, a numeral for not-a-number and an integer are a triple, which a spline refuses.
An integer that is too large counts as the fourth item, but not as the fifth one. -/
theorem triples_correct_nan :
    let d : Datum := .list [.bool true, .str "nan", .int 2]
    let zeros : Datum := .list [.int 0, .int 0, .int 0]
    let huge : Datum := .int (2 ^ 1024)
    let nan : Float := 0.0 / 0.0
    d.triple = .ok ⟨1.0, nan, 2.0⟩ ∧
      Datum.triple (.list [.int 1, .int 2, .int 3, huge]) = .error .tooLarge ∧
      Datum.triple (.list [.int 1, .int 2, .int 3, .int 4, huge]) =
        .error (.notTriple (.list [.int 1, .int 2, .int 3, .int 4, huge])) ∧
      (empty .tcb 0).insertTriples .builtin (.float 0.5) (.int 1) zeros d =
        .fail (empty .tcb 0) (.tripleNotFinite .outgoing ⟨1.0, nan, 2.0⟩) := by
  intro d zeros huge nan
  obtain ⟨hread, hinsert⟩ := triples_correct
  have hd : d.triple = .ok ⟨1.0, nan, 2.0⟩ :=
    ((hread d).1 _).2 ⟨_, _, _, .list _, rfl, by decide +kernel, by decide +kernel⟩
  have hzeros : zeros.triple = .ok ⟨0, 0, 0⟩ :=
    ((hread zeros).1 _).2 ⟨_, _, _, .list _, by decide +kernel, by decide +kernel,
      by decide +kernel⟩
  have hhuge : huge.IsHuge := ⟨2 ^ 1024, rfl, by decide +kernel⟩
  refine ⟨hd, ?_, ?_, ?_⟩
  · refine (hread _).2.1.2 ⟨[.int 1, .int 2, .int 3], huge, [], .list _, by decide, ?_, hhuge⟩
    intro c hc
    have hread : (c.toFloat).isOk = true := by
      revert c
      decide +kernel
    exact exists_ok_of_isOk hread
  · refine (hread _).2.2.1.2 ⟨?_, ?_⟩
    · rintro t ⟨a, b, c, hitems, -⟩
      cases hitems
    · intro hearly
      have hfault : (Datum.triple (.list [.int 1, .int 2, .int 3, .int 4, huge]) matches
          .error .tooLarge) = false := by decide +kernel
      rw [(hread _).2.1.2 hearly] at hfault
      cases hfault
  · have hwelcome : (empty .tcb 0).Welcomes .builtin (.float 0.5) (.int 1) 0.5 [1.0] :=
      ⟨rfl, rfl, rfl, rfl, fun h => absurd rfl h⟩
    have h := (hinsert .builtin (empty .tcb 0) (.float 0.5) (.int 1) zeros d _ _ hzeros hd).2 _ _
      hwelcome
    have hfinite : (⟨0, 0, 0⟩ : Tcb Float).isFinite = true ∧
        (⟨1.0, nan, 2.0⟩ : Tcb Float).isFinite = false := by decide +kernel
    rw [hfinite.1, hfinite.2] at h
    exact h

end Spline

end CurveKit
