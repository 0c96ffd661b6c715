import CurveKit.Proofs.Pool.Coherent
import CurveKit.Proofs.Scalar.Window
import CurveKit.Proofs.Spline.Ranked

/-!
# Local control

Between its ends a curve depends, to the last bit, on the control points that the formula of
the segment reads and on their extension data. Another spline with the same points there
gives the same, and so does the spline itself with a further point that is out of reach.

Results:
* `Spline.SameAround.get_eq`: splines that agree around a segment give the same in it.
* `Spline.Beside.exists_entries`: a point out of reach leaves what is around the segment.
* `Pool.local_control`: both for all splines after any calls.
-/
namespace CurveKit

open Binary64

namespace Spline

variable {s u : Spline Float} {c c' : Curve Float} {m d : Nat} {t p : Float}

/-- Segment `m` of a spline is as far from both ends as segment `m + d` of another one, or no point
that its formula reads is missing at an end. -/
def SamePlaced (s u : Spline Float) (m d : Nat) : Prop :=
  u.store.size = s.store.size ∧ d = 0 ∨
    s.kind.Whole s.store.size m ∧ s.store.size + d ≤ u.store.size

/-- A parameter in a segment between the ends is between the ends of any spline that agrees around
the segment, and in its segment there. -/
theorem SameAround.inside (h : s.SameAround u m d) (hs : s.Ready c) (hu : u.Ready c')
    (hplace : s.SamePlaced u m d) (ht : s.Inside t)
    (hm : segment s.store.size s.parameterAt t = m) :
    u.Inside t ∧ segment u.store.size u.parameterAt t = m + d := by
  have hx := hu.climbs
  have hle : s.store.size + d ≤ u.store.size := by
    unfold SamePlaced at hplace
    omega
  obtain ⟨hstart, hstop, hfirst, hlast⟩ := hs.segment_spec ht hm
  obtain ⟨hends, hends'⟩ := h.ends (by omega)
  rw [← hends] at hstart
  rw [← hends'] at hstop
  refine ⟨⟨ht.finite, ?_, ?_⟩, hx.segment_eq ht.finite (by omega) hstart hstop⟩
  · rw [h.kind]
    rcases Nat.lt_or_ge s.kind.guides (m + d) with hlt | hge
    · exact hx.lt_of_start ht.finite hlt (by omega) hstart
    · -- It is the first segment between the ends, and nothing has moved.
      obtain ⟨hd, hg⟩ : d = 0 ∧ s.kind.guides = m := by omega
      have hsame : u.parameterAt s.kind.guides = s.parameterAt s.kind.guides := by
        rw [hg, ← hends, hd, Nat.add_zero]
      rw [hsame]
      exact ht.first
  · rw [h.kind]
    exact hx.lt_of_stop ht.finite (by omega) (by omega) hstop

/-- Between the ends the shapes of the two ends of the segment are asked for. -/
theorem Ready.readsText_eq (h : s.Ready c) (ht : s.Inside t)
    (hm : segment s.store.size s.parameterAt t = m) :
    s.readsText c t = (m != 0 && s.hasText m || m + 2 != s.store.size && s.hasText (m + 1)) := by
  have hx := h.climbs
  have hsize := h.size
  have hparameters := (Curve.prepare_eq_ok (build_eq_ok.1 h.build).2.2.2).1
  obtain ⟨hstart, hstop, -, hlast⟩ := h.segment_spec ht hm
  have hguide : s.parameterAt s.kind.guides ≤ t :=
    Binary64.le_of_lt (hx.finite _ (by omega)) ht.finite ht.first
  have hfirst : s.parameterAt 0 < t := by
    rcases Nat.eq_zero_or_pos s.kind.guides with h0 | hpos
    · rw [← h0]
      exact ht.first
    · exact hx.lt_of_start ht.finite hpos (by omega) hguide
  have hend : t < s.parameterAt (s.store.size - 1) :=
    hx.lt_of_stop ht.finite (by omega) (by omega) hstop
  have hl : ¬ s.parameterAt 0 ≥ t := (not_le_iff_lt ht.finite (hx.finite _ (by omega))).2 hfirst
  have hr : ¬ s.parameterAt (s.store.size - 1) ≤ t :=
    (not_le_iff_lt (hx.finite _ (by omega)) ht.finite).2 hend
  have hlength : s.store.parameters.toArray.size = s.store.size := by simp
  rw [readsText, asksForText, hparameters, hlength]
  show (if t ≤ s.parameterAt 0 then false else if s.parameterAt (s.store.size - 1) ≤ t then false
    else _) = _
  rw [if_neg hl, if_neg hr, ← hm]
  rfl

theorem SameAround.readsText (h : s.SameAround u m d) (hs : s.Ready c) (hu : u.Ready c')
    (hplace : s.SamePlaced u m d) (ht : s.Inside t)
    (hm : segment s.store.size s.parameterAt t = m) : u.readsText c' t = s.readsText c t := by
  obtain ⟨ht', hm'⟩ := h.inside hs hu hplace ht hm
  obtain ⟨-, -, -, hlast⟩ := hs.segment_spec ht hm
  obtain ⟨hstart, hstop⟩ := h.hasText
  rw [hu.readsText_eq ht' hm', hs.readsText_eq ht hm]
  rcases hplace with ⟨hsize, rfl⟩ | ⟨hwhole, hle⟩
  · rw [hsize]
    congr 1
    · rcases Nat.eq_zero_or_pos m with rfl | hpos
      · rfl
      · rw [hstart hpos, Nat.add_zero]
    · by_cases hend : m + 2 = s.store.size
      · simp [hend]
      · rw [hstop (by omega), Nat.add_zero]
  · rcases Kind.inner_of_whole hwhole with hplain | ⟨hpos, hlt⟩
    · have hplain' := hplain
      rw [← h.kind] at hplain'
      simp [hasText_of_plain _ hplain, hasText_of_plain _ hplain']
    · have hfirst : (m + d != 0) = (m != 0) := by
        rw [Bool.eq_iff_iff, bne_iff_ne, bne_iff_ne]
        omega
      have hend : (m + d + 2 != u.store.size) = (m + 2 != s.store.size) := by
        rw [Bool.eq_iff_iff, bne_iff_ne, bne_iff_ne]
        omega
      rw [hstart hpos, hstop hlt, hfirst, hend]

/-- Splines that agree around a segment answer the same in it. -/
theorem SameAround.get_eq (h : s.SameAround u m d) (hs : s.Ready c) (hu : u.Ready c')
    (hkind : s.kind ≠ .natural) (hplace : s.SamePlaced u m d) (ht : s.Inside t)
    (hm : segment s.store.size s.parameterAt t = m) (config config' : Config) :
    u.get config (.ok t) = s.get config' (.ok t) := by
  obtain ⟨ht', hm'⟩ := h.inside hs hu hplace ht hm
  obtain ⟨-, -, -, hlast⟩ := hs.segment_spec ht hm
  rw [hu.get_eq ht' config, hs.get_eq ht config', hm', hm, h.readsText hs hu hplace ht hm,
    h.piece_eq hs.coherent hu.coherent hs.build hu.build hkind (by omega) hplace]

/-- A parameter that is before all points that the formula of segment `m` reads, or behind all of
them. -/
def Beside (s : Spline Float) (m : Nat) (p : Float) : Prop :=
  (∀ j < s.store.size, s.kind.Sees m j → p < s.parameterAt j) ∨
    ∀ j < s.store.size, s.kind.Sees m j → s.parameterAt j < p

/-- A point out of reach moves all points in reach by one place, or none of them. -/
theorem Beside.exists_entries (h : s.Beside m p) (hs : s.store.Sorted) (hp : p.isFinite = true)
    (v : List Float) (bend : Bend Float) : ∃ d ≤ 1, ∀ j < s.store.size, s.kind.Sees m j →
      (s.place p v bend).store.entries[j + d]? = s.store.entries[j]? := by
  have hentry (j : Nat) (hj : j < s.store.size) : ∃ a, s.store.entries[j]? = some a :=
    ⟨_, List.getElem?_eq_getElem hj⟩
  rcases h with before | behind
  · refine ⟨1, le_refl 1, fun j hj hsees => ?_⟩
    obtain ⟨a, ha⟩ := hentry j hj
    have hlt := before j hj hsees
    have hplace : s.store.place p ≤ j := by
      by_contra hgt
      have hle := (Store.place_spec hs hp ha).1 (by omega)
      have hfinite := Store.finite_of_getElem? hs ha
      rw [parameterAt_eq ha] at hlt
      exact (not_le_iff_lt hfinite hp).2 hlt hle
    exact List.getElem?_insertIdx_of_gt (by omega)
  · refine ⟨0, Nat.zero_le 1, fun j hj hsees => ?_⟩
    obtain ⟨a, ha⟩ := hentry j hj
    have hlt := behind j hj hsees
    have hplace : j < s.store.place p := by
      by_contra hge
      have hgt := (Store.place_spec hs hp ha).2 (by omega)
      have hfinite := Store.finite_of_getElem? hs ha
      rw [parameterAt_eq ha] at hlt
      exact (not_le_iff_lt hp hfinite).2 hlt (Binary64.le_of_lt hp hfinite hgt)
    exact List.getElem?_insertIdx_of_lt hplace

end Spline

namespace Pool

variable {cs : List Call} {p : Pool Float} {i : SplineId} {s : Spline Float} {c : Curve Float}

theorem ready_after (hs : (fresh.after cs).splines[i]? = some s) (hc : s.curve = some c) :
    s.Ready c where
  coherent := invariant_after Spline.coherent_invariant cs i s hs
  sorted := invariant_after Spline.sorted_invariant cs i s hs
  curve := hc

theorem exists_finalize (hs : p.splines[i]? = some s) (hb : s.build = .ok c) :
    ∃ b, (p.call (.spline i .finalize)).answer = .ok b := by
  cases hanswer : (p.call (.spline i .finalize)).answer with
  | ok b => exact ⟨b, rfl⟩
  | error f =>
    have := (finalize_error p hs hanswer).1
    rw [hb] at this
    cases this

theorem splines_of_insert (hs : p.splines[i]? = some s) {parameter value : Datum}
    {e : Except (Fault Float) (Extension Float)} {a : Answer} {q : Pool Float}
    {events : List (Event Float)} {x : Float}
    (h : p.call (.spline i (.insert parameter value e)) = ⟨.ok a, q, events⟩)
    (hx : parameter.parameter = .ok x) :
    x.isFinite = true ∧ ∃ v bend, q.splines[i]? = some (s.place x v bend) := by
  rw [call_spline p hs] at h
  obtain ⟨_, y, v, bend, _, -, hy, -, -, -, -, -, hrun⟩ :=
    Spline.call_insert_ok (congrArg Run.answer h)
  obtain rfl : x = y := Except.ok.inj (hx.symm.trans hy)
  refine ⟨Datum.isFinite_of_parameter hx, v, bend, ?_⟩
  obtain rfl : { p with splines := p.splines.set i (s.place x v bend) } = q := by
    rw [hrun] at h
    exact congrArg Run.state h
  exact List.getElem?_set_self (List.getElem?_eq_some_iff.1 hs).1

/-- **Local control.** Take a finalized spline after any calls, not a natural one, and a parameter
between the ends of its curve, which lies in one of its segments. What it answers depends, to the
last bit, on the control points that the formula of the segment reads and on their extension data:
another spline with as many points that agrees with it there answers the same. A further control
point that is accepted before or behind all of these points, where none of them is missing at an
end and the shape that all points share stays, changes nothing either: if the parameters differ,
the spline can be finalized, and then it answers the same. The configuration does not matter. The
answer is a value, if no shape of the spline is a text. -/
theorem local_control {t : Float} {m : Nat} (hs : (fresh.after cs).splines[i]? = some s)
    (hc : s.curve = some c) (hkind : s.kind ≠ .natural) (ht : t.isFinite = true)
    (hl : s.parameterAt s.kind.guides < t)
    (hr : t < s.parameterAt (s.store.size - 1 - s.kind.guides))
    (hm : segment s.store.size s.parameterAt t = m) :
    (s.parameterAt m ≤ t ∧ t < s.parameterAt (m + 1)) ∧
    ∃ r : Except (Fault Float) (List Float), (s.IsNumeric → ∃ v, r = .ok v) ∧
      (∀ config, s.get config (.ok t) = r) ∧
      (∀ (ds : List Call) (j : SplineId) u d, (fresh.after ds).splines[j]? = some u →
        u.curve = some d → u.store.size = s.store.size → s.SameAround u m 0 →
        ∀ config, u.get config (.ok t) = r) ∧
      ∀ parameter value e a q events x u,
        (fresh.after cs).call (.spline i (.insert parameter value e)) = ⟨.ok a, q, events⟩ →
        parameter.parameter = .ok x → q.splines[i]? = some u →
        s.kind.Whole s.store.size m → s.Beside m x →
        (s.kind = .basicX → u.shared = s.shared) →
        ((∀ j < s.store.size, x < s.parameterAt j ∨ s.parameterAt j < x) →
          ∃ b, (q.call (.spline i .finalize)).answer = .ok b) ∧
        ∀ b, (q.call (.spline i .finalize)).answer = .ok b →
          ∃ w, (q.call (.spline i .finalize)).state.splines[i]? = some w ∧
            ∀ config, w.get config (.ok t) = r := by
  have hready := ready_after hs hc
  have hinside : s.Inside t := ⟨ht, hl, hr⟩
  obtain ⟨hstart, hstop, -, hlast⟩ := hready.segment_spec hinside hm
  -- Any spline that calls leave and that agrees around the segment answers the same.
  have hsame {ds : List Call} {j d : Nat} {u : Spline Float} {c' : Curve Float}
      (hu : (fresh.after ds).splines[j]? = some u) (hc' : u.curve = some c')
      (h : s.SameAround u m d) (hplace : s.SamePlaced u m d) (config : Config) :
      u.get config (.ok t) = s.get .builtin (.ok t) :=
    h.get_eq hready (ready_after hu hc') hkind hplace hinside hm config .builtin
  refine ⟨⟨hstart, hstop⟩, s.get .builtin (.ok t), fun hnumeric => ?_, ?_, ?_, ?_⟩
  · rw [hready.get_eq hinside, Spline.readsText_of_isNumeric hnumeric]
    exact ⟨_, rfl⟩
  · have hself : s.SameAround s m 0 :=
      Spline.sameAround_of_entries rfl (fun _ => rfl) (by omega) fun j _ _ => rfl
    exact hsame hs hc hself (.inl ⟨rfl, rfl⟩)
  · intro ds j u d hu hd hsize h
    exact hsame hu hd h (.inl ⟨hsize, rfl⟩)
  · intro parameter value e a q events x u hcall hx hu hwhole hbeside hshared
    obtain ⟨hfinite, v, bend, hq⟩ := splines_of_insert hs hcall hx
    obtain rfl : u = s.place x v bend := Option.some.inj (hu.symm.trans hq)
    refine ⟨fun apart => ?_, fun b hanswer => ?_⟩
    · obtain ⟨d, hd⟩ := hready.exists_build_place hkind hfinite apart v bend
      exact exists_finalize hu hd
    · obtain ⟨d, hd, -⟩ := curve_of_finalize q hu hanswer
      refine ⟨_, hd, ?_⟩
      have hafter : (q.call (.spline i .finalize)).state =
          fresh.after (cs ++ [.spline i (.insert parameter value e), .spline i .finalize]) := by
        rw [after_append, after_cons, after_cons, after_nil, hcall]
      rw [hafter] at hd
      obtain ⟨k, hk, hentries⟩ := hbeside.exists_entries hready.sorted hfinite v bend
      have hsize : s.store.size + k ≤ (s.place x v bend).store.size := by
        rw [Spline.size_place]
        omega
      exact hsame hd rfl (Spline.sameAround_of_entries rfl hshared (by omega) hentries)
        (.inr ⟨hwhole, hsize⟩)

/-- Two Catmull-Rom splines that differ in their outer points, and the first one with a further
point out of reach: all three give the same in the middle. -/
theorem local_control_catmullRom :
    let point (x y : Float) : Call := .spline 0 (.insert (.float x) (.float y) (.ok .nothing))
    let inner : List Call := [point 1.0 2.0, point 2.0 0.0, point 3.0 4.0, point 4.0 3.0]
    let cs : List Call := .create .catmullRom none :: inner ++
      [point 0.0 1.0, point 5.0 (-1.0), .spline 0 .finalize]
    let ds : List Call := .create .catmullRom none :: inner ++
      [point (-7.0) 9.0, point 4.5 8.0, .spline 0 .finalize]
    let es : List Call := cs ++ [point 0.5 6.0, .spline 0 .finalize]
    ∃ s u w v, (fresh.after cs).splines[0]? = some s ∧ (fresh.after ds).splines[0]? = some u ∧
      (fresh.after es).splines[0]? = some w ∧ s.get .builtin (.ok 2.5) = .ok v ∧
      u.get .builtin (.ok 2.5) = .ok v ∧ w.get .builtin (.ok 2.5) = .ok v := by
  intro point inner cs ds es
  let data (s : Spline Float) := (s.isFinalized, s.kind, s.store.parameters, s.values)
  have hs : (fresh.after cs).splines[0]?.map data = some (true, .catmullRom,
      [0.0, 1.0, 2.0, 3.0, 4.0, 5.0], [[1.0], [2.0], [0.0], [4.0], [3.0], [-1.0]]) := by
    decide +kernel
  have hu : (fresh.after ds).splines[0]?.map data = some (true, .catmullRom,
      [-7.0, 1.0, 2.0, 3.0, 4.0, 4.5], [[9.0], [2.0], [0.0], [4.0], [3.0], [8.0]]) := by
    decide +kernel
  obtain ⟨s, hs, hdata⟩ := Option.map_eq_some_iff.1 hs
  obtain ⟨u, hu, hdata'⟩ := Option.map_eq_some_iff.1 hu
  simp only [data, Prod.mk.injEq] at hdata hdata'
  obtain ⟨hfinalized, hkind, hx, hy⟩ := hdata
  obtain ⟨hfinalized', hkind', hx', hy'⟩ := hdata'
  obtain ⟨c, hc⟩ := Option.isSome_iff_exists.1 hfinalized
  obtain ⟨c', hc'⟩ := Option.isSome_iff_exists.1 hfinalized'
  have hn : s.store.size = 6 := by rw [← Store.length_parameters, hx]; rfl
  have hn' : u.store.size = 6 := by rw [← Store.length_parameters, hx']; rfl
  have hsame : s.SameAround u 2 0 := by
    refine ⟨hkind'.trans hkind.symm, ?_, by rw [hkind]; trivial⟩
    rw [hn, hkind, Spline.parameterAt, Spline.parameterAt, hx, hx', hy, hy']
    decide +kernel
  have hbeside : s.Beside 2 0.5 := by
    refine .inl ?_
    rw [hn, hkind, Spline.parameterAt, hx]
    decide +kernel
  obtain ⟨-, r, hvalue, hr, hother, hadded⟩ := local_control (t := 2.5) (m := 2) hs hc
    (by rw [hkind]; decide) (by decide +kernel)
    (by rw [hkind, Spline.parameterAt, hx]; decide +kernel)
    (by rw [hkind, hn, Spline.parameterAt, hx]; decide +kernel)
    (by rw [hn, Spline.parameterAt, hx]; decide +kernel)
  obtain ⟨v, rfl⟩ := hvalue (s.hasText_of_plain (by rw [hkind]; decide))
  obtain ⟨a, ha⟩ : ∃ a, ((fresh.after cs).call (point 0.5 6.0)).answer = .ok a :=
    exists_ok_of_isOk (by decide +kernel)
  obtain ⟨q, events, hcall⟩ : ∃ q events, (fresh.after cs).call (point 0.5 6.0) =
      ⟨.ok a, q, events⟩ := ⟨_, _, by rw [← ha]⟩
  have hparameter : (Datum.float 0.5).parameter = .ok 0.5 := rfl
  obtain ⟨-, value, bend, hq⟩ := splines_of_insert hs hcall hparameter
  obtain ⟨hfinalize, hget⟩ := hadded _ _ _ a q events 0.5 _ hcall hparameter hq
    (by rw [hkind, hn]; decide) hbeside (fun h => absurd (hkind.symm.trans h) (by decide))
  obtain ⟨b, hb⟩ := hfinalize (by rw [hn, Spline.parameterAt, hx]; decide +kernel)
  obtain ⟨w, hw, hgetw⟩ := hget b hb
  have hes : fresh.after es = (q.call (.spline 0 .finalize)).state := by
    rw [after_append, after_cons, after_cons, after_nil, hcall]
  refine ⟨s, u, w, v, hs, hu, ?_, hr .builtin, ?_, hgetw .builtin⟩
  · rw [hes, hw]
  · exact hother ds 0 u c' hu hc' (by rw [hn, hn']) hsame .builtin

end Pool

end CurveKit
