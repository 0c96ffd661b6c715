import CurveKit.Proofs.Datum.Arrays
import CurveKit.Proofs.Spline.Arranged
import CurveKit.Proofs.Spline.Checks

/-!
# Which control points are accepted

A control point is refused for the first of a list of demands that it does not meet, and
accepted if it meets them all. Each check behind `insertData` enforces some demands; checks
in a row enforce them in a row.

Results:
* `Enforces.bind`: checks in a row.
* `enforces_vector`, `enforces_checkBend`: the checks of values and of extension data.
* `accepts`: all demands on a control point, and how each is reported.
-/
namespace CurveKit

/-! ## Demands -/

/-- Something that is demanded, and the faults that report its absence. -/
structure Demand (ε : Type) where
  met : Prop
  reported : ε → Prop

/-- A check succeeds if and only if all demands are met, and the first that is not decides the
fault. -/
structure Enforces {ε α : Type} (x : Except ε α) (demands : List (Demand ε)) : Prop where
  accepted : (∃ a, x = .ok a) ↔ ∀ d ∈ demands, d.met
  refused : ∀ {before d after}, demands = before ++ d :: after → (∀ c ∈ before, c.met) → ¬ d.met →
    ∃ f, x = .error f ∧ d.reported f

namespace Enforces

variable {ε α β : Type} {x : Except ε α} {next : α → Except ε β} {d : Demand ε}
  {ds es : List (Demand ε)}

theorem nil {a : α} (h : x = .ok a) : Enforces x [] where
  accepted := ⟨fun _ => nofun, fun _ => ⟨a, h⟩⟩
  refused h := by simp at h

/-- One demand comes before all others. -/
theorem cons (hd : ¬ d.met → ∃ f, x = .error f ∧ d.reported f) (hds : d.met → Enforces x ds) :
    Enforces x (d :: ds) where
  accepted := by
    rw [List.forall_mem_cons]
    constructor
    · rintro ⟨a, ha⟩
      have hmet : d.met := by
        by_contra hn
        obtain ⟨f, hf, -⟩ := hd hn
        rw [ha] at hf
        cases hf
      exact ⟨hmet, (hds hmet).accepted.1 ⟨a, ha⟩⟩
    · rintro ⟨hmet, hall⟩
      exact (hds hmet).accepted.2 hall
  refused := by
    intro before c after h hb hc
    cases before with
    | nil =>
      cases h
      exact hd hc
    | cons b before =>
      cases h
      exact (hds (hb d (.head _))).refused rfl (fun c hm => hb c (.tail _ hm)) hc

theorem head (h : Enforces x (d :: ds)) (hd : ¬ d.met) : ∃ f, x = .error f ∧ d.reported f :=
  h.refused (List.nil_append _).symm nofun hd

theorem tail (h : Enforces x (d :: ds)) (hd : d.met) : Enforces x ds where
  accepted := by rw [h.accepted, List.forall_mem_cons, and_iff_right hd]
  refused := by
    rintro before c after rfl hb hc
    have hds : d :: (before ++ c :: after) = (d :: before) ++ c :: after := rfl
    refine h.refused hds ?_ hc
    rintro b (_ | ⟨_, hm⟩)
    · exact hd
    · exact hb b hm

/-- **Checks in a row.** What two checks enforce is enforced by doing one after the other. -/
theorem bind (hx : Enforces x ds) (hn : ∀ a, x = .ok a → Enforces (next a) es) :
    Enforces (x >>= next) (ds ++ es) := by
  induction ds with
  | nil =>
    obtain ⟨a, ha⟩ := hx.accepted.2 nofun
    rw [ha]
    exact hn a ha
  | cons d ds ih =>
    refine .cons (fun hd => ?_) fun hd => ih (hx.tail hd)
    obtain ⟨f, hf, hr⟩ := hx.head hd
    exact ⟨f, Spline.bind_of_error hf next, hr⟩

theorem one (hok : d.met → ∃ a, x = .ok a) (hd : ¬ d.met → ∃ f, x = .error f ∧ d.reported f) :
    Enforces x [d] :=
  .cons hd fun h => .nil (hok h).choose_spec

/-- Nothing more is enforced by a demand that every accepted thing meets. -/
theorem implied (h : Enforces x ds) (hd : ∀ a, x = .ok a → d.met) : Enforces x (ds ++ [d]) := by
  have hb : Enforces (x >>= pure) (ds ++ [d]) :=
    h.bind fun a ha => .one (fun _ => ⟨a, rfl⟩) fun hn => absurd (hd a ha) hn
  rwa [bind_pure] at hb

theorem map (h : Enforces x ds) (g : α → β) : Enforces (x.map g) ds where
  accepted := by
    rw [← h.accepted]
    constructor
    · rintro ⟨b, hb⟩
      obtain ⟨a, ha, -⟩ := map_eq_ok.1 hb
      exact ⟨a, ha⟩
    · rintro ⟨a, ha⟩
      exact ⟨g a, map_eq_ok.2 ⟨a, ha, rfl⟩⟩
  refused hds hb hd := by
    obtain ⟨f, hf, hr⟩ := h.refused hds hb hd
    exact ⟨f, map_eq_error.2 hf, hr⟩

end Enforces

/-! ## Faults by what they are about -/

/-- A fault with a notice of the given category. -/
def Fault.IsAbout (c : Category) (f : Fault Float) : Prop := f.notice?.map Notice.category = some c

/-- What is no number is told as such, unless it is an integer that is too large; that is a plain
failure. -/
def Fault.IsNoNumber (tooLarge : Prop) (f : Fault Float) : Prop :=
  (tooLarge → f = .tooLarge) ∧ (¬ tooLarge → f.IsAbout .numeric)

theorem Fault.isNoNumber_tooLarge {p : Prop} (h : p) : Fault.IsNoNumber p .tooLarge :=
  ⟨fun _ => rfl, fun hn => absurd h hn⟩

theorem Fault.isNoNumber_of_isAbout {p : Prop} {f : Fault Float} (h : ¬ p)
    (hf : f.IsAbout .numeric) : f.IsNoNumber p :=
  ⟨fun hp => absurd hp h, fun _ => hf⟩

/-! ## Numbers -/

namespace Datum

theorem enforces_parameter (d : Datum) : Enforces d.parameter
    [⟨∃ x, d.toFloat = .ok x ∧ x.isFinite = true, Fault.IsNoNumber d.IsHuge⟩] := by
  unfold parameter scalar
  cases h : d.toFloat with
  | ok x =>
    have hhuge : ¬ d.IsHuge := fun hh => by
      rw [← toFloat_eq_tooLarge, h] at hh
      cases hh
    dsimp only [Reading.ofScalar]
    by_cases hx : x.isFinite = true
    · exact .one (fun _ => ⟨x, if_pos hx⟩) fun hn => absurd ⟨x, rfl, hx⟩ hn
    · refine .one ?_ fun _ => ⟨_, if_neg hx, Fault.isNoNumber_of_isAbout hhuge rfl⟩
      rintro ⟨y, hy, hf⟩
      cases hy
      exact absurd hf hx
  | error why =>
    refine .one (fun ⟨x, hx, _⟩ => nomatch hx) fun _ => ?_
    cases why with
    | tooLarge => exact ⟨_, rfl, Fault.isNoNumber_tooLarge (toFloat_eq_tooLarge.1 h)⟩
    | malformed | wrongForm =>
      refine ⟨_, rfl, Fault.isNoNumber_of_isAbout (fun hh => ?_) rfl⟩
      rw [← toFloat_eq_tooLarge, h] at hh
      cases hh

/-- What is demanded of a value on its own: it is an array of numbers, and a vector; it has an
admitted width; and its components are finite. -/
def demands (limit : Nat) (d : Datum) : List (Demand (Fault Float)) :=
  [⟨d.IsNumeric, Fault.IsNoNumber d.Overflows⟩,
   ⟨d.IsFlat, Fault.IsAbout .dimension⟩,
   ⟨1 ≤ d.parts.length ∧ d.parts.length ≤ limit, Fault.IsAbout .dimension⟩,
   ⟨∀ i ∈ d.parts, ∀ x, i.elementToFloat = .ok x → x.isFinite = true, Fault.IsAbout .numeric⟩]

theorem all_isFinite {l : List Datum} {m : List Float}
    (h : List.Forall₂ (fun i x => i.elementToFloat = .ok x) l m) :
    m.all Float.isFinite = true ↔
      ∀ i ∈ l, ∀ x, i.elementToFloat = .ok x → x.isFinite = true := by
  induction h with
  | nil => simp
  | cons ha _ ih => simp [ih, ha]

/-- A value is looked at as a whole first, and then at its components. -/
theorem enforces_vector (d : Datum) (m : Int) : Enforces (d.vector (.int m)) (d.demands m.toNat) := by
  unfold vector
  refine .cons (fun hn => ?_) fun hn => ?_
  · obtain ⟨why, ht, hwhy⟩ := toTable_of_not_isNumeric hn
    rw [ht]
    cases why with
    | tooLarge => exact ⟨_, rfl, Fault.isNoNumber_tooLarge (hwhy.1 rfl)⟩
    | malformed | wrongForm =>
      exact ⟨_, rfl, Fault.isNoNumber_of_isAbout (fun ho => nomatch hwhy.2 ho) rfl⟩
  · obtain ⟨t, ht⟩ := exists_toTable hn
    have hshape := toTable_shape ht
    rw [ht]
    dsimp only
    refine .cons (fun hf => ?_) fun hf => ?_
    · rw [if_pos (by simpa using fun h => hf (hshape.1 h))]
      exact ⟨_, rfl, rfl⟩
    · have hentries := toTable_entries ht hf
      rw [if_neg (by simpa using hshape.2 hf), admitsWidth_int, ← hentries.length_eq]
      refine .cons (fun hw => ?_) fun hw => ?_
      · rw [decide_eq_false hw]
        exact ⟨_, rfl, rfl⟩
      · rw [decide_eq_true hw]
        have hall := all_isFinite hentries
        refine .one (fun hx => ⟨t.entries, if_pos (hall.2 hx)⟩) fun hx => ?_
        exact ⟨_, if_neg fun h => hx (hall.1 h), rfl⟩

theorem length_vector {d limit : Datum} {v : List Float} (h : d.vector limit = .ok v) :
    v.length = d.parts.length := by
  unfold vector at h
  split at h
  · cases h
  · cases h
  · rename_i t ht
    split at h
    · cases h
    · rename_i hs
      obtain ⟨_, -, h⟩ := bind_eq_ok.1 h
      split at h
      · cases h
      · split at h
        · cases h
          exact (toTable_entries ht ((toTable_shape ht).1 (by simpa using hs))).length_eq.symm
        · cases h

end Datum

/-! ## Extension data -/

namespace Extension

/-- Extension data in the form that a kind asks for: none, a pair of triples, or a shape. -/
def Suits (kind : Kind) (e : Extension Float) : Prop :=
  match kind.tag with
  | .none => e = .nothing
  | .tcb => e.pair?.isSome = true
  | _ => e.shape?.isSome = true

/-- The numbers in the pieces of extension data of the form that a kind asks for, or why a piece
holds none. -/
def numbers (kind : Kind) (e : Extension Float) : List (Except NotNumber (List Float)) :=
  match kind.tag with
  | .none => []
  | .tcb => e.pair?.elim [] fun p => [p.1.map Tcb.toList, p.2.map Tcb.toList]
  | _ => e.shape?.elim [] fun r => [r.map fun b => [b.freedom]]

/-- What is demanded of a piece of extension data: it holds numbers, and they are finite. -/
def pieceDemands (piece : Except NotNumber (List Float)) : List (Demand (Fault Float)) :=
  [⟨∃ l, piece = .ok l, fun f => ∃ why, piece = .error why ∧ f = why.fault⟩,
   ⟨∀ l, piece = .ok l → ∀ x ∈ l, x.isFinite = true, Fault.IsAbout .numeric⟩]

/-- What is demanded of extension data, once there is some if and only if there has to be: it has
the form that the kind asks for; piece by piece it holds finite numbers; and a shape is in range,
unless shapes are clamped. -/
def demands (clamp : Bool) (kind : Kind) (e : Extension Float) : List (Demand (Fault Float)) :=
  ⟨e.Suits kind, Fault.IsAbout .extension⟩ :: ((e.numbers kind).flatMap pieceDemands ++
    [⟨clamp = false → ∀ b, e.shape? = some (.ok b) → kind.Holds b.freedom,
      Fault.IsAbout .numeric⟩])

end Extension

namespace Spline

variable {clamp : Bool} {kind : Kind} {e : Extension Float}

theorem enforces_checkPresence (kind : Kind) (e : Extension Float) : Enforces (checkPresence kind e)
    [⟨e = .nothing ↔ kind.tag = .none, Fault.IsAbout .extension⟩] := by
  unfold checkPresence
  cases e with
  | nothing =>
    cases hk : kind.tag with
    | none => exact .one (fun _ => ⟨_, rfl⟩) fun hn => absurd (by simp) hn
    | _ => exact .one (fun h => nomatch h.1 rfl) fun _ => ⟨_, rfl, rfl⟩
  | _ =>
    cases hk : kind.tag with
    | none => exact .one (fun h => nomatch h.2 rfl) fun _ => ⟨_, rfl, rfl⟩
    | _ => exact .one (fun _ => ⟨_, rfl⟩) fun hn => absurd (by simp) hn

theorem enforces_checkTriple (side : Side) (r : Except NotNumber (Tcb Float)) :
    Enforces (checkTriple side r) (Extension.pieceDemands (r.map Tcb.toList)) := by
  cases r with
  | error why =>
    refine .cons (fun _ => ⟨why.fault, rfl, why, rfl, rfl⟩) fun hn => ?_
    obtain ⟨l, hl⟩ := hn
    cases hl
  | ok t =>
    refine .cons (fun hn => absurd ⟨_, rfl⟩ hn) fun _ => ?_
    have hall : (∀ l, (Except.ok t : Except NotNumber (Tcb Float)).map Tcb.toList = .ok l →
        ∀ x ∈ l, x.isFinite = true) ↔ t.isFinite = true := by
      rw [Tcb.isFinite, List.all_eq_true]
      constructor
      · exact fun h => h _ rfl
      · rintro h l ⟨⟩
        exact h
    refine .one (fun h => ⟨t, if_pos (hall.1 h)⟩) fun h => ⟨.tripleNotFinite side t, ?_, rfl⟩
    exact if_neg (mt hall.2 h)

theorem enforces_checkPair (e : Extension Float) : Enforces (checkPair e)
    (⟨e.pair?.isSome = true, Fault.IsAbout .extension⟩ ::
      (e.pair?.elim [] fun p => [p.1.map Tcb.toList, p.2.map Tcb.toList]).flatMap
        Extension.pieceDemands) := by
  unfold checkPair
  cases hp : e.pair? with
  | none => exact .cons (fun _ => ⟨_, rfl, rfl⟩) fun h => by cases h
  | some p =>
    refine .cons (fun hn => absurd rfl hn) fun _ => ?_
    refine (enforces_checkTriple .incoming p.1).bind fun incoming _ => ?_
    show Enforces _ (Extension.pieceDemands (p.2.map Tcb.toList) ++ [])
    exact (enforces_checkTriple .outgoing p.2).bind fun _ _ => .nil rfl

theorem enforces_checkShape (clamp : Bool) (kind : Kind) (b : Bend Float) :
    Enforces (checkShape clamp kind b)
      [⟨b.freedom.isFinite = true, Fault.IsAbout .numeric⟩,
       ⟨clamp = false → kind.Holds b.freedom, Fault.IsAbout .numeric⟩] := by
  unfold checkShape
  dsimp only
  refine .cons (fun hn => ?_) fun hf => ?_
  · rw [if_pos (by simpa [Scalar.isFinite] using hn)]
    exact ⟨_, rfl, rfl⟩
  · rw [if_neg (by simpa [Scalar.isFinite] using hf)]
    by_cases hin : kind.shapeLow ≤ b.freedom ∧ b.freedom ≤ Kind.shapeHigh
    · exact .one (fun _ => ⟨_, if_pos hin⟩) fun hn => absurd (fun _ => hin) hn
    · rw [if_neg hin]
      cases clamp with
      | true => exact .one (fun _ => ⟨_, rfl⟩) fun hn => absurd nofun hn
      | false => exact .one (fun h => absurd (h rfl) hin) fun _ => ⟨_, rfl, rfl⟩

/-- Extension data that is there if and only if it has to be is looked at by its form first. -/
theorem enforces_checkBend (clamp : Bool) (hp : e = .nothing ↔ kind.tag = .none) :
    Enforces (checkBend clamp kind e) (e.demands clamp kind) := by
  unfold checkBend Extension.demands Extension.Suits Extension.numbers
  cases hk : kind.tag with
  | none =>
    obtain rfl : e = .nothing := hp.2 hk
    refine .cons (fun hn => absurd rfl hn) fun _ => ?_
    exact .one (fun _ => ⟨_, rfl⟩) fun hn => absurd nofun hn
  | tcb =>
    refine ((enforces_checkPair e).map _).implied fun b hb => ?_
    obtain ⟨c, hc, -⟩ := map_eq_ok.1 hb
    obtain ⟨incoming, outgoing, hpair, -⟩ := checkPair_eq_ok hc
    intro _ b hs
    cases e <;> cases hs <;> cases hpair
  | globalShape | perPointShape =>
    cases hs : e.shape? with
    | none => exact .cons (fun _ => ⟨_, rfl, rfl⟩) fun h => by cases h
    | some r =>
      refine .cons (fun hn => absurd rfl hn) fun _ => ?_
      cases r with
      | error why =>
        refine .cons (fun _ => ⟨why.fault, rfl, why, rfl, rfl⟩) fun hn => ?_
        obtain ⟨l, hl⟩ := hn
        cases hl
      | ok b =>
        refine .cons (fun hn => absurd ⟨_, rfl⟩ hn) fun _ => ?_
        have h := enforces_checkShape clamp kind b
        simpa [Except.map] using h

/-! ## Control points -/

/-- What is demanded of a control point, in the order in which it is looked at. -/
def demands (settings : Settings) (s : Spline Float) (parameter value : Datum)
    (e : Extension Float) : List (Demand (Fault Float)) :=
  ⟨s.destroyed = false, Fault.IsAbout .released⟩ ::
  ⟨e = .nothing ↔ s.kind.tag = .none, Fault.IsAbout .extension⟩ ::
  ⟨∃ x, parameter.toFloat = .ok x ∧ x.isFinite = true, Fault.IsNoNumber parameter.IsHuge⟩ ::
  (value.demands settings.maxTerms ++
    ⟨s.terms ≠ 0 → value.parts.length = s.terms, Fault.IsAbout .dimension⟩ ::
    e.demands settings.clampShapes s.kind)

theorem enforces_checkAlive (s : Spline Float) :
    Enforces s.checkAlive [⟨s.destroyed = false, Fault.IsAbout .released⟩] := by
  refine .one (fun h => ⟨(), checkAlive_eq_ok.2 h⟩) fun h => ⟨.released s.kind, ?_, rfl⟩
  rw [checkAlive, if_pos (by simpa using h)]

theorem enforces_checkWidth (s : Spline Float) (v : List Float) : Enforces (s.checkWidth v)
    [⟨s.terms ≠ 0 → v.length = s.terms, Fault.IsAbout .dimension⟩] := by
  refine .one (fun h => ⟨(), checkWidth_eq_ok.2 h⟩) fun h => ⟨.widthDiffers s.terms v.length, ?_, rfl⟩
  rw [checkWidth, if_pos (by simpa using h)]

/-- **Acceptance.** Under a valid configuration, a control point is accepted if and only if it meets
all demands, and the first that it does not meet is reported. -/
theorem accepts {config : Config} {settings : Settings}
    (hv : (config.settings : Except (Fault Float) Settings) = .ok settings) (s : Spline Float)
    (parameter value : Datum) (e : Extension Float) :
    Enforces (s.insertData config parameter value e).answer
      (s.demands settings parameter value e) := by
  obtain ⟨⟨m, hm, hterms⟩, hclamp⟩ := entries_of_settings hv
  rw [insertData, answer_insert, hm, hclamp]
  unfold demands
  rw [hterms]
  refine (enforces_checkAlive s).bind fun _ _ => ?_
  refine (enforces_checkPresence s.kind e).bind fun _ hp => ?_
  refine parameter.enforces_parameter.bind fun p _ => ?_
  refine (value.enforces_vector m).bind fun v hval => ?_
  rw [← Datum.length_vector hval]
  refine (s.enforces_checkWidth v).bind fun _ _ => ?_
  have hpresence := (enforces_checkPresence s.kind e).accepted.1 ⟨_, hp⟩ _ (.head _)
  exact (enforces_checkBend settings.clampShapes hpresence).map _

/-- A general X-spline takes a shape that is out of range under the built-in configuration; that
there is none is told before anything about the parameter and the value. -/
theorem accepts_builtin :
    (∃ i, ((empty .generalX 0).insertData .builtin (.float 0.5) (.list [.bool true, .float 2])
      (.shape 1.5)).answer = .ok i) ∧
    ∃ f, ((empty .generalX 0).insertData .builtin (.str "x") .null .nothing).answer = .error f ∧
      f.IsAbout .extension := by
  have hvalue : Datum.toTable (.list [.bool true, .float 2]) = .ok ⟨[2], [1.0, 2]⟩ := rfl
  have hfinite : Float.isFinite 0.5 ∧ Float.isFinite 1.0 ∧ Float.isFinite 2 ∧ Float.isFinite 1.5 := by
    decide +kernel
  constructor
  · refine (accepts Config.settings_builtin (empty .generalX 0) (.float 0.5)
      (.list [.bool true, .float 2]) (.shape 1.5)).accepted.2 ?_
    simp [demands, Datum.demands, Extension.demands, Extension.Suits, Extension.numbers,
      Extension.pieceDemands, Extension.shape?, Except.map, Bend.freedom,
      Datum.IsFlat, Datum.parts, Datum.elements?, Datum.elementToFloat, Datum.toFloat, empty,
      terms, Store.contents, Store.empty, Kind.tag, Datum.isNumeric_of_toTable hvalue, hfinite]
  · exact (accepts Config.settings_builtin (empty .generalX 0) (.str "x") .null .nothing).tail rfl
      |>.head (by simp [empty, Kind.tag])

end Spline

end CurveKit
