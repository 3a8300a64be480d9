import TripleIndex.Proofs.Tracking

/-!
Answers read off the documents one by one. Where the posting lists are in step with the documents, a
query selects what such a scan finds, whichever of its clauses comes first and wherever the evaluation
ends early because nothing is left.
-/

namespace TripleIndex

namespace Scalar

/-- The order of comparable values, with equality. -/
def atMost (a b : Scalar) : Bool := a.lt b || a.same b

variable {v : Scalar}

theorem same_of_isNan (hv : v.isNan = true) (k : Scalar) : k.same v = false := by
  cases v with
  | float x =>
    cases x with
    | nan p => cases k with
      | float y => cases y <;> rfl
      | _ => rfl
    | _ => cases hv
  | _ => cases hv

theorem lt_of_isNan (hv : v.isNan = true) (k : Scalar) : k.lt v = false ∧ v.lt k = false := by
  cases v with
  | float x =>
    cases x with
    | nan p => cases k with
      | float y => cases y <;> exact ⟨rfl, rfl⟩
      | _ => exact ⟨rfl, rfl⟩
    | _ => cases hv
  | _ => cases hv

end Scalar

theorem FieldType.Admits.isNan {t : FieldType} {v : Scalar} (h : t.Admits v) : v.isNan = false := by
  cases h with
  | double hx => exact hx
  | _ => rfl

theorem FieldType.atMost_iff {t : FieldType} {a b : Scalar} (ha : t.Admits a) (hb : t.Admits b) :
    a.atMost b = true ↔ a.sortKey ≤ b.sortKey := by
  rw [Scalar.atMost, Bool.or_eq_true, t.lt_iff ha hb, t.same_iff ha hb, le_iff_lt_or_eq]

theorem Schema.convert_eq_ok {schema : Schema} {name : String} {v w : Scalar} :
    schema.convert name v = .ok w ↔ ∃ t, schema.type? name = some t ∧ t.convert v = .ok w := by
  unfold convert
  cases schema.type? name with
  | none => simp
  | some t =>
    dsimp only
    cases h : t.convert v with
    | ok converted => simp [h]
    | error cause =>
      refine iff_of_false (fun heq => ?_) (by simp [h])
      dsimp only at heq
      split at heq <;> cases heq

theorem mapM_eq_ok {α β ε : Type} {f : α → Except ε β} {x : Option α} {y : Option β}
    (h : x.mapM f = .ok y) : ∀ b ∈ y, ∃ a ∈ x, f a = .ok b := by
  cases x with
  | none =>
    cases h
    simp
  | some a =>
    obtain ⟨b, hb, rfl⟩ := map_eq_ok.1 (show (f a).map some = .ok y from h)
    simpa using hb

/-! ## Scans -/

namespace Clause

/-- A clause whose values are proper ones. -/
def IsProper : Clause → Prop
  | term _ value => value.IsProper
  | range _ lower upper => (∀ b ∈ lower, b.IsProper) ∧ ∀ b ∈ upper, b.IsProper

/-- Whether a document holds a clause: it has the field, and the value there equals the one asked for or
lies between the bounds. A bound that is no number bounds nothing. -/
def holds (schema : Schema) (d : Document) : Clause → Bool
  | term field value =>
    match d.lookup field, schema.convert field value with
    | some w, .ok v => w.same v
    | _, _ => false
  | range field lower upper =>
    match d.lookup field, lower.mapM (schema.convert field), upper.mapM (schema.convert field) with
    | some w, .ok lower, .ok upper =>
      lower.all (fun b => b.isNan || b.atMost w) && upper.all fun b => b.isNan || w.atMost b
    | _, _, _ => false

/-- The field of the clause is one of the schema and its values can be converted. -/
def Suits (schema : Schema) (c : Clause) : Prop :=
  (schema.type? c.field).isSome ∧
    match c with
    | term field value => ∃ v, schema.convert field value = .ok v
    | range field lower upper =>
      (∃ l, lower.mapM (schema.convert field) = .ok l) ∧ ∃ u, upper.mapM (schema.convert field) = .ok u

end Clause

namespace Filter

def IsProper (f : Filter) : Prop := ∀ c ∈ f, c.IsProper

def holds (schema : Schema) (f : Filter) (d : Document) : Bool := f.all (Clause.holds schema d)

def Suits (schema : Schema) (f : Filter) : Prop := ∀ c ∈ f, c.Suits schema

end Filter

/-! ## Clauses -/

theorem FieldType.admits_or_isNan {t : FieldType} {v w : Scalar} (hv : v.IsProper)
    (h : t.convert v = .ok w) : t.Admits w ∨ w.isNan = true := by
  cases hw : w.isNan with
  | false => exact .inl (t.admits_of_convert hv h hw)
  | true => exact .inr rfl

namespace Index

variable {ix : Index} {c : Clause} {t : FieldType}

theorem value?_eq_some {field : String} {q : Place} {w : Scalar} :
    ix.value? field q = some w ↔ ∃ d, ix.at? q = some d ∧ d.lookup field = some w :=
  Option.bind_eq_some_iff

/-- What a converted bound says about a value of the field: nothing, or that its rank is on one side. -/
theorem bound_iff {a b w : Scalar} (ha : a.IsProper) (hb : t.convert a = .ok b) (hw : t.Admits w) :
    ((b.isNan || b.atMost w) = true ↔ (t.Admits b → b.sortKey ≤ w.sortKey)) ∧
      ((b.isNan || w.atMost b) = true ↔ (t.Admits b → w.sortKey ≤ b.sortKey)) := by
  rcases t.admits_or_isNan ha hb with hadmits | hnan
  · simp [hadmits, hadmits.isNan, t.atMost_iff hadmits hw, t.atMost_iff hw hadmits]
  · have hnot : ¬ t.Admits b := fun hadmits => by simp [hadmits.isNan] at hnan
    simp [hnan, hnot]

theorem mem_select_term {field : String} {value : Scalar} (h : ix.Tracks field t)
    (htype : ix.schema.type? field = some t) (hvalue : value.IsProper) {s : IdSet}
    (hs : ix.select (.term field value) = .ok s) (q : Place) :
    q ∈ s ↔ ∃ d, ix.at? q = some d ∧ (Clause.term field value).holds ix.schema d = true := by
  obtain ⟨p, hfound, hp⟩ := h
  have hfield : (Clause.term field value).field = field := rfl
  rw [select, hfield, hfound] at hs
  obtain ⟨v, hv, hs⟩ := bind_eq_ok.1 hs
  cases hs
  obtain ⟨t', ht', hconvert⟩ := Schema.convert_eq_ok.1 hv
  cases htype.symm.trans ht'
  have hholds : ∀ d, (Clause.term field value).holds ix.schema d = true ↔
      ∃ w, d.lookup field = some w ∧ w.same v = true := by
    intro d
    simp only [Clause.holds, hv]
    cases d.lookup field <;> simp
  simp only [hholds]
  rcases t.admits_or_isNan hvalue hconvert with hadmits | hnan
  · rw [hp.mem_lookup hadmits]
    simp only [value?_eq_some]
    constructor
    · rintro ⟨w, ⟨d, hd, hw⟩, hsame⟩
      exact ⟨d, hd, w, hw, hsame⟩
    · rintro ⟨d, hd, w, hw, hsame⟩
      exact ⟨w, ⟨d, hd, hw⟩, hsame⟩
  · rw [Postings.lookup_eq_empty fun key _ => Scalar.same_of_isNan hnan key]
    refine iff_of_false (IdSet.not_mem_empty q) ?_
    rintro ⟨d, -, w, -, hsame⟩
    rw [Scalar.same_of_isNan hnan] at hsame
    cases hsame

/-- The bounds of a side that converts come from values of the schema's type. -/
theorem exists_converts {field : String} {side bounds : Option Scalar} (htype : ix.schema.type? field = some t)
    (hside : side.mapM (ix.schema.convert field) = .ok bounds) (hproper : ∀ b ∈ side, b.IsProper) :
    ∀ b ∈ bounds, ∃ a : Scalar, a.IsProper ∧ t.convert a = .ok b := by
  intro b hb
  obtain ⟨a, ha, hab⟩ := mapM_eq_ok hside b hb
  obtain ⟨t', ht', hconvert⟩ := Schema.convert_eq_ok.1 hab
  cases htype.symm.trans ht'
  exact ⟨a, hproper a ha, hconvert⟩

theorem holds_range_iff {field : String} {lower upper l u : Option Scalar} {schema : Schema}
    (hl : lower.mapM (schema.convert field) = .ok l) (hu : upper.mapM (schema.convert field) = .ok u) (d : Document) :
    (Clause.range field lower upper).holds schema d = true ↔ ∃ w, d.lookup field = some w ∧
      (∀ b ∈ l, (b.isNan || b.atMost w) = true) ∧ ∀ b ∈ u, (b.isNan || w.atMost b) = true := by
  simp only [Clause.holds, hl, hu]
  cases d.lookup field <;> simp [Option.all_eq_true]

theorem mem_select_range {field : String} {lower upper : Option Scalar} (h : ix.Tracks field t)
    (htype : ix.schema.type? field = some t) (hlower : ∀ b ∈ lower, b.IsProper)
    (hupper : ∀ b ∈ upper, b.IsProper) {s : IdSet} (hs : ix.select (.range field lower upper) = .ok s)
    (q : Place) :
    q ∈ s ↔ ∃ d, ix.at? q = some d ∧ (Clause.range field lower upper).holds ix.schema d = true := by
  obtain ⟨p, hfound, hp⟩ := h
  have hfield : (Clause.range field lower upper).field = field := rfl
  rw [select, hfield, hfound] at hs
  obtain ⟨l, hl, hs⟩ := bind_eq_ok.1 hs
  obtain ⟨u, hu, hs⟩ := bind_eq_ok.1 hs
  cases hs
  have hl' := exists_converts htype hl hlower
  have hu' := exists_converts htype hu hupper
  have hbounds : ∀ {w : Scalar}, t.Admits w →
      ((∀ b ∈ l, (b.isNan || b.atMost w) = true) ↔ ∀ b ∈ l, t.Admits b → b.sortKey ≤ w.sortKey) ∧
        ((∀ b ∈ u, (b.isNan || w.atMost b) = true) ↔ ∀ b ∈ u, t.Admits b → w.sortKey ≤ b.sortKey) := by
    intro w hw
    refine ⟨forall₂_congr fun b hb => ?_, forall₂_congr fun b hb => ?_⟩
    · obtain ⟨a, ha, hab⟩ := hl' b hb
      exact (bound_iff ha hab hw).1
    · obtain ⟨a, ha, hab⟩ := hu' b hb
      exact (bound_iff ha hab hw).2
  rw [hp.lawful.mem_range (o := t.order)]
  · simp only [hp.relates, holds_range_iff hl hu]
    constructor
    · rintro ⟨r, ⟨w, hw, rfl⟩, hlow, hupp⟩
      obtain ⟨d, hd, hlookup⟩ := value?_eq_some.1 hw
      have hbounds := hbounds (hp.admits q w hw)
      exact ⟨d, hd, w, hlookup, hbounds.1.2 hlow, hbounds.2.2 hupp⟩
    · rintro ⟨d, hd, w, hlookup, hlow, hupp⟩
      have hw := value?_eq_some.2 ⟨d, hd, hlookup⟩
      have hbounds := hbounds (hp.admits q w hw)
      exact ⟨w.sortKey, ⟨w, hw, rfl⟩, hbounds.1.1 hlow, hbounds.2.1 hupp⟩
  · intro b hb
    obtain ⟨a, ha, hab⟩ := hl' b hb
    exact (t.admits_or_isNan ha hab).imp_right fun hnan key => (Scalar.lt_of_isNan hnan key).1
  · intro b hb
    obtain ⟨a, ha, hab⟩ := hu' b hb
    exact (t.admits_or_isNan ha hab).imp_right fun hnan key => (Scalar.lt_of_isNan hnan key).2

/-- The field is one of the schema and its posting list is in step with the documents. -/
def InStep (ix : Index) (field : String) : Prop :=
  ∃ t, ix.schema.type? field = some t ∧ ix.Tracks field t

/-- What a clause selects are the documents that hold it. -/
def Scans (ix : Index) (c : Clause) : Prop := ∀ s, ix.select c = .ok s → ∀ q, q ∈ s ↔
  ∃ d, ix.at? q = some d ∧ c.holds ix.schema d = true

theorem InStep.scans (h : ix.InStep c.field) (hc : c.IsProper) : ix.Scans c := by
  obtain ⟨t, htype, htracks⟩ := h
  intro s hs q
  cases c with
  | term field value => exact mem_select_term htracks htype hc hs q
  | range field lower upper => exact mem_select_range htracks htype hc.1 hc.2 hs q

/-! ## Queries -/

/-- Where a selection has not begun, every document is in it. -/
def Selected (ix : Index) (selected : Option IdSet) (q : Place) : Prop :=
  match selected with
  | none => ∃ d, ix.at? q = some d
  | some s => q ∈ s

theorem selected_inter (selected : Option IdSet) (matching : IdSet)
    (hmatching : ∀ q ∈ matching, ∃ d, ix.at? q = some d) (q : Place) :
    ix.Selected (some (match selected with
      | none => matching
      | some s => s.inter matching)) q ↔ ix.Selected selected q ∧ q ∈ matching := by
  cases selected with
  | none => exact ⟨fun hq => ⟨hmatching q hq, hq⟩, fun hq => hq.2⟩
  | some s => exact IdSet.mem_inter q s matching

/-- Narrowing leaves the documents of the selection that hold the clauses. -/
theorem selected_narrow {f : Filter} {selected result : Option IdSet}
    (hselected : ∀ q, ix.Selected selected q → ∃ d, ix.at? q = some d) (hscans : ∀ c ∈ f, ix.Scans c)
    (h : ix.narrow f selected = .ok result) (q : Place) : ix.Selected result q ↔
      ix.Selected selected q ∧ ∃ d, ix.at? q = some d ∧ f.holds ix.schema d = true := by
  -- the clauses are asked one after the other, each of what those before it have left
  induction f generalizing selected with
  | nil =>
    cases h
    simp only [Filter.holds, List.all_nil, and_true]
    exact ⟨fun hq => ⟨hq, hselected q hq⟩, fun hq => hq.1⟩
  | cons c cs ih =>
    rw [narrow] at h
    split at h
    · next hempty =>
      -- nothing is left, and the clauses that are not asked cannot add to it
      cases h
      subst hempty
      have hnot : ¬ ix.Selected (some .empty) q := IdSet.not_mem_empty q
      exact iff_of_false hnot fun hq => hnot hq.1
    · obtain ⟨matching, hmatching, h⟩ := bind_eq_ok.1 h
      have hmem := hscans c List.mem_cons_self matching hmatching
      have hstored : ∀ q ∈ matching, ∃ d, ix.at? q = some d := fun q hq =>
        let ⟨d, hd, _⟩ := (hmem q).1 hq
        ⟨d, hd⟩
      have hstep := selected_inter selected matching hstored
      rw [ih (fun q hq => hselected q ((hstep q).1 hq).1) (fun c hc => hscans c (List.mem_cons_of_mem _ hc)) h,
        hstep, hmem]
      constructor
      · rintro ⟨⟨hq, d, hd, hc⟩, d', hd', hcs⟩
        cases hd.symm.trans hd'
        exact ⟨hq, d, hd, by rw [Filter.holds, List.all_cons, hc]; exact hcs⟩
      · rintro ⟨hq, d, hd, hall⟩
        rw [Filter.holds, List.all_cons, Bool.and_eq_true] at hall
        exact ⟨⟨hq, d, hd, hall.1⟩, d, hd, hall.2⟩

theorem mem_evaluate {f : Filter} {result : IdSet} (hids : ∀ q, q ∈ ix.ids ↔ ∃ d, ix.at? q = some d)
    (hscans : ∀ c ∈ f, ix.Scans c) (h : ix.evaluate f none = .ok result) (q : Place) :
    q ∈ result ↔ ∃ d, ix.at? q = some d ∧ f.holds ix.schema d = true := by
  obtain ⟨selected, hselected, h⟩ := bind_eq_ok.1 h
  have hall : ∀ q, ix.Selected none q → ∃ d, ix.at? q = some d := fun q hq => hq
  have hnarrow := selected_narrow hall hscans hselected q
  have hresult : q ∈ result ↔ ix.Selected selected q := by
    cases selected with
    | none => cases h; exact hids q
    | some s => cases h; exact Iff.rfl
  rw [hresult, hnarrow]
  exact ⟨fun hq => hq.2, fun hq => ⟨let ⟨d, hd, _⟩ := hq; ⟨d, hd⟩, hq⟩⟩

theorem mem_evaluate_within {f : Filter} {within result : IdSet}
    (hwithin : ∀ q ∈ within, ∃ d, ix.at? q = some d) (hscans : ∀ c ∈ f, ix.Scans c)
    (h : ix.evaluate f (some within) = .ok result) (q : Place) :
    q ∈ result ↔ q ∈ within ∧ ∃ d, ix.at? q = some d ∧ f.holds ix.schema d = true := by
  obtain ⟨selected, hselected, h⟩ := bind_eq_ok.1 h
  have hall : ∀ q, ix.Selected none q → ∃ d, ix.at? q = some d := fun q hq => hq
  have hnarrow := selected_narrow hall hscans hselected q
  have hresult : q ∈ result ↔ q ∈ within ∧ ix.Selected selected q := by
    cases selected with
    | none => cases h; exact ⟨fun hq => ⟨hq, hwithin q hq⟩, fun hq => hq.1⟩
    | some s =>
      cases h
      exact (IdSet.mem_inter q s within).trans and_comm
  rw [hresult, hnarrow]
  exact ⟨fun hq => ⟨hq.1, hq.2.2⟩, fun hq => ⟨hq.1, hwithin q hq.1, hq.2⟩⟩

theorem exists_evaluate {f : Filter} (hf : f.Suits ix.schema)
    (hpostings : ∀ field, (ix.schema.type? field).isSome → (ix.postings? field).isSome)
    (within : Option IdSet) : ∃ result, ix.evaluate f within = .ok result := by
  have hselect : ∀ c ∈ f, ∃ s, ix.select c = .ok s := by
    intro c hc
    obtain ⟨htype, hconvert⟩ := hf c hc
    obtain ⟨p, hp⟩ := Option.isSome_iff_exists.1 (hpostings _ htype)
    rw [select, hp]
    cases c with
    | term field value =>
      obtain ⟨v, hv⟩ := hconvert
      exact ⟨_, bind_eq_ok.2 ⟨v, hv, rfl⟩⟩
    | range field lower upper =>
      obtain ⟨⟨l, hl⟩, u, hu⟩ := hconvert
      exact ⟨_, bind_eq_ok.2 ⟨l, hl, bind_eq_ok.2 ⟨u, hu, rfl⟩⟩⟩
  have hnarrow : ∀ selected, ∃ result, ix.narrow f selected = .ok result := by
    clear hf
    induction f with
    | nil => exact fun selected => ⟨selected, rfl⟩
    | cons c cs ih =>
      intro selected
      rw [narrow]
      split
      · exact ⟨selected, rfl⟩
      · obtain ⟨matching, hmatching⟩ := hselect c List.mem_cons_self
        obtain ⟨result, hresult⟩ := ih (fun c hc => hselect c (List.mem_cons_of_mem _ hc)) _
        exact ⟨result, bind_eq_ok.2 ⟨matching, hmatching, hresult⟩⟩
  obtain ⟨selected, hselected⟩ := hnarrow none
  exact ⟨_, bind_eq_ok.2 ⟨selected, hselected, rfl⟩⟩

end Index

end TripleIndex
