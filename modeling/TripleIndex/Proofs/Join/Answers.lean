import TripleIndex.Proofs.Join.Candidates
import TripleIndex.Proofs.Join.Course
import TripleIndex.Proofs.Join.Texts

/-!
The loops of a plan and the answers of a join. A binding stands for the row of the documents that led to
it. The query that narrows a step keeps the documents that agree with that row, a document that gives
one variable two texts is passed over, and what is bound first is kept, so the loops give one binding
for each agreeing choice of documents.
-/

namespace TripleIndex

/-- A document with canonical texts in all three slots. -/
def Document.IsTriple (d : Document) : Prop :=
  ∀ slot : Slot, ∃ s, d.lookup slot.field = some (.text s) ∧ IsCanonical s

instance (d : Document) : Decidable d.IsTriple :=
  decidable_of_iff (∀ slot ∈ [Slot.subject, .predicate, .object],
      d.lookup slot.field = some (.text (slotText d slot)) ∧ IsCanonical (slotText d slot)) <| by
    constructor
    · exact fun h slot => ⟨_, h slot (by cases slot <;> simp)⟩
    · intro h slot _
      obtain ⟨s, hs, hcanonical⟩ := h slot
      have htext : slotText d slot = s := by rw [slotText, hs]
      rw [htext]
      exact ⟨hs, hcanonical⟩

/-- A binding has the terms of the texts of a row. -/
structure Binding.Stands (b : Binding) (r : Row) : Prop where
  get?_eq : ∀ name, b.get? name = r.term? name
  canonical : ∀ a ∈ r, IsCanonical a.2

section Bindings

variable {b : Binding} {r : Row} {name s : String} {t : Term}

theorem Row.term?_eq_some (hs : IsCanonical s) (h : r.lookup name = some s) :
    ∃ t, Term.ofForm s = .ok t ∧ r.term? name = some t := by
  obtain ⟨t, ht, -⟩ := hs
  refine ⟨t, ht, ?_⟩
  rw [term?, h, Option.bind_some, ht]
  rfl

theorem Row.term?_eq_none (h : r.lookup name = none) : r.term? name = none := by
  rw [term?, h, Option.bind_none]

theorem Binding.get?_bind_of_ne {other : String} (h : other ≠ name) (b : Binding) (t : Term) :
    (b.bind name t).get? other = b.get? other := by
  unfold bind
  split
  · rfl
  · have hnil : List.lookup other [(name, t)] = none := by simp [h]
    rw [get?, List.lookup_append, hnil, Option.or_none, get?]

theorem Binding.stands_nil : Binding.Stands [] [] := ⟨fun _ => rfl, by simp⟩

theorem Binding.Stands.bind (h : b.Stands r) (hs : IsCanonical s) (ht : Term.ofForm s = .ok t) :
    (b.bind name t).Stands (r ++ [(name, s)]) := by
  constructor
  · intro other
    have hlookup : (r ++ [(name, s)]).lookup other =
        (r.lookup other).or (if other = name then some s else none) := by
      rw [List.lookup_append]
      simp
    by_cases hother : other = name
    · subst hother
      rw [get?_bind_self, h.get?_eq]
      cases hr : r.lookup other with
      | none =>
        rw [Row.term?_eq_none hr, Row.term?, hlookup, hr, if_pos rfl, Option.none_or, Option.bind_some, ht]
        rfl
      | some s' =>
        obtain ⟨t', ht', hterm⟩ := Row.term?_eq_some (h.canonical _ (Table.mem_of_lookup hr)) hr
        rw [hterm, Row.term?, hlookup, hr, Option.some_or, Option.bind_some, ht']
        rfl
    · rw [get?_bind_of_ne hother, h.get?_eq, Row.term?, Row.term?, hlookup, if_neg hother, Option.or_none]
  · intro a ha
    rcases List.mem_append.1 ha with ha | ha
    · exact h.canonical a ha
    · rw [List.mem_singleton.1 ha]
      exact hs

end Bindings

/-! ## Documents that agree with a row -/

/-- A row has the texts of another one wherever they share a variable. -/
def Row.Follows (r row : Row) : Prop := ∀ a ∈ row, ∀ s, r.lookup a.1 = some s → a.2 = s

theorem Row.agrees_append {r row : Row} (hr : r.Agrees) :
    Row.Agrees (r ++ row) ↔ r.Follows row ∧ row.Agrees := by
  constructor
  · intro h
    refine ⟨fun a ha s hs => ?_, h.of_subset fun a ha => List.mem_append_right _ ha⟩
    exact h a (List.mem_append_right _ ha) (a.1, s) (List.mem_append_left _ (Table.mem_of_lookup hs)) rfl
  · rintro ⟨hfollows, hrow⟩ a ha b hb hab
    rcases List.mem_append.1 ha with ha | ha <;> rcases List.mem_append.1 hb with hb | hb
    · exact hr a ha b hb hab
    · exact (hfollows b hb a.2 (hab ▸ hr.lookup_eq_some_iff.2 ha)).symm
    · exact hfollows a ha b.2 (hab ▸ hr.lookup_eq_some_iff.2 hb)
    · exact hrow a ha b hb hab

section Slots

variable {b : Binding} {r : Row} {d : Document}

theorem slotText_eq {slot : Slot} {s : String} (h : d.lookup slot.field = some (.text s)) :
    slotText d slot = s := by
  rw [slotText, h]

theorem slotTerm_eq {slot : Slot} {s : String} (h : d.lookup slot.field = some (.text s)) :
    slotTerm d slot = Term.ofForm s := by
  rw [slotTerm, slotForm, h]
  rfl

theorem joinClauses_spec (h : b.Stands r) (slots : List (Slot × Term)) : ∃ f,
    joinClauses b slots = .ok f ∧ (∀ c ∈ f, ∃ slot : Slot, ∃ s, c = .term slot.field (.text s)) ∧
    ∀ schema : Schema, (∀ slot : Slot, schema.type? slot.field = some .text) → ∀ d : Document, d.IsTriple →
      (f.holds schema d = true ↔ r.Follows (slotRow d slots)) := by
  induction slots with
  | nil => exact ⟨[], rfl, by simp, fun _ _ _ _ => by simp [Filter.holds, Row.Follows, slotRow]⟩
  | cons entry slots ih =>
    obtain ⟨slot, t⟩ := entry
    obtain ⟨f, hf, hclauses, hholds⟩ := ih
    cases t with
    | var name =>
      cases hlookup : r.lookup name with
      | none =>
        have hget : b.get? name = none := by rw [h.get?_eq, Row.term?_eq_none hlookup]
        refine ⟨f, by rw [joinClauses, hget]; exact hf, hclauses, fun schema hschema d hd => ?_⟩
        rw [hholds schema hschema d hd]
        simp [Row.Follows, slotRow, hlookup]
      | some s =>
        have hcanonical := h.canonical _ (Table.mem_of_lookup hlookup)
        obtain ⟨t, ht, hterm⟩ := Row.term?_eq_some hcanonical hlookup
        have hget : b.get? name = some t := by rw [h.get?_eq, hterm]
        have hvalue : t.formValue = .ok (.text s) := by
          rw [Term.formValue, form_of_isCanonical hcanonical ht]
        refine ⟨.term slot.field (.text s) :: f, ?_, ?_, fun schema hschema d hd => ?_⟩
        · simp only [joinClauses, hget, hvalue, hf]
          rfl
        · exact List.forall_mem_cons.2 ⟨⟨slot, s, rfl⟩, hclauses⟩
        · obtain ⟨s', hs', -⟩ := hd slot
          have hconvert : schema.convert slot.field (.text s) = .ok (.text s) :=
            Schema.convert_eq_ok.2 ⟨.text, hschema slot, rfl⟩
          have hclause : (Clause.term slot.field (.text s)).holds schema d = true ↔ s' = s := by
            simp [Clause.holds, hs', hconvert, Scalar.same_text]
          rw [Filter.holds, List.all_cons, Bool.and_eq_true, hclause, ← Filter.holds,
            hholds schema hschema d hd]
          simp [Row.Follows, slotRow, hlookup, slotText_eq hs']
    | _ => exact ⟨f, hf, hclauses, hholds⟩

/-- The term that a document has given to a variable is the one of another text exactly if both texts
agree. -/
theorem same_seen_iff {seen : Binding} {row : Row} (hseen : seen.Stands row) (hrow : row.Agrees)
    {s : String} {t : Term} (hs : IsCanonical s) (ht : Term.ofForm s = .ok t) (name : String) :
    ((seen.get? name).getD t).same t = true ↔ Row.Agrees (row ++ [(name, s)]) := by
  have hsingle : Row.Agrees [(name, s)] := by simp [Row.Agrees]
  have hfollows : row.Follows [(name, s)] ↔ ∀ s', row.lookup name = some s' → s = s' := by
    simp [Row.Follows]
  rw [Row.agrees_append hrow, and_iff_left hsingle, hfollows, hseen.get?_eq]
  cases hlookup : row.lookup name with
  | none =>
    rw [Row.term?_eq_none hlookup, Option.getD_none, same_iff_of_isCanonical hs hs ht ht]
    simp
  | some s' =>
    have hs' := hseen.canonical _ (Table.mem_of_lookup hlookup)
    obtain ⟨t', ht', hterm⟩ := Row.term?_eq_some hs' hlookup
    rw [hterm, Option.getD_some, same_iff_of_isCanonical hs' hs ht' ht]
    simp [eq_comm]

/-- Binding the variables of slots adds the texts of the document to the row, if they agree. -/
theorem bindSlots_spec (hd : d.IsTriple) (slots : List (Slot × Term)) {seen : Binding} {row : Row}
    (hseen : seen.Stands row) (hb : b.Stands (r ++ row)) (hrow : row.Agrees) :
    if (row ++ slotRow d slots).Agrees then
      ∃ b', bindSlots d slots seen b = .ok (some b') ∧ b'.Stands (r ++ (row ++ slotRow d slots))
    else bindSlots d slots seen b = .ok none := by
  -- a variable that comes again must agree with `seen`, which has the texts of this document alone
  induction slots generalizing seen b row with
  | nil =>
    rw [slotRow, List.append_nil, if_pos hrow]
    exact ⟨b, rfl, hb⟩
  | cons entry slots ih =>
    obtain ⟨slot, t⟩ := entry
    cases t with
    | var name =>
      obtain ⟨s, hs, hcanonical⟩ := hd slot
      obtain ⟨t, ht, -⟩ := id hcanonical
      have hterm : slotTerm d slot = .ok t := (slotTerm_eq hs).trans ht
      have hassoc : row ++ slotRow d ((slot, .var name) :: slots) = row ++ [(name, s)] ++ slotRow d slots := by
        rw [slotRow, slotText_eq hs, List.append_assoc]
        rfl
      have hseen' : (seen.bind name t).Stands (row ++ [(name, s)]) := hseen.bind hcanonical ht
      have hb' : (b.bind name t).Stands (r ++ (row ++ [(name, s)])) := by
        rw [← List.append_assoc]
        exact hb.bind hcanonical ht
      have hsame := same_seen_iff hseen hrow hcanonical ht name
      rw [hassoc]
      by_cases hagrees : Row.Agrees (row ++ [(name, s)])
      · have hstep : bindSlots d ((slot, .var name) :: slots) seen b =
            bindSlots d slots (seen.bind name t) (b.bind name t) := by
          rw [bindSlots, hterm, ok_bind, if_pos (hsame.2 hagrees)]
        rw [hstep]
        exact ih hseen' hb' hagrees
      · have hstep : bindSlots d ((slot, .var name) :: slots) seen b = .ok none := by
          rw [bindSlots, hterm, ok_bind, if_neg fun h => hagrees (hsame.1 h)]
          rfl
        rw [if_neg fun h => hagrees (h.of_subset fun a ha => List.mem_append_left _ ha)]
        exact hstep
    | _ => exact ih hseen hb hrow

end Slots

/-! ## Loops -/

theorem Course.each_perm {α β : Type} {f : α → Course} {g : Binding → β} {results : α → List β} {as : List α}
    (h : ∀ a ∈ as, (f a).fault = none ∧ ((f a).answers.map g).Perm (results a)) :
    (each f as).fault = none ∧ ((each f as).answers.map g).Perm (as.flatMap results) := by
  induction as with
  | nil => exact ⟨rfl, List.Perm.refl _⟩
  | cons a as ih =>
    obtain ⟨hfault, hperm⟩ := h a List.mem_cons_self
    obtain ⟨hlater, hperm'⟩ := ih fun b hb => h b (List.mem_cons_of_mem _ hb)
    rw [each, andThen_eq hfault, List.flatMap_cons, List.map_append]
    exact ⟨hlater, hperm.append hperm'⟩

theorem flatMap_filter_of_nil {α β : Type} {test : α → Bool} {f : α → List β} {as : List α}
    (h : ∀ a ∈ as, test a = false → f a = []) : (as.filter test).flatMap f = as.flatMap f := by
  induction as with
  | nil => rfl
  | cons a as ih =>
    have ih := ih fun b hb => h b (List.mem_cons_of_mem _ hb)
    cases htest : test a with
    | true => rw [List.filter_cons_of_pos htest, List.flatMap_cons, List.flatMap_cons, ih]
    | false =>
      rw [List.filter_cons_of_neg (by simp [htest]), List.flatMap_cons, h a List.mem_cons_self htest, ih,
        List.nil_append]

namespace Index

variable {ix : Index}

theorem mem_documentsOf {ids : IdSet} {d : Document} :
    d ∈ ix.documentsOf ids ↔ ∃ q ∈ ids, ix.at? q = some d := List.mem_filterMap

theorem flatMap_documentsOf {β : Type} (f : Document → List β) (ids : List DocId) :
    ((places ids).filterMap ix.at?).flatMap f =
      ids.flatMap fun id => ((ix.at? id.place).map f).getD [] := by
  induction ids with
  | nil => rfl
  | cons id ids ih =>
    rw [TripleIndex.places, List.map_cons, List.filterMap_cons, List.flatMap_cons, ← ih]
    cases ix.at? id.place with
    | none => rfl
    | some d => rfl

theorem documentsOf_eq_filter {ids ids' : IdSet} {test : Document → Bool}
    (h : ∀ q, q ∈ ids' ↔ q ∈ ids ∧ ∃ d, ix.at? q = some d ∧ test d = true) :
    ix.documentsOf ids' = (ix.documentsOf ids).filter test := by
  have hascending : Ascending (ids.toList.filter fun id => (ix.at? id.place).any test) :=
    ids.ascending.sublist List.filter_sublist
  have hplaces : TripleIndex.places ids'.toList =
      TripleIndex.places (ids.toList.filter fun id => (ix.at? id.place).any test) := by
    refine ids'.ascending.places_ext hascending fun q => ?_
    rw [IdSet.mem_toList, h]
    simp only [TripleIndex.places, List.mem_map, List.mem_filter, Option.any_eq_true]
    constructor
    · rintro ⟨hq, d, hd, htest⟩
      obtain ⟨id, hid, rfl⟩ := List.mem_map.1 hq
      exact ⟨id, ⟨hid, d, hd, htest⟩, rfl⟩
    · rintro ⟨id, ⟨hid, d, hd, htest⟩, rfl⟩
      exact ⟨List.mem_map_of_mem hid, d, hd, htest⟩
  rw [documentsOf, documentsOf, hplaces]
  induction ids.toList with
  | nil => rfl
  | cons id rest ih =>
    simp only [TripleIndex.places, List.map_cons, List.filterMap_cons] at ih ⊢
    cases hat : ix.at? id.place with
    | none => simpa [hat] using ih
    | some d => cases htest : test d <;> simp [hat, htest, ih]

end Index

def Candidates.rows (ix : Index) (c : Candidates) : List Row :=
  (ix.documentsOf c.ids).map fun d => (c.pattern.map (·.row d)).getD []

section Loops

variable {ix : Index} {schema : Schema}

theorem narrow_spec (hmaintained : ix.Maintained schema (· ≠ .double))
    (htext : ∀ slot : Slot, schema.type? slot.field = some .text) {c : Candidates}
    (hids : ∀ q ∈ c.ids, ∃ d, ix.at? q = some d) {f : Filter}
    (hf : ∀ clause ∈ f, ∃ slot : Slot, ∃ s, clause = .term slot.field (.text s)) :
    ∃ ids, c.narrow (.opened ix) f = .ok ids ∧
      ∀ q, q ∈ ids ↔ q ∈ c.ids ∧ ∃ d, ix.at? q = some d ∧ f.holds schema d = true := by
  have hscans : ∀ clause ∈ f, ix.Scans clause := by
    intro clause hclause
    obtain ⟨slot, s, rfl⟩ := hf clause hclause
    exact (hmaintained.inStep (htext slot) (by simp)).scans trivial
  have hsuits : f.Suits ix.schema := by
    intro clause hclause
    obtain ⟨slot, s, rfl⟩ := hf clause hclause
    have htype : ix.schema.type? slot.field = some .text := hmaintained.schema_eq ▸ htext slot
    exact ⟨Option.isSome_iff_exists.2 ⟨_, htype⟩, .text s, Schema.convert_eq_ok.2 ⟨.text, htype, rfl⟩⟩
  cases f with
  | nil =>
    refine ⟨c.ids, rfl, fun q => ⟨fun hq => ⟨hq, ?_⟩, fun hq => hq.1⟩⟩
    obtain ⟨d, hd⟩ := hids q hq
    exact ⟨d, hd, rfl⟩
  | cons clause f =>
    obtain ⟨ids, heval⟩ := Index.exists_evaluate hsuits
      (fun field hfield => by rw [hmaintained.sound.isSome_postings?]; exact hfield) (some c.ids)
    refine ⟨ids, heval, fun q => ?_⟩
    rw [Index.mem_evaluate_within hids hscans heval, hmaintained.schema_eq]

theorem read_eq_ok {id : DocId} {d : Document} (h : ix.at? id.place = some d) :
    (Reader.opened ix).read id = .ok d := by
  obtain ⟨filed, hfiled, rfl⟩ := Option.map_eq_some_iff.1 (Index.at?_place ix id ▸ h)
  simp only [Reader.read, Reader.snapshot, ok_bind, hfiled]
  rfl

/-- What comes of a document whose texts follow the row. Unless it disagrees with itself, it is what `inner`
answers for the row with the texts of the document. -/
theorem meets_spec {c : Candidates} {p : Pattern} {id : DocId} {d : Document} {b : Binding} {r : Row}
    {inner : Binding → Course} {choices : List (List Row)} (hp : c.pattern = some p)
    (hat : ix.at? id.place = some d) (hd : d.IsTriple) (hb : b.Stands r) (hr : r.Agrees)
    (hfollows : r.Follows (p.row d))
    (hinner : ∀ {b : Binding} {r : Row}, b.Stands r → r.Agrees →
      (inner b).fault = none ∧ ((inner b).answers.map Binding.get?).Perm (answersAfter r choices)) :
    (c.meets (.opened ix) b inner id).fault = none ∧
      ((c.meets (.opened ix) b inner id).answers.map Binding.get?).Perm
        (answersAfter (r ++ p.row d) choices) := by
  have hrequire : c.requirePattern = .ok p := by rw [Candidates.requirePattern, hp]
  have hextend : c.extend (.opened ix) id b = bindDocument p d b := by
    rw [Candidates.extend, read_eq_ok hat, ok_bind, hrequire, ok_bind]
  have hbind := bindSlots_spec hd p.slots Binding.stands_nil (by rwa [List.append_nil])
    (show Row.Agrees [] by simp [Row.Agrees])
  rw [List.nil_append] at hbind
  rw [Candidates.meets, hextend, bindDocument]
  split at hbind
  · next hrow =>
    obtain ⟨b', hb', hstands⟩ := hbind
    rw [hb']
    exact hinner hstands ((Row.agrees_append hr).2 ⟨hfollows, hrow⟩)
  · next hrow =>
    rw [hbind]
    refine ⟨rfl, List.Perm.of_eq ?_⟩
    exact (answersAfter_eq_nil (fun h => hrow ((Row.agrees_append hr).1 h).2) _).symm

theorem loops_cons {r : Reader} {c : Candidates} {p : Pattern} {steps : List Candidates} {b : Binding} {query : Filter}
    {ids : IdSet} (hp : c.pattern = some p) (hquery : joinFilter p b = .ok query)
    (hnarrow : c.narrow r query = .ok ids) :
    loops r (c :: steps) b = (Course.spent 0 (if query.isEmpty then 0 else 1)).andThen
      (c.loop r b (loops r steps) ids.toList) := by
  have hjoin : c.requirePattern.bind (joinFilter · b) = .ok query := by
    rw [Candidates.requirePattern, hp]
    exact hquery
  simp only [loops, Candidates.refine, hjoin, hnarrow]

/-- The loops of steps give one binding for each agreeing choice of rows. -/
theorem loops_spec (hmaintained : ix.Maintained schema (· ≠ .double))
    (htext : ∀ slot : Slot, schema.type? slot.field = some .text)
    (htriples : ∀ q d, ix.at? q = some d → d.IsTriple) {steps : List Candidates}
    (hsteps : ∀ c ∈ steps, c.pattern.isSome ∧ ∀ q ∈ c.ids, ∃ d, ix.at? q = some d)
    {b : Binding} {r : Row} (hb : b.Stands r) (hr : r.Agrees) :
    (loops (.opened ix) steps b).fault = none ∧
      ((loops (.opened ix) steps b).answers.map Binding.get?).Perm
        (answersAfter r (steps.map (Candidates.rows ix))) := by
  -- the row is what is bound so far; the loops inside go on with the texts of one more document
  induction steps generalizing b r with
  | nil =>
    have hget : b.get? = r.term? := funext hb.get?_eq
    refine ⟨rfl, List.Perm.of_eq ?_⟩
    simp [loops, Course.answer, answersAfter, hr, hget]
  | cons c steps ih =>
    obtain ⟨hpattern, hids⟩ := hsteps c List.mem_cons_self
    obtain ⟨p, hp⟩ := Option.isSome_iff_exists.1 hpattern
    have ih := fun {b r} hb hr => @ih (fun c hc => hsteps c (List.mem_cons_of_mem _ hc)) b r hb hr
    obtain ⟨query, hquery, hclauses, hholds⟩ := joinClauses_spec hb p.slots
    obtain ⟨ids, hnarrow, hmem⟩ := narrow_spec hmaintained htext hids hclauses
    have hholds := hholds schema htext
    have hrows : c.rows ix = (ix.documentsOf c.ids).map p.row := by
      rw [Candidates.rows, hp]
      rfl
    let after := fun d : Document => answersAfter (r ++ p.row d) (steps.map (Candidates.rows ix))
    have hvisits : ∀ id ∈ ids.toList,
        ((Course.spent 1 0).andThen (c.meets (.opened ix) b (loops (.opened ix) steps) id)).fault = none ∧
        (((Course.spent 1 0).andThen (c.meets (.opened ix) b (loops (.opened ix) steps) id)).answers.map
          Binding.get?).Perm (((ix.at? id.place).map after).getD []) := by
      intro id hid
      obtain ⟨-, d, hat, hd⟩ := (hmem id.place).1 (List.mem_map_of_mem hid)
      have htriple := htriples id.place d hat
      rw [Course.andThen_eq rfl, hat]
      exact meets_spec hp hat htriple hb hr ((hholds d htriple).1 hd) ih
    obtain ⟨hfault, hperm⟩ := Course.each_perm hvisits
    rw [loops_cons hp hquery hnarrow, Course.andThen_eq rfl]
    refine ⟨hfault, hperm.trans ?_⟩
    rw [List.map_cons, hrows]
    refine List.Perm.trans (List.Perm.of_eq ?_) (answersAfter_cons r _ _).symm
    rw [List.flatMap_map, ← Index.flatMap_documentsOf after, ← Index.documentsOf,
      Index.documentsOf_eq_filter hmem]
    -- a document that is not asked for disagrees with the row, so it has no agreeing choices either
    refine flatMap_filter_of_nil fun d hd hnot => answersAfter_eq_nil (fun h => ?_) _
    obtain ⟨q, -, hq⟩ := Index.mem_documentsOf.1 hd
    rw [(hholds d (htriples q d hq)).2 ((Row.agrees_append hr).1 h).1] at hnot
    cases hnot

end Loops

end TripleIndex
