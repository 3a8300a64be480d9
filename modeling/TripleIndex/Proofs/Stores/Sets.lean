import Mathlib.Data.Set.Insert
import TripleIndex.Proofs.Stores.Discoveries

/-!
Stores as sets of triples. A store that triples have been added to one by one holds the documents of their set: the
order of the additions and their repetitions make no difference, since of two additions with one identifier the later
one writes the document that the earlier one has written. This takes that triples with the same forms have the same
document, which fails where the form leaves out white space that a field of the document keeps. Stores with the same
documents then give the same answers.
-/

namespace TripleIndex

/-! ## Documents with the same forms -/

/-- The datatype of the literal leaves out none of its white space. -/
def Literal.KeepsBlanks (l : Literal) : Prop := normalizeLexical l.datatype? l.lexical.toList = l.lexical.toList

instance (l : Literal) : Decidable l.KeepsBlanks := inferInstanceAs (Decidable (_ = _))

/-- The object of the triple, if it is a literal, is one as it can be made and keeps its white space. -/
def Term.IsExact (t : Term) : Prop := ∀ l, t = .literal l → l.IsMade ∧ l.KeepsBlanks

section Documents

variable {a b : Literal} {t u : Term} {triple other : Pattern} {g h : Term} {d e fields fields' : Document}

theorem Literal.kept_eq {form : String} (ha : a.IsMade ∧ a.KeepsBlanks) (hb : b.IsMade ∧ b.KeepsBlanks)
    (hspelled : a.IsSpelled) (hspelled' : b.IsSpelled) (hform : a.form = .ok form) (hform' : b.form = .ok form) :
    a.kept = b.kept := by
  obtain ⟨hlanguage, hdatatype, hlexical⟩ := eq_of_form ha.1 hb.1 hspelled hspelled' hform hform'
  rw [ha.2, hb.2] at hlexical
  rw [kept, kept, String.toList_inj.1 hlexical, hlanguage, hdatatype]

theorem encode_eq_of_kept (hkept : a.kept = b.kept) {form : String} (hform : a.form = .ok form)
    (hform' : b.form = .ok form) (hfields : (Registry.default.forLiteral a).encode a = .ok fields)
    (hfields' : (Registry.default.forLiteral b).encode b = .ok fields') : fields = fields' := by
  have hfamily : Registry.default.forLiteral a = Registry.default.forLiteral b := by
    rw [← a.forLiteral_kept, hkept, b.forLiteral_kept]
  have hlexical : a.lexical = b.lexical := by rw [← a.lexical_kept, hkept, b.lexical_kept]
  obtain ⟨found, hfound, hfields⟩ := encode_fields hfields
  obtain ⟨found', hfound', hfields'⟩ := encode_fields hfields'
  cases hform.symm.trans hfound
  cases hform'.symm.trans hfound'
  rw [hfamily, hlexical] at hfields
  split at hfields
  · next hindexable =>
    rw [if_pos hindexable] at hfields'
    obtain ⟨value, hvalue, rfl⟩ := hfields
    obtain ⟨value', hvalue', rfl⟩ := hfields'
    cases hvalue.symm.trans hvalue'
    rfl
  · next hindexable =>
    rw [if_neg hindexable] at hfields'
    exact hfields.trans hfields'.symm

theorem objectFields_cases {registry : Registry} (hfields : objectFields registry t = .ok fields) :
    (∃ l encoded, t = .literal l ∧ (registry.forLiteral l).encode l = .ok encoded ∧
      fields = encoded ++ [(Field.lang, languageField l)]) ∨
    (∀ l, t ≠ .literal l) ∧ fields = [(Field.object, .text (objectForm fields))] := by
  unfold objectFields at hfields
  split at hfields
  · next l =>
    obtain ⟨encoded, hencoded, hfields⟩ := bind_eq_ok.1 hfields
    cases hfields
    exact .inl ⟨l, encoded, rfl, hencoded, rfl⟩
  · next hplain =>
    obtain ⟨form, -, hfields⟩ := bind_eq_ok.1 hfields
    cases hfields
    exact .inr ⟨hplain, rfl⟩

theorem objectFields_eq (ht : t.IsExact) (hu : u.IsExact) (hfields : objectFields .default t = .ok fields)
    (hfields' : objectFields .default u = .ok fields') (hform : objectForm fields = objectForm fields') :
    fields = fields' := by
  have htform := form_of_objectFields hfields
  have huform := form_of_objectFields hfields'
  rw [← hform] at huform
  rcases objectFields_cases hfields with ⟨l, encoded, rfl, hencoded, rfl⟩ | ⟨hplain, heq⟩
  · have hquote := l.head?_form htform
    rcases objectFields_cases hfields' with ⟨m, encoded', rfl, hencoded', rfl⟩ | ⟨hplain, -⟩
    · have hkept := Literal.kept_eq (ht l rfl) (hu m rfl) (l.isSpelled_of_encode hencoded)
        (m.isSpelled_of_encode hencoded') htform huform
      have hlanguage : languageField l = languageField m := by
        rw [← l.languageField_kept, hkept, m.languageField_kept]
      rw [encode_eq_of_kept hkept htform huform hencoded hencoded', hlanguage]
    · exact absurd hquote (Term.head?_form hplain huform)
  · rcases objectFields_cases hfields' with ⟨m, -, rfl, -, -⟩ | ⟨-, heq'⟩
    · exact absurd (m.head?_form huform) (Term.head?_form hplain htform)
    · rw [heq, heq', hform]

/-- The quadruple of a document determines all of its fields. -/
theorem document_eq_of_quadruple (htriple : triple.object.IsExact) (hother : other.object.IsExact)
    (hd : document .default triple (some g) = .ok d) (he : document .default other (some h) = .ok e)
    (hquadruple : d.quadruple = e.quadruple) : d = e := by
  obtain ⟨context, subject, predicate, fields, hfields, rfl⟩ := document_eq_ok hd
  obtain ⟨context', subject', predicate', fields', hfields', rfl⟩ := document_eq_ok he
  obtain rfl : context = context' := congrArg Quadruple.context hquadruple
  obtain rfl : subject = subject' := congrArg Quadruple.subject hquadruple
  obtain rfl : predicate = predicate' := congrArg Quadruple.predicate hquadruple
  have hobject : objectForm fields = objectForm fields' := congrArg Quadruple.object hquadruple
  rw [objectFields_eq htriple hother hfields hfields' hobject]

end Documents

/-! ## Additions -/

/-- A triple and the graph that it is added to, unless that is the default one. -/
abbrev Addition := Pattern × Option Term

namespace Store

variable {s after : Store} {x : Addition} {xs ys : List Addition} {members : Set Addition}

/-- Add triples one by one as long as none is refused. -/
def insertEach (s : Store) (xs : List Addition) : Except Fault Store := xs.foldlM (fun s x => s.insert x.1 x.2) s

/-- The document that an addition writes. -/
def documentOf? (s : Store) (x : Addition) : Option Document :=
  (document .default x.1 (some (s.graph x.2))).toOption

/-- The quadruples of the triples that are added. -/
def quadruplesOf (s : Store) (xs : List Addition) : List Quadruple :=
  xs.filterMap fun x => (s.documentOf? x).map Document.quadruple

/-- The store has the documents of a set of additions and no others. -/
def Holds (s : Store) (members : Set Addition) : Prop :=
  ∀ q d, s.index.at? q = some d ↔ ∃ x ∈ members, s.documentOf? x = some d ∧ q = d.quadruple.id.place

/-- Additions with one identifier write one document. -/
def Separates (s : Store) (members : Set Addition) : Prop :=
  ∀ x ∈ members, ∀ y ∈ members, ∀ d e, s.documentOf? x = some d → s.documentOf? y = some e →
    d.quadruple.id = e.quadruple.id → d = e

theorem holds_of_make {settings : Settings} (h : Store.make settings .default = .ok s) : s.Holds ∅ := by
  obtain ⟨-, -, hindex⟩ := make_eq_ok h
  intro q d
  rw [hindex]
  refine iff_of_false (fun hd => ?_) fun ⟨x, hx, _⟩ => hx
  cases hd

theorem Reachable.insert_eq_put (hs : s.Reachable .default) (h : s.insert x.1 x.2 = .ok after) :
    ∃ d, s.documentOf? x = some d ∧ after = { s with index := s.index.put d.quadruple.id d } := by
  obtain ⟨d, hd, hafter⟩ := hs.insert_eq h
  exact ⟨d, toOption_eq_some.2 hd, hafter⟩

theorem Reachable.exists_insert (hs : s.Reachable .default) {d : Document} (h : s.documentOf? x = some d) :
    ∃ after, s.insert x.1 x.2 = .ok after := by
  have hd := toOption_eq_some.1 h
  have hmaintained := hs.maintained
  obtain ⟨ix, hwrite⟩ := Index.exists_write hmaintained.index.schema_eq hd
  exact ⟨_, insert_of_write (by rw [hmaintained.registry_eq]; exact hd) hwrite⟩

theorem Holds.insert (h : s.Holds members) (hs : s.Reachable .default) (hseparates : s.Separates (members ∪ {x}))
    (hinsert : s.insert x.1 x.2 = .ok after) : after.Holds (members ∪ {x}) := by
  obtain ⟨d, hd, rfl⟩ := hs.insert_eq_put hinsert
  have hx : x ∈ members ∪ {x} := .inr rfl
  intro q e
  show (s.index.put d.quadruple.id d).at? q = some e ↔
    ∃ y ∈ members ∪ {x}, s.documentOf? y = some e ∧ q = e.quadruple.id.place
  rw [Index.at?_put]
  by_cases hq : q = d.quadruple.id.place
  · subst hq
    rw [Function.update_self]
    constructor
    · intro heq
      cases heq
      exact ⟨x, hx, hd, rfl⟩
    · rintro ⟨y, hy, he, hplace⟩
      have hids : d.quadruple.id = e.quadruple.id := congrArg Scalar.text (Scalar.place_text_inj.1 hplace)
      exact congrArg some (hseparates x hx y hy d e hd he hids)
  · rw [Function.update_of_ne hq, h]
    constructor
    · rintro ⟨y, hy, he, hplace⟩
      exact ⟨y, .inl hy, he, hplace⟩
    · rintro ⟨y, hy | rfl, he, hplace⟩
      · exact ⟨y, hy, he, hplace⟩
      · cases hd.symm.trans he
        exact absurd hplace hq

theorem Holds.insertEach (h : s.Holds members) (hs : s.Reachable .default)
    (hseparates : s.Separates (members ∪ {x | x ∈ xs})) (hrun : s.insertEach xs = .ok after) :
    after.Reachable .default ∧ after.Holds (members ∪ {x | x ∈ xs}) ∧ ∃ ix, after = { s with index := ix } := by
  -- what the store holds so far grows by one addition after the other
  induction xs generalizing s members with
  | nil =>
    cases hrun
    have hnone : members ∪ {x | x ∈ ([] : List Addition)} = members := by simp
    rw [hnone]
    exact ⟨hs, h, after.index, rfl⟩
  | cons x xs ih =>
    obtain ⟨next, hinsert, hrun⟩ := bind_eq_ok.1 (show (s.insert x.1 x.2 >>= fun s => s.insertEach xs) = _ from hrun)
    have hmembers : members ∪ {y | y ∈ x :: xs} = members ∪ {x} ∪ {y | y ∈ xs} := by
      ext y
      simp only [Set.mem_union, Set.mem_singleton_iff, Set.mem_ofPred_eq, List.mem_cons, or_assoc]
    rw [hmembers] at hseparates ⊢
    have hnext : next.Holds (members ∪ {x}) :=
      h.insert hs (fun y hy z hz => hseparates y (.inl hy) z (.inl hz)) hinsert
    obtain ⟨d, -, hd⟩ := hs.insert_eq_put hinsert
    have hsame : next.documentOf? = s.documentOf? := by
      rw [hd]
      rfl
    have hseparates' : next.Separates (members ∪ {x} ∪ {y | y ∈ xs}) := by
      rw [Separates, hsame]
      exact hseparates
    obtain ⟨hreachable, hholds, ix, hafter⟩ := ih hnext (hs.insert hinsert) hseparates' hrun
    exact ⟨hreachable, hholds, ix, by rw [hafter, hd]⟩

theorem Reachable.isOk_insertEach (hs : s.Reachable .default) :
    (∃ after, s.insertEach xs = .ok after) ↔ ∀ x ∈ xs, (s.documentOf? x).isSome := by
  -- an addition changes the index only, and the documents of the others do not depend on it
  induction xs generalizing s with
  | nil => exact iff_of_true ⟨s, rfl⟩ fun x hx => absurd hx List.not_mem_nil
  | cons x xs ih =>
    rw [List.forall_mem_cons]
    constructor
    · rintro ⟨after, hrun⟩
      obtain ⟨next, hinsert, hrun⟩ := bind_eq_ok.1 (show (s.insert x.1 x.2 >>= fun s => s.insertEach xs) = _ from hrun)
      obtain ⟨d, hx, hd⟩ := hs.insert_eq_put hinsert
      have hrest := (ih (hs.insert hinsert)).1 ⟨after, hrun⟩
      rw [hd] at hrest
      exact ⟨by rw [hx]; rfl, hrest⟩
    · rintro ⟨hx, hrest⟩
      obtain ⟨d, hd⟩ := Option.isSome_iff_exists.1 hx
      obtain ⟨next, hinsert⟩ := hs.exists_insert hd
      obtain ⟨d', -, hnext⟩ := hs.insert_eq_put hinsert
      obtain ⟨after, hrun⟩ := (ih (hs.insert hinsert)).2 (by rw [hnext]; exact hrest)
      exact ⟨after, bind_eq_ok.2 ⟨next, hinsert, hrun⟩⟩

/-- Where different quadruples have different identifiers, additions with one identifier write one document. -/
theorem separates_of_distinctIds (hexact : ∀ x ∈ xs, x.1.object.IsExact) (hdistinct : DistinctIds (s.quadruplesOf xs)) :
    s.Separates {x | x ∈ xs} := by
  intro x hx y hy d e hd he hids
  have hmem : ∀ {x : Addition} {d : Document}, x ∈ xs → s.documentOf? x = some d → d.quadruple ∈ s.quadruplesOf xs :=
    fun hx hd => List.mem_filterMap.2 ⟨_, hx, by rw [hd]; rfl⟩
  have hquadruple := hdistinct _ (hmem hx hd) _ (hmem hy he) hids
  exact document_eq_of_quadruple (hexact x hx) (hexact y hy) (toOption_eq_some.1 hd) (toOption_eq_some.1 he) hquadruple

/-! ## Answers -/

section Answers

variable {ix : Index} {f : Filter}

theorem Reachable.exists_evaluate_same (hs : s.Reachable .default) (hs' : ({ s with index := ix } : Store).Reachable .default)
    (hat : ix.at? = s.index.at?) (hproper : f.IsProper) (hsuits : f.Suits Schema.triples) :
    ∃ selected, s.index.evaluate f none = .ok selected ∧ ix.evaluate f none = .ok selected ∧
      ∀ q ∈ selected, ∃ d, s.index.at? q = some d ∧ ix.at? q = some d := by
  have hmaintained := hs.maintained.index
  have hmaintained' := hs'.maintained.index
  obtain ⟨selected, heval⟩ := hmaintained.exists_evaluate hsuits none
  obtain ⟨selected', heval'⟩ := hmaintained'.exists_evaluate hsuits none
  have hmem := hmaintained.mem_evaluate hproper heval
  have hstored : ∀ q ∈ selected, ∃ d, s.index.at? q = some d := fun q hq =>
    let ⟨d, hd, _⟩ := (hmem q).1 hq
    ⟨d, hd⟩
  have hsame : selected = selected' := by
    refine IdSet.ext_of_text (fun q => ?_) fun q hq => ?_
    · rw [hmem, hmaintained'.mem_evaluate hproper heval']
      show _ ↔ ∃ d, ix.at? q = some d ∧ _
      rw [hat]
    · obtain ⟨d, hd⟩ := hstored q hq
      exact hs.text_of_at? hd
  refine ⟨selected, heval, hsame ▸ heval', fun q hq => ?_⟩
  obtain ⟨d, hd⟩ := hstored q hq
  exact ⟨d, hd, hat ▸ hd⟩

theorem Reachable.find_same (hs : s.Reachable .default) (hs' : ({ s with index := ix } : Store).Reachable .default)
    (hat : ix.at? = s.index.at?) {p : Pattern} (hp : p.IsMade) (g : Option Term) :
    ({ s with index := ix } : Store).find p g = s.find p g := by
  show findIn s.registry ix s.pageSize p (s.graph g) = findIn s.registry s.index s.pageSize p (s.graph g)
  cases hcompile : compile s.registry p (some (s.graph g)) with
  | error e => rw [findIn, findIn, hcompile]
  | ok f =>
    have hclauses := Index.patternClauses_of_compile hcompile
    rw [hs.maintained.registry_eq] at hclauses
    have hsuits : f.Suits Schema.triples := fun c hc => (isAsked_patternClauses hclauses c hc).suits
    obtain ⟨selected, heval, heval', hboth⟩ :=
      hs.exists_evaluate_same hs' hat (isProper_patternClauses hp hclauses) hsuits
    exact (findIn_congr hcompile heval heval' hboth _).symm

theorem Reachable.count_same (hs : s.Reachable .default) (hs' : ({ s with index := ix } : Store).Reachable .default)
    (hat : ix.at? = s.index.at?) (g : Option Term) : ({ s with index := ix } : Store).count g = s.count g := by
  refine count_congr fun form read _ hread => ?_
  have hasked : ∀ c ∈ inGraph form, c.IsAsked := List.forall_mem_singleton.2 (.inl (.text form rfl rfl))
  obtain ⟨found, hfound, hback⟩ := Filter.ofText_text (fun c hc => (hasked c hc).asks) (by simp [inGraph])
  cases hread.symm.trans hfound
  obtain ⟨selected, heval, heval', -⟩ := hs.exists_evaluate_same hs' hat (Filter.isProper_of_readBack hback)
    (Filter.suits_readBack hasked hback)
  exact ⟨selected, heval, heval'⟩

theorem Reachable.documents_same (hs : s.Reachable .default) (hs' : ({ s with index := ix } : Store).Reachable .default)
    (hat : ix.at? = s.index.at?) : ({ s with index := ix } : Store).documents = s.documents := by
  have hids : ix.ids = s.index.ids := by
    have hmem := hs.maintained.index.sound.mem_ids
    have hmem' : ∀ q, q ∈ ix.ids ↔ ∃ d, ix.at? q = some d := hs'.maintained.index.sound.mem_ids
    refine (IdSet.ext_of_text (fun q => ?_) fun q hq => ?_).symm
    · rw [hmem, hmem', hat]
    · obtain ⟨d, hd⟩ := (hmem q).1 hq
      exact hs.text_of_at? hd
  show ix.ids.toList.filterMap (fun id => ix.at? id.place) = s.index.ids.toList.filterMap fun id => s.index.at? id.place
  rw [hids, hat]

end Answers

/-- Lists with the same members, in whatever order and however often each, make stores with the same documents, and
so with the same answers. -/
theorem insertEach_congr_members {settings : Settings} (hs : Store.make settings .default = .ok s)
    (hmembers : ∀ x, x ∈ xs ↔ x ∈ ys) (hexact : ∀ x ∈ xs, x.1.object.IsExact)
    (hdistinct : DistinctIds (s.quadruplesOf xs)) (hrun : s.insertEach xs = .ok after) : ∃ other,
      s.insertEach ys = .ok other ∧ other.index.at? = after.index.at? ∧ other.documents = after.documents ∧
      (∀ p g, p.IsMade → other.find p g = after.find p g) ∧ ∀ g, other.count g = after.count g := by
  have hreachable : s.Reachable .default := .make hs
  have hsame : ({x | x ∈ ys} : Set Addition) = {x | x ∈ xs} := Set.ext fun x => (hmembers x).symm
  have hseparates : s.Separates (∅ ∪ {x | x ∈ xs}) := by
    rw [Set.empty_union]
    exact separates_of_distinctIds hexact hdistinct
  have hwritten := hreachable.isOk_insertEach.1 ⟨after, hrun⟩
  obtain ⟨other, hrun'⟩ := hreachable.isOk_insertEach.2 fun x hx => hwritten x ((hmembers x).2 hx)
  obtain ⟨hafter, hholds, ix, rfl⟩ := (holds_of_make hs).insertEach hreachable hseparates hrun
  obtain ⟨hother, hholds', ix', rfl⟩ := (holds_of_make hs).insertEach hreachable (hsame ▸ hseparates) hrun'
  rw [hsame] at hholds'
  have hat : ix'.at? = ix.at? := by
    funext q
    exact Option.ext fun d => (hholds' q d).trans (hholds q d).symm
  exact ⟨_, hrun', hat, hafter.documents_same hother hat, fun p g hp => hafter.find_same hother hat hp g,
    fun g => hafter.count_same hother hat g⟩

/-- A text of two lines with a quote of its own at the end and a number, one of them in a graph of its own. -/
def quotedAndPadded : List Addition :=
  [(stated "two\nlines\\\"", none), (holding (typed "int" "05"), some (.blank "g"))]

/-- The same in another order, one of them twice. -/
def reordered : List Addition :=
  [(holding (typed "int" "05"), some (.blank "g")), (stated "two\nlines\\\"", none),
    (holding (typed "int" "05"), some (.blank "g"))]

theorem insertEach_reordered : ∃ s after other : Store, Store.make .default .default = .ok s ∧
    s.insertEach quotedAndPadded = .ok after ∧ s.insertEach reordered = .ok other ∧
    (∀ x, x ∈ quotedAndPadded ↔ x ∈ reordered) ∧ (∀ x ∈ quotedAndPadded, x.1.object.IsExact) ∧
    DistinctIds (s.quadruplesOf quotedAndPadded) ∧ after.size = 2 ∧ other.documents = after.documents ∧
    (∀ p g, p.IsMade → other.find p g = after.find p g) ∧ ∀ g, other.count g = after.count g := by
  have hrun : (do
      let s ← Store.make .default .default
      let after ← s.insertEach quotedAndPadded
      return decide (DistinctIds (s.quadruplesOf quotedAndPadded)) && after.size = 2).toOption = some true := by
    decide +kernel
  obtain ⟨s, hs, hrun⟩ := bind_eq_ok.1 (toOption_eq_some.1 hrun)
  obtain ⟨after, hafter, hrun⟩ := bind_eq_ok.1 hrun
  have hchecks := Except.ok.inj hrun
  simp only [Bool.and_eq_true, decide_eq_true_eq] at hchecks
  have hmembers : ∀ x, x ∈ quotedAndPadded ↔ x ∈ reordered := by
    intro x
    simp only [quotedAndPadded, reordered, List.mem_cons, List.not_mem_nil, or_false]
    exact ⟨fun h => h.elim (.inr ∘ .inl) .inl, fun h => h.elim .inr fun h => h⟩
  have hexact : ∀ x ∈ quotedAndPadded, x.1.object.IsExact := by
    refine List.forall_mem_cons.2 ⟨?_, List.forall_mem_singleton.2 ?_⟩
    · rintro l ⟨⟩
      exact ⟨⟨nofun, nofun, .inl rfl⟩, rfl⟩
    · rintro l ⟨⟩
      exact ⟨isMade_typed "int" "05", rfl⟩
  obtain ⟨other, hother, -, hdocuments, hfind, hcount⟩ := insertEach_congr_members hs hmembers hexact hchecks.1 hafter
  exact ⟨s, after, other, hs, hafter, hother, hmembers, hexact, hchecks.1, hchecks.2, hdocuments, hfind, hcount⟩

/-- The text of a token with white space around it, which its form leaves out, and the same text without. -/
def spacedAndPlain : List Addition := [(holding (typed "token" " a "), none), (holding (typed "token" "a"), none)]

/-- Of two triples with one form the later one says what text the document is found by. -/
theorem insertEach_spaced : ∃ s after other : Store, Store.make .default .default = .ok s ∧
    s.insertEach spacedAndPlain = .ok after ∧ s.insertEach spacedAndPlain.reverse = .ok other ∧
    DistinctIds (s.quadruplesOf spacedAndPlain) ∧
    (after.find (holding (typed "token" "a")) none).triples = [holding (typed "token" "a")] ∧
    (other.find (holding (typed "token" "a")) none).triples = [] ∧ other.documents ≠ after.documents := by
  have hrun : (do
      let s ← Store.make .default .default
      let after ← s.insertEach spacedAndPlain
      let other ← s.insertEach spacedAndPlain.reverse
      return decide (DistinctIds (s.quadruplesOf spacedAndPlain)) &&
        (after.find (holding (typed "token" "a")) none).triples = [holding (typed "token" "a")] &&
        (other.find (holding (typed "token" "a")) none).triples = [] &&
        other.documents ≠ after.documents).toOption = some true := by decide +kernel
  obtain ⟨s, hs, hrun⟩ := bind_eq_ok.1 (toOption_eq_some.1 hrun)
  obtain ⟨after, hafter, hrun⟩ := bind_eq_ok.1 hrun
  obtain ⟨other, hother, hrun⟩ := bind_eq_ok.1 hrun
  have hchecks := Except.ok.inj hrun
  simp only [Bool.and_eq_true, decide_eq_true_eq, and_assoc] at hchecks
  exact ⟨s, after, other, hs, hafter, hother, hchecks⟩

end Store

end TripleIndex
