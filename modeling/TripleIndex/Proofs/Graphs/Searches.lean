import TripleIndex.Proofs.Graphs.Steps
import TripleIndex.Proofs.Join.Answers
import TripleIndex.Query.Work

/-!
Searches in one graph. A query with a clause for a graph selects documents of that graph only, so two stores that
have the same documents there give the same answers to it: the same identifiers on the same pages, and the same
fields of each of them.
-/

namespace TripleIndex

/-! ## Identifiers -/

theorem Scalar.eq_text_of_place {v : Scalar} {name : String} (h : v.place = .text name) : v = .text name := by
  cases v with
  | text s => exact congrArg Scalar.text (Place.text.inj h)
  | float x => cases x <;> cases h
  | _ => cases h

theorem IdSet.ext_of_text {s t : IdSet} (h : ∀ q, q ∈ s ↔ q ∈ t) (htext : ∀ q ∈ s, ∃ name, q = .text name) :
    s = t := by
  have hlist : ∀ {s : IdSet}, (∀ q ∈ s, ∃ name, q = .text name) →
      (places s.toList).map (fun q => Scalar.text q.word) = s.toList := by
    intro s htext
    rw [places, List.map_map]
    refine (List.map_congr_left fun id hid => ?_).trans (List.map_id s.toList)
    obtain ⟨name, hname⟩ := htext id.place (List.mem_map_of_mem hid)
    rw [Scalar.eq_text_of_place hname]
    rfl
  have hids : s.toList = t.toList := by
    rw [← hlist htext, ← hlist fun q hq => htext q ((h q).2 hq), IdSet.places_ext h]
  cases s
  cases t
  exact (IdSet.mk.injEq ..).mpr hids

/-! ## Queries of patterns -/

variable {registry : Registry} {c : Clause} {f : Filter} {g : Term}

theorem exists_convert_text {v : Scalar} (hv : v.isWritable = true) : ∃ w, FieldType.text.convert v = .ok w := by
  have hwritten : v.written = .ok v.plain := by rw [Scalar.written, TripleIndex.written, hv]; rfl
  cases v with
  | codePoints ns => exact ⟨_, rfl⟩
  | _ =>
    rw [FieldType.convert, hwritten]
    · exact ⟨_, rfl⟩
    · exact nofun

theorem Clause.IsAsked.suits (h : c.IsAsked) : c.Suits Schema.triples := by
  rcases h with h | ⟨v, hv, rfl⟩
  · obtain ⟨name, v, rfl⟩ : ∃ name v, c = .term name v := by cases h <;> exact ⟨_, _, rfl⟩
    exact suits_term h.convert_eq
  · obtain ⟨w, hw⟩ := exists_convert_text hv
    exact suits_term (Schema.convert_eq_ok.2 ⟨.text, rfl, hw⟩)

namespace Store

variable {quadruples more : List Quadruple} {s after : Store}

/-- No tag that is a list of code points is in a document, and none is selected. -/
theorem Within.scans_codePoints (h : s.Within quadruples) (ns : List Nat) :
    s.index.Scans (.term Field.lang (.codePoints ns)) := by
  intro selected hselected q
  have hmaintained := h.reachable.maintained.index
  obtain ⟨p, hp, -⟩ := hmaintained.exists_postings (show Schema.triples.type? Field.lang = some .text from rfl)
  have hconvert : s.index.schema.convert Field.lang (.codePoints ns) = .ok (.codePoints ns) := by
    rw [hmaintained.schema_eq]
    rfl
  have hempty : p.lookup (.codePoints ns) = .empty := by
    obtain ⟨vs, hvs, -, htexts, -⟩ := h.distinctValues Field.lang rfl
    rw [Index.distinctValues, hp] at hvs
    cases hvs
    refine Postings.lookup_eq_empty fun key hkey => ?_
    obtain ⟨text, rfl⟩ := htexts key hkey
    rfl
  have hfield : (Clause.term Field.lang (.codePoints ns)).field = Field.lang := rfl
  rw [Index.select, hfield, hp] at hselected
  dsimp only at hselected
  rw [hconvert, ok_bind, hempty] at hselected
  cases hselected
  refine iff_of_false (IdSet.not_mem_empty q) ?_
  rintro ⟨d, hd, hholds⟩
  rw [Clause.holds, hconvert] at hholds
  cases hlang : d.lookup Field.lang with
  | none =>
    rw [hlang] at hholds
    cases hholds
  | some w =>
    obtain ⟨text, rfl⟩ := h.exists_text rfl hd hlang
    rw [hlang] at hholds
    cases hholds

theorem Within.scans (h : s.Within quadruples) (hc : c.IsAsked) : s.index.Scans c := by
  have hmaintained := h.reachable.maintained.index
  rcases hc with hc | ⟨v, -, rfl⟩
  · exact hmaintained.scans hc.isProper
  · cases v with
    | codePoints ns => exact h.scans_codePoints ns
    | _ => exact hmaintained.scans (c := .term Field.lang _) trivial

theorem Within.mem_evaluate (h : s.Within quadruples) (hf : ∀ c ∈ f, c.IsAsked) {selected : IdSet}
    (heval : s.index.evaluate f none = .ok selected) (q : Place) :
    q ∈ selected ↔ ∃ d, s.index.at? q = some d ∧ f.holds Schema.triples d = true := by
  have hmaintained := h.reachable.maintained.index
  rw [Index.mem_evaluate hmaintained.sound.mem_ids (fun c hc => h.scans (hf c hc)) heval, hmaintained.schema_eq]

theorem Within.exists_evaluate (h : s.Within quadruples) (h' : after.Within more)
    (hdocuments : ∀ q d, d.IsIn g → (after.index.at? q = some d ↔ s.index.at? q = some d))
    (hf : ∀ c ∈ f, c.IsAsked) (hgraph : ∀ d, f.holds Schema.triples d = true → d.IsIn g) : ∃ selected,
      s.index.evaluate f none = .ok selected ∧ after.index.evaluate f none = .ok selected ∧
        ∀ q ∈ selected, ∃ d, s.index.at? q = some d ∧ after.index.at? q = some d := by
  have hsuits : f.Suits Schema.triples := fun c hc => (hf c hc).suits
  obtain ⟨selected, hselected⟩ := h.reachable.maintained.index.exists_evaluate hsuits none
  obtain ⟨selected', hselected'⟩ := h'.reachable.maintained.index.exists_evaluate hsuits none
  have hmem := h.mem_evaluate hf hselected
  have hsame : selected = selected' := by
    refine IdSet.ext_of_text (fun q => ?_) fun q hq => ?_
    · rw [hmem, h'.mem_evaluate hf hselected']
      refine exists_congr fun d => and_congr_left fun hholds => ?_
      exact (hdocuments q d (hgraph d hholds)).symm
    · obtain ⟨d, hd, -⟩ := (hmem q).1 hq
      exact ⟨_, h.place q d hd⟩
  refine ⟨selected, hselected, hsame ▸ hselected', fun q hq => ?_⟩
  obtain ⟨d, hd, hholds⟩ := (hmem q).1 hq
  exact ⟨d, hd, (hdocuments q d (hgraph d hholds)).2 hd⟩

end Store

/-! ## Pages -/

section Pages

variable {r r' : Reader} {ix ix' : Index} {p : Pattern} {size : PageSize} {selected : IdSet}
  {mark later : Option DocId} {page : List DocId}

theorem findInPage_congr (h : ∀ id ∈ page, r.read id = r'.read id) : findInPage r p page = findInPage r' p page := by
  induction page with
  | nil => rfl
  | cons id page ih =>
    obtain ⟨hid, hrest⟩ := List.forall_mem_cons.1 h
    have hmatching : matchingTriple r p id = matchingTriple r' p id := by rw [matchingTriple, hid]; rfl
    rw [findInPage, findInPage, hmatching, ih hrest]

theorem nextMark_eq_ok {rows : Nat} {last : DocId} (h : Reader.nextMark selected page rows = .ok (some last)) :
    page.length = rows ∧ page.getLast? = some last := by
  unfold Reader.nextMark at h
  split at h
  · next hfull =>
    refine ⟨Int.ofNat.inj hfull, ?_⟩
    split at h
    · cases h
    · next found hfound =>
      split at h
      · cases h
      · cases h
        exact hfound
  · cases h

theorem searchPage_eq (heval : ix.evaluate f none = .ok selected) : searchPage (.opened ix) f size mark =
    size.count.bind fun rows => (Reader.checkOrder selected).bind fun _ =>
      (Reader.checkMark selected mark).bind fun _ =>
      let page := Reader.pageFrom selected.toList (Reader.passed selected mark) rows
      (Reader.nextMark selected page rows).map fun later => (page, later) := by
  have hsearch : searchPage (.opened ix) f size mark = (do
      let ids ← ix.evaluate f none
      (Reader.opened ix).markedPage ids mark (← size.count)) := rfl
  rw [hsearch, heval, ok_bind]
  cases size with
  | fraction => rfl
  | rows n positive =>
    have hpage : (Reader.opened ix).page selected mark n = (Reader.checkOrder selected).bind fun _ =>
        (Reader.checkMark selected mark).bind fun _ =>
          .ok (Reader.pageFrom selected.toList (Reader.passed selected mark) n) := rfl
    show (Reader.opened ix).markedPage selected mark n = _
    rw [Reader.markedPage, hpage]
    cases Reader.checkOrder selected with
    | error e => rfl
    | ok _ =>
      cases Reader.checkMark selected mark <;> rfl

/-- A page is part of what is selected, and the mark that it leaves is further on. -/
theorem searchPage_eq_ok (heval : ix.evaluate f none = .ok selected)
    (h : searchPage (.opened ix) f size mark = .ok (page, later)) : (∀ id ∈ page, id ∈ selected.toList) ∧
      ∀ last, later = some last →
        selected.size - Reader.passed selected (some last) < selected.size - Reader.passed selected mark := by
  rw [searchPage_eq heval] at h
  cases size with
  | fraction => cases h
  | rows n positive =>
    obtain ⟨rows, rfl⟩ := Int.eq_ofNat_of_zero_le (Int.le_trans (by decide) positive)
    obtain ⟨_, -, h⟩ := bind_eq_ok.1 (show Reader.checkOrder selected >>= _ = _ from h)
    obtain ⟨_, -, h⟩ := bind_eq_ok.1 (show Reader.checkMark selected mark >>= _ = _ from h)
    obtain ⟨found, hnext, h⟩ := map_eq_ok.1 h
    obtain ⟨hpage, rfl⟩ := Prod.mk.inj h
    refine ⟨fun id hid => ?_, fun last hlast => ?_⟩
    · rw [← hpage, Reader.pageFrom_natCast] at hid
      exact List.mem_of_mem_take (List.mem_of_mem_drop hid)
    · subst hlast
      obtain ⟨hfull, hgetLast⟩ := nextMark_eq_ok hnext
      have hleft := Level.left_page_le selected mark rows (by omega)
      dsimp only at hleft
      rw [hfull, hgetLast, if_neg (Int.lt_irrefl _)] at hleft
      omega

/-- Searches that select the same and read the same give the same, if both have fuel for all pages. -/
theorem findPages_congr (heval : ix.evaluate f none = .ok selected) (heval' : ix'.evaluate f none = .ok selected)
    (hread : ∀ id ∈ selected.toList, (Reader.opened ix).read id = (Reader.opened ix').read id)
    {fuel fuel' : Nat}
    (hfuel : selected.size - Reader.passed selected mark < fuel)
    (hfuel' : selected.size - Reader.passed selected mark < fuel') :
    findPages (.opened ix) p f size fuel mark = findPages (.opened ix') p f size fuel' mark := by
  -- the fuels may differ, but what is left after the mark falls with every page
  induction fuel generalizing fuel' mark with
  | zero => exact absurd hfuel (Nat.not_lt_zero _)
  | succ fuel ih =>
    obtain ⟨fuel', rfl⟩ := Nat.exists_eq_add_of_le' (Nat.one_le_of_lt hfuel')
    have hsearch : searchPage (.opened ix') f size mark = searchPage (.opened ix) f size mark :=
      (searchPage_eq heval').trans (searchPage_eq heval).symm
    rw [findPages, findPages, hsearch]
    cases hpage : searchPage (.opened ix) f size mark with
    | error e => rfl
    | ok found =>
      obtain ⟨page, later⟩ := found
      obtain ⟨hsub, hless⟩ := searchPage_eq_ok heval hpage
      dsimp only
      rw [findInPage_congr fun id hid => hread id (hsub id hid)]
      cases later with
      | none => rfl
      | some last =>
        have hlater := hless last rfl
        have hrest : findPages (.opened ix) p f size fuel (some last) =
            findPages (.opened ix') p f size fuel' (some last) := ih (by omega) (by omega)
        dsimp only
        rw [hrest]

theorem size_le_of_stored (hstored : ∀ q ∈ selected, ∃ d, ix.at? q = some d) : selected.size ≤ ix.size := by
  have hsub : places selected.toList ⊆ ix.documents.map Prod.fst := by
    intro q hq
    obtain ⟨d, hd⟩ := hstored q hq
    obtain ⟨filed, hfiled, -⟩ := Option.map_eq_some_iff.1 hd
    exact List.mem_map.2 ⟨_, Table.mem_of_lookup hfiled, rfl⟩
  have hle := (List.subperm_of_subset selected.nodup_places hsub).length_le
  rwa [places, List.length_map, List.length_map] at hle

/-- Indexes that have the same documents where a query selects some give the same answers to its pattern. -/
theorem findIn_congr {registry : Registry} {g : Term} (hcompile : compile registry p (some g) = .ok f)
    (heval : ix.evaluate f none = .ok selected) (heval' : ix'.evaluate f none = .ok selected)
    (hboth : ∀ q ∈ selected, ∃ d, ix.at? q = some d ∧ ix'.at? q = some d) (size : PageSize) :
    findIn registry ix size p g = findIn registry ix' size p g := by
  have hread : ∀ id ∈ selected.toList, (Reader.opened ix).read id = (Reader.opened ix').read id := by
    intro id hid
    obtain ⟨d, hd, hd'⟩ := hboth id.place (List.mem_map_of_mem hid)
    rw [read_eq_ok hd, read_eq_ok hd']
  have hsize : selected.size ≤ ix.size := size_le_of_stored fun q hq =>
    let ⟨d, hd, _⟩ := hboth q hq
    ⟨d, hd⟩
  have hsize' : selected.size ≤ ix'.size := size_le_of_stored fun q hq =>
    let ⟨d, _, hd⟩ := hboth q hq
    ⟨d, hd⟩
  rw [findIn, findIn, hcompile]
  exact findPages_congr heval heval' hread (by omega) (by omega)

end Pages

/-! ## Answers -/

namespace Store

variable {quadruples more : List Quadruple} {s : Store} {ix : Index} {registry : Registry} {f : Filter} {g : Term}

theorem Within.findIn_eq (h : s.Within quadruples) (h' : ({ s with index := ix } : Store).Within more)
    (hdocuments : ∀ q d, d.IsIn g → (ix.at? q = some d ↔ s.index.at? q = some d)) (size : PageSize) (p : Pattern) :
    findIn s.registry ix size p g = findIn s.registry s.index size p g := by
  cases hcompile : compile s.registry p (some g) with
  | error e => rw [findIn, findIn, hcompile]
  | ok f =>
    have hclauses := Index.patternClauses_of_compile hcompile
    obtain ⟨form, hform, hmem⟩ := Index.context_mem_of_patternClauses hclauses
    have hgraph : ∀ d, f.holds Schema.triples d = true → d.IsIn g := fun d hholds =>
      ⟨form, hform, (Clause.holds_text_iff rfl).1 (List.all_eq_true.1 hholds _ hmem)⟩
    obtain ⟨selected, heval, heval', hboth⟩ :=
      h.exists_evaluate h' hdocuments (isAsked_patternClauses hclauses) hgraph
    exact (findIn_congr hcompile heval heval' hboth size).symm

theorem count_congr {g : Option Term}
    (h : ∀ form read, graphForm (some (s.graph g)) = .ok form → Filter.ofText (inGraph form).text = .ok read →
      ∃ selected, s.index.evaluate read none = .ok selected ∧ ix.evaluate read none = .ok selected) :
    ({ s with index := ix } : Store).count g = s.count g := by
  show (graphText (s.graph g) >>= fun text => ix.count text) =
    graphText (s.graph g) >>= fun text => s.index.count text
  cases hform : graphForm (some (s.graph g)) with
  | error e =>
    rw [graphText, hform]
    rfl
  | ok form =>
    rw [graphText_eq hform, ok_bind, ok_bind, Index.count, Index.count]
    cases hread : Filter.ofText (inGraph form).text with
    | error e => rfl
    | ok read =>
      obtain ⟨selected, heval, heval'⟩ := h form read hform hread
      rw [ok_bind, ok_bind, heval, heval']

theorem Within.count_eq_of_documents (h : s.Within quadruples) (h' : ({ s with index := ix } : Store).Within more)
    {g : Option Term} (hg : (s.graph g).isUntabbed = true)
    (hdocuments : ∀ q d, d.IsIn (s.graph g) → (ix.at? q = some d ↔ s.index.at? q = some d)) :
    ({ s with index := ix } : Store).count g = s.count g := by
  refine count_congr fun form read hform hread => ?_
  rw [ofText_inGraph ((Term.isUntabbed_iff hform).1 hg)] at hread
  cases hread
  have hgraph : ∀ d, (inGraph form).holds Schema.triples d = true → d.IsIn (s.graph g) := fun d hholds =>
    ⟨form, hform, holds_inGraph.1 hholds⟩
  have hasked : ∀ c ∈ inGraph form, c.IsAsked := List.forall_mem_singleton.2 (.inl (.text form rfl rfl))
  obtain ⟨selected, heval, heval', -⟩ := h.exists_evaluate h' hdocuments hasked hgraph
  exact ⟨selected, heval, heval'⟩

end Store

end TripleIndex
