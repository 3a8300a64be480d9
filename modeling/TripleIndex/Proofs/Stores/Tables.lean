import TripleIndex.Proofs.Join.Order

/-!
Answers as a table. A table has a row for each answer and a column for each name that is asked for, in which the
answer has the form of its value. A name that is asked for twice fills its column twice, so there is such a table
only if no name is, or if there are no answers, and if the form of every value that is asked for is a string.
-/

namespace TripleIndex

theorem mapM_eq_ok_iff {α β ε : Type} {f : α → Except ε β} {g : α → β} (hg : ∀ x y, f x = .ok y → g x = y)
    {xs : List α} {ys : List β} :
    xs.mapM f = .ok ys ↔ (∀ x ∈ xs, ∃ y, f x = .ok y) ∧ ys = xs.map g := by
  induction xs generalizing ys with
  | nil =>
    show Except.ok [] = .ok ys ↔ _
    simp [eq_comm]
  | cons x xs ih =>
    rw [List.mapM_cons, bind_eq_ok, List.forall_mem_cons, List.map_cons]
    constructor
    · rintro ⟨y, hy, hrest⟩
      obtain ⟨zs, hzs, hcons⟩ := bind_eq_ok.1 hrest
      obtain ⟨hall, rfl⟩ := ih.1 hzs
      cases hcons
      exact ⟨⟨⟨y, hy⟩, hall⟩, by rw [hg x y hy]⟩
    · rintro ⟨⟨⟨y, hy⟩, hall⟩, rfl⟩
      refine ⟨y, hy, bind_eq_ok.2 ⟨xs.map g, ih.2 ⟨hall, rfl⟩, ?_⟩⟩
      rw [hg x y hy]
      rfl

theorem nodup_eraseDups (names : List String) : names.eraseDups.Nodup := by
  -- what stands behind a name has lost it before it is looked at
  induction hlength : names.length using Nat.strong_induction_on generalizing names with
  | _ length ih =>
    cases names with
    | nil => exact List.nodup_nil
    | cons name names =>
      have hshorter : (names.filter fun other => !other == name).length < length := by
        rw [← hlength, List.length_cons]
        exact Nat.lt_succ_of_le (List.length_filter_le ..)
      rw [List.eraseDups_cons, List.nodup_cons, List.mem_eraseDups]
      exact ⟨by simp, ih _ hshorter _ rfl⟩

/-! ## Cells -/

def cellValue (b : Binding) (name : String) : Scalar := (cell b name).toOption.getD .null

theorem cellValue_eq {b : Binding} {name : String} {v : Scalar} (h : cell b name = .ok v) : cellValue b name = v := by
  rw [cellValue, h]
  rfl

/-- The cell of a variable is a string, or nothing. -/
def HasCell (b : Binding) (name : String) : Prop := ∃ v, cell b name = .ok v ∧ ∀ ns, v ≠ .codePoints ns

theorem hasCell_iff {b : Binding} {name : String} :
    HasCell b name ↔ (∃ v, cell b name = .ok v) ∧ ∀ ns, cellValue b name ≠ .codePoints ns := by
  constructor
  · rintro ⟨v, hv, hstring⟩
    exact ⟨⟨v, hv⟩, cellValue_eq hv ▸ hstring⟩
  · rintro ⟨⟨v, hv⟩, hstring⟩
    exact ⟨v, hv, cellValue_eq hv ▸ hstring⟩

section Cells

variable {names : List String} {bs : List Binding}

/-- The cells that bindings have in the column of a name, again for each time that the name is asked for. -/
def columnOf (names : List String) (bs : List Binding) (name : String) : List Scalar :=
  bs.flatMap fun b => List.replicate (names.count name) (cellValue b name)

theorem mapM_cellsOf_eq_ok {entries : List (List (String × Scalar))} : bs.mapM (cellsOf names) = .ok entries ↔
    (∀ b ∈ bs, ∀ name ∈ names, ∃ v, cell b name = .ok v) ∧
      entries = bs.map fun b => names.map fun name => (name, cellValue b name) := by
  have hpair : ∀ b name, ∀ e : String × Scalar,
      (do return (name, ← cell b name) : Except Fault (String × Scalar)) = .ok e → (name, cellValue b name) = e := by
    intro b name e h
    obtain ⟨v, hv, h⟩ := bind_eq_ok.1 h
    cases h
    rw [cellValue_eq hv]
  have hrow : ∀ b row, cellsOf names b = .ok row → (names.map fun name => (name, cellValue b name)) = row :=
    fun b row h => ((mapM_eq_ok_iff (hpair b)).1 h).2.symm
  rw [mapM_eq_ok_iff hrow]
  refine and_congr_left fun _ => forall₂_congr fun b _ => ?_
  simp only [cellsOf, mapM_eq_ok_iff (hpair b), exists_and_left, exists_eq, and_true]
  refine forall₂_congr fun name _ => ?_
  constructor
  · rintro ⟨e, he⟩
    obtain ⟨v, hv, -⟩ := bind_eq_ok.1 he
    exact ⟨v, hv⟩
  · rintro ⟨v, hv⟩
    exact ⟨(name, v), bind_eq_ok.2 ⟨v, hv, rfl⟩⟩

theorem columnCells_eq (name : String) :
    columnCells (bs.map fun b => names.map fun name => (name, cellValue b name)) name = columnOf names bs name := by
  have hrow : ∀ b, ((names.map fun name => (name, cellValue b name)).filter (·.1 = name)).map (·.2) =
      List.replicate (names.count name) (cellValue b name) := by
    intro b
    induction names with
    | nil => rfl
    | cons first names ih =>
      by_cases hfirst : first = name
      · subst hfirst
        rw [List.map_cons, List.filter_cons_of_pos (by simp), List.map_cons, ih, List.count_cons_self,
          List.replicate_succ]
      · rw [List.map_cons, List.filter_cons_of_neg (by simpa using hfirst), ih, List.count_cons_of_ne hfirst]
  rw [columnCells, columnOf, List.flatMap_map]
  simp only [hrow]

theorem length_columnOf (name : String) : (columnOf names bs name).length = bs.length * names.count name := by
  simp [columnOf, List.length_flatMap, List.map_const']

theorem mem_columnOf {name : String} (hname : name ∈ names) {v : Scalar} :
    v ∈ columnOf names bs name ↔ ∃ b ∈ bs, v = cellValue b name := by
  have hcount : names.count name ≠ 0 := fun h => List.count_eq_zero.1 h hname
  simp [columnOf, List.mem_flatMap, List.mem_replicate, hcount]

theorem columnOf_eq_map (hnames : names.Nodup) {name : String} (hname : name ∈ names) :
    columnOf names bs name = bs.map (cellValue · name) := by
  rw [columnOf, List.count_eq_one_of_mem hnames hname]
  exact List.map_eq_flatMap.symm

theorem checkEncodable_eq_ok {vs : List Scalar} : checkEncodable vs = .ok () ↔ ∀ v ∈ vs, ∀ ns, v ≠ .codePoints ns := by
  induction vs with
  | nil => exact iff_of_true rfl (by simp)
  | cons v vs ih =>
    rw [List.forall_mem_cons, ← ih]
    cases v with
    | codePoints ns => exact iff_of_false nofun fun h => h.1 ns rfl
    | _ => exact (and_iff_right nofun).symm

end Cells

/-! ## Rows -/

section Rows

variable {names : List String} {bs : List Binding}

theorem rowsOf_map {α β : Type} {F : β → α → Scalar} {xs : List α} (hxs : xs ≠ []) (bs : List β) :
    rowsOf (xs.map fun x => bs.map (F · x)) = .ok (bs.map fun b => xs.map (F b)) := by
  cases xs with
  | nil => exact absurd rfl hxs
  | cons x xs =>
    have hall : (xs.map fun x => bs.map (F · x)).all (fun c => c.length = (bs.map (F · x)).length) = true := by simp
    rw [List.map_cons, rowsOf, if_pos hall]
    congr 1
    refine List.ext_getElem (by simp) fun i hi hbs => ?_
    rw [List.length_map, List.length_range, List.length_map] at hi
    simp [hi]

theorem length_of_rowsOf {columns rows : List (List Scalar)} (h : rowsOf columns = .ok rows) :
    ∀ c ∈ columns, c.length = rows.length := by
  cases columns with
  | nil => simp
  | cons first rest =>
    rw [rowsOf] at h
    split at h
    · next hall =>
      cases h
      simp only [List.length_map, List.length_range]
      refine List.forall_mem_cons.2 ⟨rfl, fun c hc => ?_⟩
      simpa using List.all_eq_true.1 hall c hc
    · cases h

theorem rowsOf_columnOf_eq_ok (hnames : names ≠ []) :
    rowsOf (names.eraseDups.map (columnOf names bs)) = .ok (bs.map fun b => names.eraseDups.map (cellValue b)) ↔
      names.Nodup ∨ bs = [] := by
  have hcolumns : names.eraseDups ≠ [] := by
    obtain ⟨name, hname⟩ := List.exists_mem_of_ne_nil names hnames
    exact List.ne_nil_of_mem (List.mem_eraseDups.2 hname)
  constructor
  · intro h
    refine or_iff_not_imp_right.2 fun hbs => List.nodup_iff_count_le_one.2 fun name => ?_
    by_cases hname : name ∈ names
    · have hlength := length_of_rowsOf h _ (List.mem_map_of_mem (List.mem_eraseDups.2 hname))
      rw [length_columnOf, List.length_map] at hlength
      exact ((Nat.mul_eq_left (fun hnil => hbs (List.eq_nil_of_length_eq_zero hnil))).1 hlength).le
    · rw [List.count_eq_zero_of_not_mem hname]
      exact Nat.zero_le 1
  · intro h
    have hcells : ∀ name ∈ names.eraseDups, columnOf names bs name = bs.map (cellValue · name) := by
      intro name hname
      rcases h with hnodup | rfl
      · exact columnOf_eq_map hnodup (List.mem_eraseDups.1 hname)
      · rfl
    rw [List.map_congr_left hcells]
    exact rowsOf_map hcolumns bs

end Rows

/-! ## Tables -/

/-- A table with a row for each binding and a column for each name, in the order in which the names are asked for
first. -/
structure Frame.Shows (names : List String) (bs : List Binding) (t : Frame) : Prop where
  columns : t.columns = names.eraseDups.map fun name => ⟨name, .text⟩
  rows : List.Forall₂ (fun b row => names.eraseDups.mapM (cell b) = .ok row) bs t.rows

section Tables

variable {names : List String} {bs : List Binding} {t : Frame}

theorem Frame.Shows.rows_eq (h : t.Shows names bs) : t.rows = bs.map fun b => names.eraseDups.map (cellValue b) := by
  have hrows : List.Forall₂ (· = ·) t.rows (bs.map fun b => names.eraseDups.map (cellValue b)) :=
    List.forall₂_map_right_iff.2 (h.rows.flip.imp fun row b hrow =>
      ((mapM_eq_ok_iff fun _ _ => cellValue_eq).1 hrow).2)
  rwa [List.forall₂_eq_eq_eq] at hrows

theorem Frame.shows_cellValue (hcells : ∀ b ∈ bs, ∀ name ∈ names, HasCell b name) :
    (Frame.mk (names.eraseDups.map fun name => ⟨name, .text⟩)
      (bs.map fun b => names.eraseDups.map (cellValue b))).Shows names bs := by
  refine ⟨rfl, List.forall₂_map_right_iff.2 (List.forall₂_same.2 fun b hb => ?_)⟩
  refine (mapM_eq_ok_iff fun _ _ => cellValue_eq).2 ⟨fun name hname => ?_, rfl⟩
  obtain ⟨v, hv, -⟩ := hcells b hb name (List.mem_eraseDups.1 hname)
  exact ⟨v, hv⟩

/-- The bindings make the table that shows them just if no column is filled twice and all cells are strings. -/
theorem exists_tableOf_shows (hnames : names ≠ []) :
    (∃ t, bs.mapM (cellsOf names) >>= tableOf names = .ok t ∧ t.Shows names bs) ↔
      (names.Nodup ∨ bs = []) ∧ ∀ b ∈ bs, ∀ name ∈ names, HasCell b name := by
  have hencodable : checkEncodable (names.eraseDups.map (columnOf names bs)).flatten = .ok () ↔
      ∀ b ∈ bs, ∀ name ∈ names, ∀ ns, cellValue b name ≠ .codePoints ns := by
    rw [checkEncodable_eq_ok]
    simp only [List.mem_flatten, List.mem_map, List.mem_eraseDups]
    constructor
    · intro h b hb name hname
      exact h _ ⟨_, ⟨name, hname, rfl⟩, (mem_columnOf hname).2 ⟨b, hb, rfl⟩⟩
    · rintro h v ⟨_, ⟨name, hname, rfl⟩, hv⟩
      obtain ⟨b, hb, rfl⟩ := (mem_columnOf hname).1 hv
      exact h b hb name hname
  constructor
  · rintro ⟨t, ht, hshows⟩
    obtain ⟨entries, hentries, ht⟩ := bind_eq_ok.1 ht
    obtain ⟨hcells, rfl⟩ := mapM_cellsOf_eq_ok.1 hentries
    simp only [tableOf, funext columnCells_eq] at ht
    obtain ⟨_, hcheck, ht⟩ := bind_eq_ok.1 ht
    obtain ⟨rows, hrows, ht⟩ := bind_eq_ok.1 ht
    cases ht
    rw [show rows = _ from hshows.rows_eq] at hrows
    refine ⟨(rowsOf_columnOf_eq_ok hnames).1 hrows, fun b hb name hname => ?_⟩
    exact hasCell_iff.2 ⟨hcells b hb name hname, hencodable.1 hcheck b hb name hname⟩
  · rintro ⟨hcolumns, hcells⟩
    refine ⟨_, ?_, Frame.shows_cellValue hcells⟩
    have hok : ∀ b ∈ bs, ∀ name ∈ names, ∃ v, cell b name = .ok v := fun b hb name hname =>
      (hasCell_iff.1 (hcells b hb name hname)).1
    have hcheck := hencodable.2 fun b hb name hname => (hasCell_iff.1 (hcells b hb name hname)).2
    refine bind_eq_ok.2 ⟨_, mapM_cellsOf_eq_ok.2 ⟨hok, rfl⟩, ?_⟩
    simp only [tableOf, funext columnCells_eq]
    exact bind_eq_ok.2 ⟨(), hcheck, bind_eq_ok.2 ⟨_, (rowsOf_columnOf_eq_ok hnames).2 hcolumns, rfl⟩⟩

end Tables

/-! ## Selections -/

/-- The table of the names asked for, or of all variables of the patterns, on the present state of a store. -/
def Store.selection (s : Store) (patterns : List Pattern) (g : Option Term) (names : Option (List String)) :
    Except Fault Frame := do
  let plan ← Plan.make s.settings.workers s.registry (.opened s.index) () patterns (s.graph g)
  s.select plan (names.getD (Store.variableNames patterns))

theorem perform_select (session : Session) (patterns : List Pattern) (g : Option Term)
    (names : Option (List String)) : (Session.perform (Session.select patterns g names) session).1 =
      session.store.selection patterns g names := by
  simp only [Session.perform, Session.select, Session.planOnce, Session.planWith, Session.evaluate,
    Session.run_bind, Session.run_get, Session.run_record, Session.run_ofResult, Store.selection, Plan.make,
    Store.evaluate]
  cases (Evaluation.ofPatterns session.store.settings.workers session.store.registry
    (.opened session.store.index) (some (session.store.graph g)) patterns).all with
  | error e => rfl
  | ok results =>
    simp only [ok_bind]
    cases Plan.ofResults results (session.store.graph g) () with
    | error e => rfl
    | ok plan => rfl

namespace Store

variable {registry : Registry} {s : Store} {patterns : List Pattern} {g : Option Term} {bs : List Binding}
  {c : Context}

theorem selection_eq (h : s.answers patterns g = .ok (bs, c)) (names : Option (List String)) :
    s.selection patterns g names = bs.mapM (cellsOf (names.getD (variableNames patterns))) >>=
      tableOf (names.getD (variableNames patterns)) := by
  obtain ⟨plan, hplan, h⟩ := bind_eq_ok.1 h
  obtain ⟨drained, hdrained, h⟩ := bind_eq_ok.1 h
  rw [selection, hplan, ok_bind, select, hdrained, ok_bind]
  cases hstop : drained.stop with
  | failed f =>
    simp only [hstop] at h
    cases h
  | _ =>
    simp only [hstop] at h
    cases h
    rfl

theorem answers_nil (h : s.answers [] g = .ok (bs, c)) : bs = [] := by
  have hmake : Plan.make s.settings.workers s.registry (.opened s.index) () [] (s.graph g) = .ok .nothing := by
    rfl
  cases hsize : PageSize.ofValue s.settings.fetchSize with
  | error f =>
    rw [answers, hmake, ok_bind, answer, Cursor.make, hsize] at h
    cases h
  | ok size =>
    obtain ⟨hdrained, hstop⟩ :=
      Cursor.drain_done (c := cursorOf .nothing size) (s := s.around .nothing size) rfl rfl rfl
    rw [answers_of_plan hmake hsize, hstop, hdrained] at h
    cases h
    rfl

theorem canonical_of_mem_slotRow {d : Document} (hd : d.IsTriple) {slots : List (Slot × Term)}
    {entry : String × String} (h : entry ∈ slotRow d slots) : IsCanonical entry.2 := by
  induction slots with
  | nil => cases h
  | cons first slots ih =>
    unfold slotRow at h
    split at h
    · cases h
    · next slot name rest heq =>
      cases heq
      rcases List.mem_cons.1 h with rfl | h
      · obtain ⟨text, htext, hcanonical⟩ := hd slot
        rwa [slotText_eq htext]
      · exact ih h
    · next heq =>
      cases heq
      exact ih h

theorem canonical_of_mem_candidateRows {pg : Pattern × Term} (htriples : ∀ q d, s.index.at? q = some d → d.IsTriple)
    {row : Row} (hrow : row ∈ candidateRows registry s.index pg) {entry : String × String} (h : entry ∈ row) :
    IsCanonical entry.2 := by
  obtain ⟨d, hd, rfl⟩ := List.mem_map.1 hrow
  obtain ⟨q, -, hq⟩ := List.mem_filterMap.1 hd
  exact canonical_of_mem_slotRow (htriples q d hq) h

theorem canonical_of_mem_sections {pgs : List (Pattern × Term)}
    (htriples : ∀ q d, s.index.at? q = some d → d.IsTriple) {rows : List Row}
    (hrows : rows ∈ (pgs.map (candidateRows registry s.index)).sections) {entry : String × String}
    (h : entry ∈ rows.flatten) : IsCanonical entry.2 := by
  have hchosen : List.Forall₂ (fun row pg => row ∈ candidateRows registry s.index pg) rows pgs :=
    List.forall₂_map_right_iff.1 (List.mem_sections.1 hrows)
  clear hrows
  induction hchosen with
  | nil => cases h
  | cons hfirst _ ih =>
    rw [List.flatten_cons, List.mem_append] at h
    rcases h with h | h
    · exact canonical_of_mem_candidateRows htriples hfirst h
    · exact ih h

/-- Where the texts of all documents are canonical, every value of an answer has a form, and it is a string. -/
theorem hasCell_of_canonical (hs : Reachable registry s) (htriples : ∀ q d, s.index.at? q = some d → d.IsTriple)
    (h : s.answers patterns g = .ok (bs, c)) : ∀ b ∈ bs, ∀ name, HasCell b name := by
  intro b hb name
  by_cases hpatterns : patterns = []
  · subst hpatterns
    rw [answers_nil h] at hb
    cases hb
  · rcases answers_cases hs htriples hpatterns g with ⟨-, result, hresult, hjoin⟩ | ⟨-, f, hf⟩
    · cases h.symm.trans hresult
      obtain ⟨rows, hrows, hrow⟩ := List.mem_flatMap.1 (hjoin.mem_iff.1 (List.mem_map_of_mem hb))
      split at hrow
      · have hget : b.get? = Row.term? rows.flatten := List.mem_singleton.1 hrow
        cases hlookup : rows.flatten.lookup name with
        | none =>
          have hnone : b.get? name = none := (congrFun hget name).trans (Row.term?_eq_none hlookup)
          exact ⟨.null, by rw [cell, hnone], nofun⟩
        | some text =>
          have hcanonical := canonical_of_mem_sections htriples hrows (Table.mem_of_lookup hlookup)
          obtain ⟨t, ht, hterm⟩ := Row.term?_eq_some hcanonical hlookup
          have hsome : b.get? name = some t := (congrFun hget name).trans hterm
          have hform : t.form = .ok text := form_of_isCanonical hcanonical ht
          refine ⟨.text text, ?_, nofun⟩
          rw [cell, hsome]
          show t.formValue = .ok (.text text)
          unfold Term.formValue
          rw [hform]
      · cases hrow
    · cases h.symm.trans hf

end Store

/-- A selection succeeds with the table that shows the answers of the query just if no name is asked for twice, or
there are no answers, and every value that is asked for has a form that is a string. The names that are asked for
if none are given are the variables of the patterns, each once, and where the texts of all documents are canonical
all values have such forms. -/
theorem select_shows {session : Session} {patterns : List Pattern} {g : Option Term}
    {names : Option (List String)} {answers : List Binding} {context : Context}
    (hquery : (Session.perform (Session.query patterns g) session).1 = .ok (answers, context))
    (hnames : names.getD (Store.variableNames patterns) ≠ []) :
    ((∃ t, (Session.perform (Session.select patterns g names) session).1 = .ok t ∧
        t.Shows (names.getD (Store.variableNames patterns)) answers) ↔
      ((names.getD (Store.variableNames patterns)).Nodup ∨ answers = []) ∧
        ∀ b ∈ answers, ∀ name ∈ names.getD (Store.variableNames patterns), HasCell b name) ∧
    (Store.variableNames patterns).Nodup ∧
    ∀ registry, session.store.Reachable registry → (∀ q d, session.store.index.at? q = some d → d.IsTriple) →
      ∀ b ∈ answers, ∀ name, HasCell b name := by
  rw [perform_query] at hquery
  refine ⟨?_, nodup_eraseDups _, fun _ hs htriples => Store.hasCell_of_canonical hs htriples hquery⟩
  rw [perform_select, Store.selection_eq hquery]
  exact exists_tableOf_shows hnames

/-- What is said by `urn:p`. -/
def whoSaysWhat : List Pattern := [⟨.var "s", .iri "urn:p", .var "o"⟩]

theorem select_shows_whoSaysWhat : ∃ s answers context,
    storeOf [saying "urn:a" "urn:p" "x", saying "urn:b" "urn:p" "y"] = .ok s ∧
    (Session.perform (Session.query whoSaysWhat none) (.ofStore s)).1 = .ok (answers, context) ∧ answers.length = 2 ∧
    ∃ t, (Session.perform (Session.select whoSaysWhat none (some ["o", "unbound", "s"])) (.ofStore s)).1 = .ok t ∧
      t.Shows ["o", "unbound", "s"] answers := by
  have hrun : (do
      let s ← storeOf [saying "urn:a" "urn:p" "x", saying "urn:b" "urn:p" "y"]
      return (decide (∀ e ∈ s.index.documents, e.2.fields.IsTriple), ← s.answersInOrder whoSaysWhat)).toOption =
      some (true, 2) := by decide +kernel
  obtain ⟨s, hs, hrun⟩ := bind_eq_ok.1 (toOption_eq_some.1 hrun)
  obtain ⟨n, hn, hrun⟩ := bind_eq_ok.1 hrun
  obtain ⟨hdocuments, rfl⟩ := Prod.mk.inj (Except.ok.inj hrun)
  obtain ⟨⟨answers, context⟩, hanswers, hlength⟩ := Store.answers_of_inOrder hn
  have hreachable := reachable_storeOf hs
  have htriples : ∀ q d, s.index.at? q = some d → d.IsTriple := by
    intro q d hd
    obtain ⟨e, he, -, rfl⟩ := hreachable.maintained.index.sound.at?_eq_some.1 hd
    exact of_decide_eq_true hdocuments e he
  have hquery : (Session.perform (Session.query whoSaysWhat none) (.ofStore s)).1 = .ok (answers, context) := by
    rw [perform_query]
    exact hanswers
  have hnames : (some ["o", "unbound", "s"]).getD (Store.variableNames whoSaysWhat) ≠ [] := by decide
  obtain ⟨hshows, -, hcells⟩ := select_shows hquery hnames
  refine ⟨s, answers, context, hs, hquery, hlength, hshows.2 ⟨.inl (by decide), fun b hb name _ => ?_⟩⟩
  exact hcells .default hreachable htriples b hb name

/-- A name that is asked for twice fills its column twice, so there is no table with one row for the one answer. -/
theorem select_shows_askedTwice : ∃ s answers context, storeOf [saying "urn:a" "urn:p" "x"] = .ok s ∧
    s.Reachable .default ∧
    (Session.perform (Session.query whoSaysWhat none) (.ofStore s)).1 = .ok (answers, context) ∧ answers.length = 1 ∧
    ∀ names ∈ [["s", "s", "o"], ["s", "s"]],
      ¬ ∃ t, (Session.perform (Session.select whoSaysWhat none (some names)) (.ofStore s)).1 = .ok t ∧
        t.Shows names answers := by
  have hrun : (do
      let s ← storeOf [saying "urn:a" "urn:p" "x"]
      s.answersInOrder whoSaysWhat).toOption = some 1 := by decide +kernel
  obtain ⟨s, hs, hn⟩ := bind_eq_ok.1 (toOption_eq_some.1 hrun)
  obtain ⟨⟨answers, context⟩, hanswers, hlength⟩ := Store.answers_of_inOrder hn
  refine ⟨s, answers, context, hs, reachable_storeOf hs, ?_, hlength, fun names hnames => ?_⟩
  · rw [perform_query]
    exact hanswers
  · have hnil : answers ≠ [] := List.ne_nil_of_length_pos (Nat.lt_of_lt_of_eq Nat.zero_lt_one hlength.symm)
    have hasked : names ≠ [] ∧ ¬ names.Nodup := by
      revert names
      decide
    rw [perform_select, show (Session.ofStore s).store = s from rfl, Store.selection_eq hanswers, Option.getD_some,
      exists_tableOf_shows hasked.1]
    rintro ⟨hcolumns, -⟩
    exact hcolumns.elim hasked.2 hnil

end TripleIndex
