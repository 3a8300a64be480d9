import TripleIndex.Proofs.Join.Answers
import TripleIndex.Proofs.Join.Drain
import TripleIndex.Proofs.Plans.Evaluations

/-!
Plans answer joins. A plan for patterns, made at once or merged from plans over the same snapshot, has
their candidates as its steps, or one of them selects nothing. So a cursor over the plan delivers the
answers of the join, whatever the order of the patterns, the size of the pages and the driver.
-/

namespace TripleIndex

/-- Plans that are made for patterns, each in its graph, over one snapshot. -/
inductive PlanOf (registry : Registry) (ix : Index) {ρ : Type} : List (Pattern × Term) → Plan ρ → Prop
  | made {workers : JsonValue} {name : ρ} {patterns : List Pattern} {graph : Term} {plan : Plan ρ}
      (hpatterns : patterns ≠ [])
      (hmake : Plan.make workers registry (.opened ix) name patterns graph = .ok plan) :
      PlanOf registry ix (patterns.map (·, graph)) plan
  | merged {pgs qgs : List (Pattern × Term)} {first second : Plan ρ} (hfirst : PlanOf registry ix pgs first)
      (hsecond : PlanOf registry ix qgs second) :
      PlanOf registry ix (pgs ++ qgs) (Plan.merge first second)

def Candidates.joined (c : Candidates) : Option Pattern × IdSet := (c.pattern, c.ids)

section Plans

variable {registry : Registry} {ix : Index} {ρ : Type}

theorem joined_evaluate (registry : Registry) (ix : Index) (graph : Term) (p : Pattern) (position : Nat) :
    (Candidates.evaluate registry (.opened ix) (some graph) p position).joined =
      (some p, candidateSet registry ix (p, graph)) := by
  have hread : ∀ f, (Reader.opened ix).evaluate f none = ix.evaluate f none := fun _ => rfl
  unfold Candidates.evaluate candidateSet
  simp only [hread]
  cases compile registry p (some graph) with
  | error e => rfl
  | ok f =>
    dsimp only
    cases ix.evaluate f none with
    | error e => rfl
    | ok ids => rfl

theorem joined_evaluateFrom (registry : Registry) (ix : Index) (graph : Term) (position : Nat) (ps : List Pattern) :
    (Candidates.evaluateFrom registry (.opened ix) (some graph) position ps).map Candidates.joined =
      ps.map fun p => (some p, candidateSet registry ix (p, graph)) := by
  induction ps generalizing position with
  | nil => rfl
  | cons p ps ih => rw [Candidates.evaluateFrom_cons, List.map_cons, joined_evaluate, ih, List.map_cons]

/-- A plan has the candidates of its patterns as steps, or one of them selects nothing. -/
def Plan.Joins (registry : Registry) (ix : Index) (pgs : List (Pattern × Term)) (plan : Plan ρ) : Prop :=
  (plan.isEmpty = true ∧ ∃ pg ∈ pgs, candidateSet registry ix pg = .empty) ∨
    (plan.isEmpty = false ∧ (plan.steps.map Candidates.joined).Perm
      (pgs.map fun pg => (some pg.1, candidateSet registry ix pg)))

theorem joins_order {steps : List Candidates} {pgs : List (Pattern × Term)} (hsteps : steps ≠ [])
    (hperm : (steps.map Candidates.joined).Perm (pgs.map fun pg => (some pg.1, candidateSet registry ix pg)))
    (graph : Option String) (reader : Option ρ) : (Plan.order steps graph reader).Joins registry ix pgs := by
  rcases Plan.order_cases hsteps graph reader with ⟨hempty, c, hc, hids⟩ | ⟨hempty, hordered⟩
  · obtain ⟨pg, hpg, heq⟩ := List.mem_map.1 (hperm.mem_iff.1 (List.mem_map_of_mem hc))
    exact .inl ⟨hempty, pg, hpg, (congrArg Prod.snd heq).trans hids⟩
  · exact .inr ⟨hempty, (hordered.map _).trans hperm⟩

theorem PlanOf.joins {pgs : List (Pattern × Term)} {plan : Plan ρ} (h : PlanOf registry ix pgs plan) :
    plan.Joins registry ix pgs := by
  induction h with
  | @made workers name patterns graph plan hpatterns hmake =>
    rw [Plan.make_eq _ _ _ _ hpatterns] at hmake
    split at hmake
    · obtain ⟨text, -, rfl⟩ := map_eq_ok.1 hmake
      refine joins_order (mt Candidates.evaluateFrom_eq_nil.1 hpatterns) (List.Perm.of_eq ?_) ..
      rw [joined_evaluateFrom, List.map_map]
      rfl
    · cases hmake
  | @merged pgs qgs first second hfirst hsecond ihfirst ihsecond =>
    unfold Plan.merge
    rcases ihfirst with ⟨hempty, pg, hpg, hids⟩ | ⟨hfirstEmpty, hperm⟩
    · rw [hempty]
      exact .inl ⟨rfl, pg, List.mem_append_left _ hpg, hids⟩
    rcases ihsecond with ⟨hempty, pg, hpg, hids⟩ | ⟨hsecondEmpty, hperm'⟩
    · rw [hempty, Bool.or_true]
      exact .inl ⟨rfl, pg, List.mem_append_right _ hpg, hids⟩
    rw [hfirstEmpty, hsecondEmpty]
    simp only [Bool.or_self, Bool.false_eq_true, if_false]
    -- neither plan comes to nothing, so there is something to put in order
    have hne : first.steps ++ second.steps ≠ [] := by
      intro hnil
      rw [Plan.isEmpty, (List.append_eq_nil_iff.1 hnil).1] at hfirstEmpty
      cases hfirstEmpty
    refine joins_order hne ?_ ..
    rw [List.map_append, List.map_append]
    exact hperm.append hperm'

end Plans

/-! ## Draining -/

theorem Index.Sound.type?_slot {ix : Index} (h : ix.Sound) {q : Place} {d : Document}
    (hd : ix.at? q = some d) (htriple : d.IsTriple) (slot : Slot) :
    ix.schema.type? slot.field = some .text := by
  obtain ⟨s, hs, -⟩ := htriple slot
  obtain ⟨e, he, -, rfl⟩ := h.at?_eq_some.1 hd
  obtain ⟨v, -, hconvert⟩ := h.converted e he _ (Table.mem_of_lookup hs)
  obtain ⟨t, ht, hconvert⟩ := Schema.convert_eq_ok.1 hconvert
  have htext : some true = some t.isText := FieldType.isText?_of_convert hconvert
  rw [ht, of_decide_eq_true (Option.some.inj htext).symm]

namespace Cursor

variable {registry : Registry} {ix : Index} {schema : Schema} {ρ : Type} {pgs : List (Pattern × Term)}

theorem drain_done {c : Cursor} {s : Surroundings} (hfault : c.fault = none) (hlookahead : c.lookahead = none)
    (hdone : c.done = true) : (c.drain none s).answers = [] ∧ (c.drain none s).stop = .exhausted := by
  have hnext : c.next s = (.error .exhausted, c, s) := by
    rw [next, hasNext, hfault]
    simp [hlookahead, hdone]
  obtain ⟨fuel, hfuel⟩ : ∃ fuel, c.pullsLeft = fuel + 1 := ⟨_, rfl⟩
  rw [drain, hfuel, drainFrom, if_neg (by simp), hnext]
  exact ⟨rfl, rfl⟩

theorem joinAnswers_eq_nil {pg : Pattern × Term} (hpg : pg ∈ pgs)
    (hids : candidateSet registry ix pg = .empty) : joinAnswers registry ix pgs = [] := by
  have hrows : candidateRows registry ix pg = [] := by
    rw [candidateRows, hids]
    rfl
  obtain ⟨front, back, rfl⟩ := List.append_of_mem hpg
  have hfirst := joinAnswers_congr_perm registry ix (@List.perm_middle _ pg front back)
  have hnone := answersAfter_cons [] (candidateRows registry ix pg) ((front ++ back).map (candidateRows registry ix))
  rw [hrows, List.flatMap_nil] at hnone
  refine (hfirst.trans ?_).eq_nil
  rw [joinAnswers, List.map_cons, hrows]
  exact hnone

/-- What the loops of a plan with steps answer is what the join of its patterns answers. -/
theorem planLoops_spec (h : Index.Reachable schema ix) (htriples : ∀ q d, ix.at? q = some d → d.IsTriple)
    {driver : Candidates} {below : List Candidates} (hdriver : driver.cardinality ≠ 0)
    (hjoined : ((driver :: below).map Candidates.joined).Perm
      (pgs.map fun pg => (some pg.1, candidateSet registry ix pg))) :
    (planLoops (.opened ix) (driver :: below)).fault = none ∧
      ((planLoops (.opened ix) (driver :: below)).answers.map Binding.get?).Perm
        (joinAnswers registry ix pgs) := by
  have hsteps : ∀ c ∈ driver :: below, ∃ pg ∈ pgs, c.pattern = some pg.1 ∧ c.ids = candidateSet registry ix pg := by
    intro c hc
    obtain ⟨pg, hpg, heq⟩ := List.mem_map.1 (hjoined.mem_iff.1 (List.mem_map_of_mem hc))
    exact ⟨pg, hpg, congrArg Prod.fst heq.symm, congrArg Prod.snd heq.symm⟩
  have hstored : ∀ c ∈ driver :: below, c.pattern.isSome ∧ ∀ q ∈ c.ids, ∃ d, ix.at? q = some d := by
    intro c hc
    obtain ⟨pg, -, hpattern, hids⟩ := hsteps c hc
    rw [hpattern, hids]
    exact ⟨rfl, fun q hq => h.stored_of_mem_candidateSet hq⟩
  -- the driver has a document, and its texts show that the fields of the slots are there
  have htext : ∀ slot : Slot, schema.type? slot.field = some .text := by
    obtain ⟨id, hid⟩ := List.exists_mem_of_ne_nil driver.ids.toList fun hnil => hdriver (congrArg List.length hnil)
    obtain ⟨d, hd⟩ := (hstored driver List.mem_cons_self).2 id.place (List.mem_map_of_mem hid)
    rw [← h.maintained.schema_eq]
    exact h.maintained.sound.type?_slot hd (htriples _ d hd)
  have horder : Reader.checkOrder driver.ids = .ok () := by
    refine h.checkOrder fun q hq => ?_
    obtain ⟨pg, -, -, hids⟩ := hsteps driver List.mem_cons_self
    exact h.stored_of_mem_candidateSet (hids ▸ hq)
  have hpattern : driver.pattern.isSome := (hstored driver List.mem_cons_self).1
  obtain ⟨hfault, hperm⟩ := loops_spec h.maintained htext htriples hstored Binding.stands_nil
    (by simp [Row.Agrees])
  rw [planLoops_eq_loops hpattern horder]
  refine ⟨hfault, hperm.trans ?_⟩
  have hrows : (driver :: below).map (Candidates.rows ix) =
      ((driver :: below).map Candidates.joined).map fun j =>
        (ix.documentsOf j.2).map fun d => (j.1.map (·.row d)).getD [] := by
    rw [List.map_map]
    rfl
  have hchoices : pgs.map (candidateRows registry ix) =
      (pgs.map fun pg => (some pg.1, candidateSet registry ix pg)).map fun j =>
        (ix.documentsOf j.2).map fun d => (j.1.map (·.row d)).getD [] := by
    rw [List.map_map]
    rfl
  rw [joinAnswers, hrows, hchoices]
  exact answersAfter_perm (hjoined.map _)

/-- A cursor over a plan, whose reader is open as long as the plan has steps to read. -/
theorem drain_planOf (h : Index.Reachable schema ix) (htriples : ∀ q d, ix.at? q = some d → d.IsTriple)
    {plan : Plan ρ} (hplan : PlanOf registry ix pgs plan) {n : Int} (hn : 1 ≤ n) (owns : Bool)
    {s : Surroundings} (hreader : plan.isEmpty = false → s.reader = .opened ix) (hgoing : s.cancelled = false)
    (htime : s.context.HasTime) {c : Cursor}
    (hc : c = ⟨plan.steps, .rows n hn, owns, [], none, none, false, plan.isEmpty⟩) :
    (c.drain none s).stop = .exhausted ∧ ∀ qgs, pgs.Perm qgs →
      ((c.drain none s).answers.map Binding.get?).Perm (joinAnswers registry ix qgs) := by
  subst hc
  rcases hplan.joins with ⟨hempty, pg, hpg, hids⟩ | ⟨hempty, hjoined⟩
  · obtain ⟨hanswers, hstop⟩ := drain_done (s := s)
      (c := ⟨plan.steps, .rows n hn, owns, [], none, none, false, plan.isEmpty⟩) rfl rfl hempty
    refine ⟨hstop, fun qgs hqgs => ?_⟩
    rw [hanswers, joinAnswers_eq_nil (hqgs.mem_iff.1 hpg) hids]
    exact List.Perm.refl _
  · have hreader := hreader hempty
    rw [hempty]
    cases hsteps : plan.steps with
    | nil =>
      rw [Plan.isEmpty, hsteps] at hempty
      cases hempty
    | cons driver below =>
      have hdriver : driver.cardinality ≠ 0 := by
        rw [Plan.isEmpty, hsteps] at hempty
        simpa using hempty
      rw [hsteps] at hjoined
      obtain ⟨hloops, hperm⟩ := planLoops_spec h htriples hdriver hjoined
      obtain ⟨hanswers, hstop⟩ := drain_steps hn owns hreader hgoing htime hloops
      refine ⟨hstop, fun qgs hqgs => ?_⟩
      rw [hanswers]
      exact hperm.trans (joinAnswers_congr_perm registry ix hqgs)

/-- A cursor over a plan delivers the answers of the join of its patterns, in whatever order these are
given and whatever the size of the pages. -/
theorem drain_answers (h : Index.Reachable schema ix) (htriples : ∀ q d, ix.at? q = some d → d.IsTriple)
    {plan : Plan ρ} (hplan : PlanOf registry ix pgs plan) {n : Int} (hn : 1 ≤ n) (owns : Bool)
    {s : Surroundings} (hreader : s.reader = .opened ix) (hgoing : s.cancelled = false)
    (htime : s.context.HasTime) :
    ∃ c, make plan true (.ofInt n) owns = .ok c ∧ (c.drain none s).stop = .exhausted ∧
      ∀ qgs, pgs.Perm qgs →
        ((c.drain none s).answers.map Binding.get?).Perm (joinAnswers registry ix qgs) :=
  ⟨_, make_eq plan hn owns, drain_planOf h htriples hplan hn owns (fun _ => hreader) hgoing htime rfl⟩

/-- One triple that says who knows whom, in the graph `urn:g`. -/
def acquaintance (id subject object : String) : Document := [
  (Field.id, .text id), (Field.context, .text "<urn:g>"), (Field.subject, .text subject),
  (Field.predicate, .text "<urn:knows>"), (Field.object, .text object)]

def acquaintances : Except Fault Index := do
  let ix ← (Index.empty Schema.triples).write (acquaintance "1" "<urn:a>" "<urn:b>")
  ix.write (acquaintance "2" "<urn:b>" "<urn:b>")

def knows (subject object : String) : Pattern := ⟨.var subject, .iri "urn:knows", .var object⟩

def planOfKnows (ix : Index) : Except Fault (Plan Unit) :=
  Plan.make (.ofInt 1) .default (.opened ix) () [knows "x" "y", knows "y" "y"] (.iri "urn:g")

theorem drain_answers_knows : ∃ ix plan, acquaintances = .ok ix ∧ planOfKnows ix = .ok plan ∧
    ∃ c, make plan true (.ofInt 1) true = .ok c ∧
      (c.drain none ⟨.opened ix, .fresh none, false⟩).stop = .exhausted ∧
      ∀ qgs, [(knows "x" "y", .iri "urn:g"), (knows "y" "y", .iri "urn:g")].Perm qgs →
        ((c.drain none ⟨.opened ix, .fresh none, false⟩).answers.map Binding.get?).Perm
          (joinAnswers .default ix qgs) := by
  -- The kernel runs the two insertions and the plan. The theorem itself is applied to what they give.
  have hrun : (acquaintances.toOption.any fun ix =>
      decide (∀ e ∈ ix.documents, e.2.fields.IsTriple) && (planOfKnows ix).isOk) = true := by
    decide +kernel
  have hproper : ∀ id subject object, (acquaintance id subject object).IsProper := by
    intro id subject object
    refine ⟨?_, by simp [acquaintance, Scalar.IsProper]⟩
    simp [Table.Distinct, acquaintance, Field.id, Field.context, Field.subject, Field.predicate, Field.object]
  cases hix : acquaintances with
  | error e =>
    rw [hix] at hrun
    cases hrun
  | ok ix =>
    rw [hix] at hrun
    obtain ⟨htriples, hplan⟩ := Bool.and_eq_true_iff.1 hrun
    obtain ⟨first, hfirst, hsecond⟩ := bind_eq_ok.1 hix
    have hreachable : Index.Reachable Schema.triples ix :=
      .write (.write .empty (hproper ..) hfirst) (hproper ..) hsecond
    have htriples : ∀ q d, ix.at? q = some d → d.IsTriple := by
      intro q d hd
      obtain ⟨e, he, -, rfl⟩ := hreachable.maintained.sound.at?_eq_some.1 hd
      exact of_decide_eq_true htriples e he
    cases hmake : planOfKnows ix with
    | error e =>
      rw [hmake] at hplan
      cases hplan
    | ok plan =>
      have hplan : PlanOf .default ix ([knows "x" "y", knows "y" "y"].map (·, .iri "urn:g")) plan :=
        .made (by simp) hmake
      have htime : (Context.fresh none).HasTime := by simp [Context.HasTime, Context.fresh]
      refine ⟨ix, plan, rfl, hmake, ?_⟩
      exact drain_answers hreachable htriples hplan (by decide) true
        (s := ⟨.opened ix, .fresh none, false⟩) rfl rfl htime

end Cursor

end TripleIndex
