import TripleIndex.Proofs.Deletions.Stores
import TripleIndex.Proofs.Join.Correctness
import TripleIndex.Proofs.Operations

/-!
Queries whose patterns come in another order. Which pattern drives the join and how the others follow
depends on the order where the numbers of candidates are equal, and what is bound first decides how a text
is written. Where all texts of the documents are canonical neither makes a difference: a query answers
what the join of its patterns answers, each answer as often, and whether it is refused depends on the
patterns and the settings alone.
-/

namespace TripleIndex

/-! ## Plans -/

section Plans

variable {ρ : Type}

theorem isEmpty_order_iff {steps : List Candidates} (hsteps : steps ≠ []) (graph : Option String)
    (reader : Option ρ) : (Plan.order steps graph reader).isEmpty = true ↔ ∃ c ∈ steps, c.ids = .empty := by
  rw [Plan.isEmpty_order_eq, Plan.isVoid_eq_true]
  simp only [hsteps, false_or, Candidates.cardinality_eq_zero]

theorem make_cases (registry : Registry) (workers : JsonValue) (ix : Index) (name : ρ) {ps : List Pattern}
    (hps : ps ≠ []) (graph : Term) :
    (((∀ p ∈ ps, p.isWritable = true) ∧ (graphName graph).isOk = true) ∧
      ∃ plan, Plan.make workers registry (.opened ix) name ps graph = .ok plan ∧
        (plan.isEmpty = true ↔ ∃ p ∈ ps, candidateSet registry ix (p, graph) = .empty)) ∨
    (¬ ((∀ p ∈ ps, p.isWritable = true) ∧ (graphName graph).isOk = true) ∧
      ∃ f, Plan.make workers registry (.opened ix) name ps graph = .error f) := by
  rw [Plan.make_eq workers registry _ name hps]
  split
  · next hall =>
    have hwritable : ∀ p ∈ ps, p.isWritable = true := List.all_eq_true.1 hall
    cases hname : graphName graph with
    | error f =>
      refine .inr ⟨fun h => ?_, f, rfl⟩
      cases h.2
    | ok text =>
      have hids : (Candidates.evaluateFrom registry (.opened ix) (some graph) 0 ps).map Candidates.ids =
          ps.map fun p => candidateSet registry ix (p, graph) := by
        have hmap := congrArg (List.map Prod.snd) (joined_evaluateFrom registry ix graph 0 ps)
        simpa only [List.map_map, Function.comp_def, Candidates.joined] using hmap
      have hne : Candidates.evaluateFrom registry (.opened ix) (some graph) 0 ps ≠ [] :=
        mt Candidates.evaluateFrom_eq_nil.1 hps
      refine .inl ⟨⟨hwritable, rfl⟩, _, rfl, (isEmpty_order_iff hne _ _).trans ?_⟩
      calc (∃ c ∈ Candidates.evaluateFrom registry (.opened ix) (some graph) 0 ps, c.ids = .empty)
          ↔ IdSet.empty ∈ (Candidates.evaluateFrom registry (.opened ix) (some graph) 0 ps).map Candidates.ids :=
            List.mem_map.symm
        _ ↔ ∃ p ∈ ps, candidateSet registry ix (p, graph) = .empty := by rw [hids, List.mem_map]
  · next hall =>
    refine .inr ⟨fun h => hall (List.all_eq_true.2 h.1), _, rfl⟩

end Plans

/-! ## Pages that cannot be cut -/

theorem Level.fetch_fraction (r : Reader) (driver : Candidates) (below : List Candidates) :
    ∃ f, (Level.paged driver below).fetch r .fraction = .error f := by
  cases r with
  | closed => exact ⟨_, rfl⟩
  | opened ix =>
    simp only [Level.paged, Level.fetch, Reader.snapshot, PageSize.count, ok_bind]
    cases Reader.checkOrder driver.ids with
    | error f => exact ⟨f, rfl⟩
    | ok u => exact ⟨_, rfl⟩

namespace Cursor

/-- The end of the answers is a fault too, but no page fails by it. -/
theorem reported_ne_exhausted (f : Fault) : reported f ≠ .exhausted := by
  intro heq
  unfold reported at heq
  split at heq
  · next hkind => rw [heq] at hkind; cases hkind
  · next hkind => rw [heq] at hkind; cases hkind
  · cases heq

theorem drain_of_next_failed {c later : Cursor} {s after : Surroundings} {f : Fault} (hf : f ≠ .exhausted)
    (hnext : c.next s = (.error f, later, after)) : (c.drain none s).stop = .failed f := by
  obtain ⟨fuel, hfuel⟩ : ∃ fuel, c.pullsLeft = fuel + 1 := ⟨_, rfl⟩
  rw [drain, hfuel, drainFrom, if_neg (by simp), hnext]
  split
  · next heq => cases (Prod.mk.inj heq).1
  · next heq => exact absurd (Except.error.inj (Prod.mk.inj heq).1) hf
  · next heq => rw [Except.error.inj (Prod.mk.inj heq).1]

/-- A cursor whose pages have no whole number of rows fails at its first answer. -/
theorem drain_fraction {steps : List Candidates} (hsteps : steps ≠ []) (owns : Bool) {s : Surroundings}
    (hgoing : s.cancelled = false) (htime : s.context.HasTime) :
    ∃ f, (drain ⟨steps, .fraction, owns, [], none, none, false, false⟩ none s).stop = .failed f := by
  obtain ⟨c, hc⟩ : ∃ c : Cursor, c = ⟨steps, .fraction, owns, [], none, none, false, false⟩ := ⟨_, rfl⟩
  obtain ⟨driver, below, rfl⟩ := List.exists_cons_of_ne_nil hsteps
  have hwaits : c.Waits := by
    rw [hc]
    exact ⟨rfl, rfl, rfl, rfl⟩
  obtain ⟨running, hrunning⟩ : ∃ context, c.running s.context = context := ⟨_, rfl⟩
  have htime : running.HasTime := by
    rw [← hrunning, Cursor.running]
    split
    · exact htime
    · exact htime
  obtain ⟨f, hfetch⟩ := Level.fetch_fraction s.reader driver below
  have hwalk : ∀ fuel, walk s.reader .fraction false (fuel + 1) [.paged driver below] running =
      .failed f running := by
    intro fuel
    simp only [walk, walkStep, htime.check, hfetch]
  have hnext : ∃ c' s', c.next s = (.error (reported f), c', s') := by
    have hstack : c.begun.stack = [.paged driver below] := by rw [hc]; rfl
    have hsize : c.begun.size = .fraction := by rw [hc]; rfl
    have hbegun : c.begun.hasNext { s with context := running } = c.begun.pull { s with context := running } :=
      hasNext_eq_pull hwaits.fault hwaits.lookahead hwaits.done
    have hbegin : c.begun.begin running = (c.begun, running) := rfl
    rw [hwaits.next_begun, hrunning, next, hbegun, pull]
    simp only [hbegin, hstack, hsize, hgoing, hwalk]
    exact ⟨_, _, rfl⟩
  obtain ⟨c', s', hnext⟩ := hnext
  rw [← hc]
  exact ⟨reported f, drain_of_next_failed (reported_ne_exhausted f) hnext⟩

end Cursor

/-! ## Settings -/

namespace Store

variable {registry : Registry} {s : Store}

theorem Reachable.hasTime (h : Reachable registry s) : s.defaultContext.HasTime := by
  -- a limit that is spent would have been a problem of the settings
  have hspent : isSpentLimit s.settings.timeout = .ok false := by
    obtain ⟨workers, -, hproblems⟩ := bind_eq_ok.1 h.problems_eq
    obtain ⟨fetchSize, -, hproblems⟩ := bind_eq_ok.1 hproblems
    obtain ⟨timeout, htimeout, hproblems⟩ := bind_eq_ok.1 hproblems
    rw [htimeout]
    cases timeout with
    | false => rfl
    | true => simp [Settings.problem, pure, Except.pure] at hproblems
  intro limit hlimit
  obtain ⟨v, hv, hlimit⟩ := Option.bind_eq_some_iff.1 hlimit
  split at hlimit
  · cases hlimit
  next hnull =>
  cases hlimit
  cases htimeout : s.settings.timeout with
  | scalar w =>
    rw [htimeout] at hv hspent
    cases hv
    have hnumber : number? (.scalar limit) = if limit.comparable (.int 0) then some limit else none := rfl
    unfold isSpentLimit at hspent
    rw [hnumber] at hspent
    split at hspent
    · next heq => exact absurd (JsonValue.scalar.inj heq) hnull
    · next hsome _ =>
      split at hsome
      · next hcomparable =>
        cases hsome
        exact ⟨hcomparable, Except.ok.inj hspent⟩
      · cases hsome
    · cases hspent
  | _ =>
    rw [htimeout] at hv
    cases hv

/-! ## Queries -/

/-- Whether a query is answered: its patterns can be planned, and its pages can be cut unless no page is
read. -/
def Answers (s : Store) (ps : List Pattern) (g : Option Term) : Prop :=
  ((∀ p ∈ ps, p.isWritable = true) ∧ (graphName (s.graph g)).isOk = true) ∧
    ((∃ n, ∃ hn : 1 ≤ n, PageSize.ofValue s.settings.fetchSize = .ok (.rows n hn)) ∨
      (PageSize.ofValue s.settings.fetchSize = .ok .fraction ∧
        ∃ p ∈ ps, candidateSet s.registry s.index (p, s.graph g) = .empty))

theorem answers_congr_perm {ps qs : List Pattern} (h : ps.Perm qs) (g : Option Term) :
    s.Answers ps g ↔ s.Answers qs g := by
  simp only [Answers, h.mem_iff]

section Planned

variable {ps : List Pattern} {g : Option Term} {plan : Plan Unit} {size : PageSize}

def cursorOf (plan : Plan Unit) (size : PageSize) : Cursor :=
  ⟨plan.steps, size, true, [], none, none, false, plan.isEmpty⟩

def around (s : Store) (plan : Plan Unit) (size : PageSize) : Surroundings :=
  ⟨(cursorOf plan size).readerAtStart (.opened s.index), s.defaultContext, false⟩

variable (hmake : Plan.make s.settings.workers s.registry (.opened s.index) () ps (s.graph g) = .ok plan)
include hmake

theorem answers_of_plan (hsize : PageSize.ofValue s.settings.fetchSize = .ok size) :
    s.answers ps g = match ((cursorOf plan size).drain none (s.around plan size)).stop with
      | .failed f => .error f
      | _ => .ok (((cursorOf plan size).drain none (s.around plan size)).answers,
          ((cursorOf plan size).drain none (s.around plan size)).surroundings.context) := by
  have hanswer : s.answer plan = .ok ((cursorOf plan size).drain none (s.around plan size)) := by
    rw [answer, Cursor.make_of_size plan hsize, ok_bind]
    rfl
  rw [answers, hmake, ok_bind, hanswer, ok_bind]
  rfl

theorem answers_of_exhausted (hsize : PageSize.ofValue s.settings.fetchSize = .ok size)
    (hstop : ((cursorOf plan size).drain none (s.around plan size)).stop = .exhausted) :
    ∃ context, s.answers ps g =
      .ok (((cursorOf plan size).drain none (s.around plan size)).answers, context) := by
  rw [answers_of_plan hmake hsize, hstop]
  exact ⟨_, rfl⟩

theorem answers_rows (h : Reachable registry s) (htriples : ∀ q d, s.index.at? q = some d → d.IsTriple)
    (hps : ps ≠ []) {n : Int} {hn : 1 ≤ n} (hsize : PageSize.ofValue s.settings.fetchSize = .ok (.rows n hn)) :
    ∃ result, s.answers ps g = .ok result ∧
      (result.1.map Binding.get?).Perm (joinAnswers s.registry s.index (ps.map (·, s.graph g))) := by
  have hplan : PlanOf s.registry s.index (ps.map (·, s.graph g)) plan := .made hps hmake
  have hreader : plan.isEmpty = false → (s.around plan (.rows n hn)).reader = .opened s.index := by
    intro hfull
    rw [around, Cursor.readerAtStart, cursorOf, hfull]
    rfl
  obtain ⟨hstop, hperm⟩ :=
    Cursor.drain_planOf h.index htriples hplan hn true hreader rfl h.hasTime rfl
  obtain ⟨context, hanswers⟩ := answers_of_exhausted hmake hsize hstop
  exact ⟨_, hanswers, hperm _ (List.Perm.refl _)⟩

theorem answers_empty (hsize : PageSize.ofValue s.settings.fetchSize = .ok size) (hempty : plan.isEmpty = true)
    (hnone : ∃ p ∈ ps, candidateSet s.registry s.index (p, s.graph g) = .empty) :
    ∃ result, s.answers ps g = .ok result ∧
      (result.1.map Binding.get?).Perm (joinAnswers s.registry s.index (ps.map (·, s.graph g))) := by
  obtain ⟨hdrained, hstop⟩ :=
    Cursor.drain_done (c := cursorOf plan size) (s := s.around plan size) rfl rfl hempty
  obtain ⟨context, hanswers⟩ := answers_of_exhausted hmake hsize hstop
  obtain ⟨p, hp, hids⟩ := hnone
  refine ⟨_, hanswers, ?_⟩
  rw [hdrained, Cursor.joinAnswers_eq_nil (List.mem_map_of_mem hp) hids]
  exact List.Perm.refl _

theorem answers_fraction (h : Reachable registry s)
    (hsize : PageSize.ofValue s.settings.fetchSize = .ok .fraction) (hfull : plan.isEmpty = false) :
    ∃ f, s.answers ps g = .error f := by
  have hsteps : plan.steps ≠ [] := by
    intro hnil
    rw [Plan.isEmpty, hnil] at hfull
    cases hfull
  have hcursor : cursorOf plan .fraction = ⟨plan.steps, .fraction, true, [], none, none, false, false⟩ := by
    rw [cursorOf, hfull]
  obtain ⟨f, hstop⟩ := Cursor.drain_fraction hsteps true (s := s.around plan .fraction) rfl h.hasTime
  rw [← hcursor] at hstop
  rw [answers_of_plan hmake hsize, hstop]
  exact ⟨f, rfl⟩

end Planned

/-- The answers are those of the join of the patterns, and without them the query is refused. -/
theorem answers_cases (h : Reachable registry s) (htriples : ∀ q d, s.index.at? q = some d → d.IsTriple)
    {ps : List Pattern} (hps : ps ≠ []) (g : Option Term) :
    (s.Answers ps g ∧ ∃ result, s.answers ps g = .ok result ∧
      (result.1.map Binding.get?).Perm (joinAnswers s.registry s.index (ps.map (·, s.graph g)))) ∨
    (¬ s.Answers ps g ∧ ∃ f, s.answers ps g = .error f) := by
  rcases make_cases s.registry s.settings.workers s.index () hps (s.graph g) with
    ⟨hplanned, plan, hmake, hempty⟩ | ⟨hnot, f, hmake⟩
  · -- A fraction of a row is refused at the first fetch, so it does no harm to a plan that fetches nothing.
    cases hsize : PageSize.ofValue s.settings.fetchSize with
    | error f =>
      refine .inr ⟨?_, f, ?_⟩
      · rintro ⟨-, ⟨n, hn, hrows⟩ | ⟨hfraction, -⟩⟩
        · cases hsize.symm.trans hrows
        · cases hsize.symm.trans hfraction
      · rw [answers, hmake, ok_bind, answer, Cursor.make, hsize]
        rfl
    | ok size =>
      cases size with
      | rows n hn => exact .inl ⟨⟨hplanned, .inl ⟨n, hn, hsize⟩⟩, answers_rows hmake h htriples hps hsize⟩
      | fraction =>
        by_cases hnone : ∃ p ∈ ps, candidateSet s.registry s.index (p, s.graph g) = .empty
        · exact .inl ⟨⟨hplanned, .inr ⟨hsize, hnone⟩⟩, answers_empty hmake hsize (hempty.2 hnone) hnone⟩
        · have hfull : plan.isEmpty = false := by
            rw [← Bool.not_eq_true, hempty]
            exact hnone
          refine .inr ⟨?_, answers_fraction hmake h hsize hfull⟩
          rintro ⟨-, ⟨n, hn, hrows⟩ | ⟨-, hempty⟩⟩
          · cases hsize.symm.trans hrows
          · exact hnone hempty
  · refine .inr ⟨fun hanswers => hnot hanswers.1, f, ?_⟩
    rw [answers, hmake]
    rfl

end Store

/-- Outcomes of queries that are both refused, or that have the same answers, each as often. -/
def SameAnswers : Except Fault (List Binding × Context) → Except Fault (List Binding × Context) → Prop
  | .ok (bs, _), .ok (bs', _) => (bs.map Binding.get?).Perm (bs'.map Binding.get?)
  | .error _, .error _ => True
  | _, _ => False

/-- Where the texts of all documents are canonical, the order of the patterns makes no difference to what
a query answers, nor to whether it is refused. -/
theorem query_congr_perm {session : Session} (h : session.store.Reachable .default)
    (htriples : ∀ q d, session.store.index.at? q = some d → d.IsTriple) {ps qs : List Pattern}
    (hperm : ps.Perm qs) (g : Option Term) :
    SameAnswers (Session.perform (Session.query ps g) session).1
      (Session.perform (Session.query qs g) session).1 := by
  rw [perform_query, perform_query]
  by_cases hps : ps = []
  · have hqs : qs = [] := (hps ▸ hperm).symm.eq_nil
    rw [hps, hqs]
    cases session.store.answers [] g with
    | error f => trivial
    | ok result => exact List.Perm.refl _
  · have hqs : qs ≠ [] := fun hnil => hps (hnil ▸ hperm).eq_nil
    rcases Store.answers_cases h htriples hps g with ⟨hanswers, result, hresult, hjoin⟩ | ⟨hnot, f, hf⟩
    · rcases Store.answers_cases h htriples hqs g with ⟨-, result', hresult', hjoin'⟩ | ⟨hnot, -⟩
      · rw [hresult, hresult']
        refine hjoin.trans (.trans ?_ hjoin'.symm)
        exact joinAnswers_congr_perm _ _ (hperm.map _)
      · exact absurd ((Store.answers_congr_perm hperm g).1 hanswers) hnot
    · rcases Store.answers_cases h htriples hqs g with ⟨hanswers, -⟩ | ⟨-, f', hf'⟩
      · exact absurd ((Store.answers_congr_perm hperm g).2 hanswers) hnot
      · rw [hf, hf']
        trivial

/-! ## Two stores -/

theorem Store.Reachable.foldlM_insert {triples : List Pattern} {start s : Store} (hstart : start.Reachable .default)
    (h : triples.foldlM (fun s triple => s.insert triple none) start = .ok s) : s.Reachable .default := by
  induction triples generalizing start with
  | nil =>
    cases h
    exact hstart
  | cons triple triples ih =>
    rw [List.foldlM_cons] at h
    obtain ⟨after, hinsert, h⟩ := bind_eq_ok.1 h
    exact ih (hstart.insert hinsert) h

def storeOf (triples : List Pattern) : Except Fault Store := do
  triples.foldlM (fun s triple => s.insert triple none) (← Store.make .default .default)

theorem reachable_storeOf {triples : List Pattern} {s : Store} (h : storeOf triples = .ok s) :
    s.Reachable .default := by
  obtain ⟨empty, hempty, h⟩ := bind_eq_ok.1 h
  exact Store.Reachable.foldlM_insert (.make hempty) h

def saying (subject predicate text : String) : Pattern :=
  ⟨.iri subject, .iri predicate, .literal (.ofText text)⟩

/-- What is said by one of `urn:p` and `urn:q` and by the other. -/
def saidByBoth : List Pattern := [⟨.var "s", .iri "urn:p", .var "o"⟩, ⟨.var "t", .iri "urn:q", .var "o"⟩]

theorem query_congr_perm_plain : ∃ s, storeOf [saying "urn:a" "urn:p" "x", saying "urn:b" "urn:q" "x"] = .ok s ∧
    s.Reachable .default ∧ (∀ q d, s.index.at? q = some d → d.IsTriple) ∧ saidByBoth.Perm saidByBoth.reverse ∧
    SameAnswers (Session.perform (Session.query saidByBoth none) (.ofStore s)).1
      (Session.perform (Session.query saidByBoth.reverse none) (.ofStore s)).1 := by
  have hrun : ((storeOf [saying "urn:a" "urn:p" "x", saying "urn:b" "urn:q" "x"]).toOption.any fun s =>
      decide (∀ e ∈ s.index.documents, e.2.fields.IsTriple)) = true := by decide +kernel
  cases hs : storeOf [saying "urn:a" "urn:p" "x", saying "urn:b" "urn:q" "x"] with
  | error f =>
    rw [hs] at hrun
    cases hrun
  | ok s =>
    rw [hs] at hrun
    have hreachable := reachable_storeOf hs
    have htriples : ∀ q d, s.index.at? q = some d → d.IsTriple := by
      intro q d hd
      obtain ⟨e, he, -, rfl⟩ := hreachable.maintained.index.sound.at?_eq_some.1 hd
      exact of_decide_eq_true hrun e he
    have hperm : saidByBoth.Perm saidByBoth.reverse := saidByBoth.reverse_perm.symm
    exact ⟨s, rfl, hreachable, htriples, hperm, @query_congr_perm (.ofStore s) hreachable htriples _ _ hperm none⟩

/-- How many answers patterns have that come in the order of the numbers of their candidates already. -/
def Store.answersInOrder (ps : List Pattern) (s : Store) : Except Fault Nat := do
  let results ← (s.evaluate s.settings.workers (.opened s.index) ps (some (s.graph none))).all
  let _ ← graphName (s.graph none)
  let drained ← s.answer (Plan.joined results none none : Plan Unit)
  if (results.Pairwise fun a b => a.atMost b = true) ∧
      (Plan.joined results none none : Plan Unit).isEmpty = false then
    match drained.stop with
    | .failed f => .error f
    | _ => .ok drained.answers.length
  else .error .noPattern

theorem Store.answers_of_inOrder {s : Store} {ps : List Pattern} {n : Nat} (h : s.answersInOrder ps = .ok n) :
    ∃ result, s.answers ps none = .ok result ∧ result.1.length = n := by
  obtain ⟨results, hresults, h⟩ := bind_eq_ok.1 h
  obtain ⟨name, hname, h⟩ := bind_eq_ok.1 h
  obtain ⟨drained, hdrained, h⟩ := bind_eq_ok.1 h
  split at h
  · next hordered =>
    have hne : results ≠ [] := by
      rintro rfl
      cases hordered.2
    -- the kernel cannot run the sorting, but it leaves what is in order as it is
    have hsorted : Plan.sorted results = results := List.mergeSort_of_pairwise hordered.1
    have hempty : (Plan.joined results (some name) (some ())).isEmpty = false := hordered.2
    have hplan : Plan.make s.settings.workers s.registry (.opened s.index) () ps (s.graph none) =
        .ok (.joined results (some name) (some ())) := by
      rw [Plan.make]
      show (s.evaluate s.settings.workers (.opened s.index) ps (some (s.graph none))).all >>= _ = _
      rw [hresults, ok_bind, Plan.ofResults, if_neg (by simpa using hne), hname]
      simp only [Except.map, Plan.order, hsorted, hempty, Bool.false_eq_true, if_false]
    have hanswer : s.answer (.joined results (some name) (some ())) = .ok drained := hdrained
    rw [answers, hplan, ok_bind, hanswer, ok_bind]
    cases hstop : drained.stop with
    | failed f =>
      rw [hstop] at h
      cases h
    | _ =>
      rw [hstop] at h
      cases h
      exact ⟨_, rfl, rfl⟩
  · cases h

/-- A text that a hexadecimal escape seems to stand in is read back as another one. A join finds that one
among the texts of the second pattern if the first pattern drives it, and not the other way round. -/
theorem query_congr_perm_hexLooking : ∃ s as bs,
    storeOf [saying "urn:a" "urn:p" "\\x41", saying "urn:b" "urn:q" "\\A"] = .ok s ∧
    s.Reachable .default ∧ saidByBoth.Perm saidByBoth.reverse ∧
    (Session.perform (Session.query saidByBoth none) (.ofStore s)).1 = .ok as ∧
    (Session.perform (Session.query saidByBoth.reverse none) (.ofStore s)).1 = .ok bs ∧
    as.1.length = 1 ∧ bs.1.length = 0 := by
  have hrun : (do
      let s ← storeOf [saying "urn:a" "urn:p" "\\x41", saying "urn:b" "urn:q" "\\A"]
      return (← s.answersInOrder saidByBoth, ← s.answersInOrder saidByBoth.reverse)).toOption =
      some (1, 0) := by decide +kernel
  obtain ⟨s, hs, hrun⟩ := bind_eq_ok.1 (toOption_eq_some.1 hrun)
  obtain ⟨n, hn, hrun⟩ := bind_eq_ok.1 hrun
  obtain ⟨m, hm, hrun⟩ := bind_eq_ok.1 hrun
  cases hrun
  obtain ⟨as, has, hone⟩ := Store.answers_of_inOrder hn
  obtain ⟨bs, hbs, hnone⟩ := Store.answers_of_inOrder hm
  refine ⟨s, as, bs, hs, reachable_storeOf hs, saidByBoth.reverse_perm.symm, ?_, ?_, hone, hnone⟩
  · rw [perform_query]
    exact has
  · rw [perform_query]
    exact hbs

end TripleIndex
