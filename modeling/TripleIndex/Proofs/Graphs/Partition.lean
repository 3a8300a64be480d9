import TripleIndex.Proofs.Graphs.Counts
import TripleIndex.Proofs.Graphs.Searches

/-!
What a store keeps of its graphs. After any calls on graphs without tabs in their names the documents fall into
the graphs that are listed, and a further call leaves the documents of all other graphs alone, and with them
what is counted and found there.
-/

namespace TripleIndex

variable {g g' : Term} {d : Document}

theorem Document.IsIn.sameGraph (h : d.IsIn g) (h' : d.IsIn g') : g.SameGraph g' := by
  obtain ⟨form, hform, hcontext⟩ := h
  obtain ⟨form', hform', hcontext'⟩ := h'
  cases hcontext.symm.trans hcontext'
  exact ⟨form, hform, hform'⟩

namespace Store

/-- A call leaves every graph but its own alone, whether it succeeds or not. -/
structure Isolates (s : Store) (c : Call) : Prop where
  documents : ∀ q d, ¬ d.IsIn (s.graph c.graph) →
    ((s.call c).index.at? q = some d ↔ s.index.at? q = some d)
  counts : ∀ g, (s.graph g).isUntabbed = true → ¬ (s.graph g).SameGraph (s.graph c.graph) →
    (s.call c).count g = s.count g
  searches : ∀ g p, ¬ (s.graph g).SameGraph (s.graph c.graph) → (s.call c).find p g = s.find p g

variable {quadruples : List Quadruple} {s : Store}

theorem within_make {settings : Settings} (h : Store.make settings .default = .ok s) : s.Within quadruples := by
  have hnone : ∀ q, s.index.at? q = none := by
    intro q
    rw [(make_eq_ok h).2.2]
    rfl
  have hempty : ∀ {P : Prop} {q d}, s.index.at? q = some d → P := by
    intro P q d hd
    rw [hnone] at hd
    cases hd
  exact ⟨.make h, fun _ _ => hempty, fun _ _ => hempty, fun _ _ => hempty⟩

/-- A call that is a step of its graph isolates the others. -/
theorem Within.isolates (h : s.Within quadruples) {c : Call}
    (hstep : s.Step quadruples (s.graph c.graph) (s.call c)) : s.Isolates c := by
  obtain ⟨ix, hframe⟩ := hstep.frame
  have hwithin := hstep.within
  have houtside := hstep.outside
  have hother : ∀ {g : Term}, ¬ g.SameGraph (s.graph c.graph) → ∀ q d, d.IsIn g →
      ((s.call c).index.at? q = some d ↔ s.index.at? q = some d) :=
    fun hg q d hd => houtside q d fun hd' => hg (hd.sameGraph hd')
  refine ⟨houtside, fun g huntabbed hg => ?_, fun g p hg => ?_⟩
  · have hdocuments := hother hg
    rw [hframe] at hwithin hdocuments ⊢
    exact h.count_eq_of_documents hwithin huntabbed hdocuments
  · have hdocuments := hother hg
    rw [hframe] at hwithin hdocuments ⊢
    exact h.findIn_eq hwithin hdocuments s.pageSize p

/-- After calls on graphs without tabs, all quadruples of which have identifiers of their own, the graphs that are
listed partition the documents, and the next such call changes its own graph only. -/
theorem partitioned_callAll {settings : Settings} (h : Store.make settings .default = .ok s) {calls : List Call}
    (hcalls : s.Admits calls) : (s.callAll calls).Partitioned ∧
      ∀ c, s.Admits (calls ++ [c]) → (s.callAll calls).Isolates c := by
  refine ⟨((within_make h).callAll hcalls.distinct hcalls.untabbed fun _ hq => hq).2.partitioned, fun c hc => ?_⟩
  have hmem : ∀ q ∈ calls.flatMap s.quadruples, q ∈ (calls ++ [c]).flatMap s.quadruples := by
    intro q hq
    rw [List.flatMap_append]
    exact List.mem_append_left _ hq
  have huntabbed := List.forall_mem_append.1 hc.untabbed
  obtain ⟨⟨ix, hframe⟩, hwithin⟩ := (within_make h).callAll hc.distinct huntabbed.1 hmem
  rw [hframe] at hwithin ⊢
  refine hwithin.isolates (hwithin.step_call hc.distinct (huntabbed.2 c (List.mem_singleton_self c)) fun q hq => ?_)
  rw [List.flatMap_append, List.flatMap_singleton]
  exact List.mem_append_right _ hq

/-- One triple in two graphs and another one in the second, where a pattern is refused, and a deletion. -/
def twoGraphs : List Call :=
  let of (object : Term) : Pattern := ⟨.iri "urn:s", .iri "urn:p", object⟩
  [.insert (of (.literal (.ofText "a\tb"))) none,
    .insertMany [of (.literal (.ofText "a\tb")), of (.var "o"), of (.blank "b")] (some (.blank "g")),
    .delete (of (.blank "b")) (some (.blank "g"))]

theorem partitioned_twoGraphs : ∃ s, Store.make .default .default = .ok s ∧ s.Admits twoGraphs ∧
    (s.callAll twoGraphs).size = 2 ∧ (s.callAll twoGraphs).Partitioned ∧
    s.Admits (twoGraphs ++ [.clear none]) ∧ (s.callAll twoGraphs).Isolates (.clear none) := by
  have hrun : ((Store.make .default .default).toOption.any fun s => decide (s.Admits twoGraphs ∧
      (s.callAll twoGraphs).size = 2 ∧ s.Admits (twoGraphs ++ [.clear none]))) = true := by decide +kernel
  simp only [Option.any_eq_true, toOption_eq_some, decide_eq_true_eq] at hrun
  obtain ⟨s, hs, hadmits, hsize, hmore⟩ := hrun
  obtain ⟨hpartitioned, hisolates⟩ := partitioned_callAll hs hadmits
  exact ⟨s, hs, hadmits, hsize, hpartitioned, hmore, hisolates _ hmore⟩

end Store

end TripleIndex
