import TripleIndex.Proofs.Cursors.Positions
import TripleIndex.Proofs.Join.Order
import TripleIndex.Proofs.Plans.Evaluations

/-!
Merged plans. The plan that two plans are merged into is the one that their patterns have together: it
comes to nothing exactly when that one does, and otherwise it has the same steps in the same order, though
they keep the positions that they had apart. So its cursor gives the same answers. Which plans are merged
first makes no difference, also for plans that nobody has put in order.
-/

namespace TripleIndex

namespace Plan

variable {ρ : Type}

/-! ## Plans of any steps -/

section Steps

variable {xs ys : List Candidates} {graph : Option String} {reader : Option ρ}

theorem isVoid_append (hxs : xs ≠ []) (hys : ys ≠ []) : isVoid (xs ++ ys) = (isVoid xs || isVoid ys) := by
  obtain ⟨x, xs, rfl⟩ := List.exists_cons_of_ne_nil hxs
  obtain ⟨y, ys, rfl⟩ := List.exists_cons_of_ne_nil hys
  simp [isVoid, Bool.or_assoc]

theorem ne_nil_of_isVoid (h : isVoid xs = false) : xs ≠ [] := by
  rintro rfl
  cases h

/-- Plans are merged by their steps, and a step without candidates in either of them leaves nothing. -/
theorem merge_eq (p q : Plan ρ) :
    merge p q = if isVoid p.steps || isVoid q.steps then nothing
      else joined (sorted (p.steps ++ q.steps)) p.graph (p.reader <|> q.reader) := by
  rw [merge]
  cases hempty : p.isEmpty || q.isEmpty with
  | true =>
    rw [if_pos rfl, if_pos]
    rcases Bool.or_eq_true_iff.1 hempty with hp | hq
    · rw [isVoid_of_isEmpty hp, Bool.true_or]
    · rw [isVoid_of_isEmpty hq, Bool.or_true]
  | false =>
    have hne : ∀ {p : Plan ρ}, p.isEmpty = false → p.steps ≠ [] := by
      intro p hp hnil
      rw [isEmpty, hnil] at hp
      cases hp
    obtain ⟨hp, hq⟩ := Bool.or_eq_false_iff.1 hempty
    rw [if_neg (by decide), order_eq, isVoid_append (hne hp) (hne hq)]

theorem isVoid_sorted (steps : List Candidates) : isVoid (sorted steps) = isVoid steps :=
  isVoid_congr_perm (sorted_perm steps)

theorem isVoid_steps_merge (p q : Plan ρ) :
    isVoid (merge p q).steps = (isVoid p.steps || isVoid q.steps) := by
  rw [merge_eq]
  cases hvoid : isVoid p.steps || isVoid q.steps with
  | true => rfl
  | false =>
    obtain ⟨hp, hq⟩ := Bool.or_eq_false_iff.1 hvoid
    show isVoid (sorted (p.steps ++ q.steps)) = false
    rw [isVoid_sorted, isVoid_append (ne_nil_of_isVoid hp) (ne_nil_of_isVoid hq), hvoid]

theorem merge_nothing_left (p : Plan ρ) : merge nothing p = nothing := rfl

theorem merge_nothing_right (p : Plan ρ) : merge p nothing = nothing := by
  rw [merge, isEmpty_nothing, Bool.or_true, if_pos rfl]

theorem merge_assoc (p q s : Plan ρ) : merge (merge p q) s = merge p (merge q s) := by
  rw [merge_eq (merge p q), merge_eq p (merge q s), isVoid_steps_merge, isVoid_steps_merge, Bool.or_assoc]
  cases hvoid : isVoid p.steps || (isVoid q.steps || isVoid s.steps) with
  | true => rfl
  | false =>
    obtain ⟨hp, hqs⟩ := Bool.or_eq_false_iff.1 hvoid
    obtain ⟨hq, hs⟩ := Bool.or_eq_false_iff.1 hqs
    have hreader : ((p.reader <|> q.reader) <|> s.reader) = (p.reader <|> (q.reader <|> s.reader)) := by
      cases p.reader <;> rfl
    rw [merge_eq p q, merge_eq q s, hp, hq, hs]
    show joined (sorted (sorted (p.steps ++ q.steps) ++ s.steps)) p.graph _ =
      joined (sorted (p.steps ++ sorted (q.steps ++ s.steps))) p.graph _
    rw [sorted_append_left, sorted_append_right, List.append_assoc]
    exact congrArg _ hreader

/-- Steps may be put in order apart and merged, or put in order at once. -/
theorem merge_order (hxs : xs ≠ []) (hys : ys ≠ []) :
    merge (order xs graph reader) (order ys graph reader) = order (xs ++ ys) graph reader := by
  have hvoid : ∀ steps : List Candidates, isVoid (order steps graph reader).steps = isVoid steps := by
    intro steps
    rw [order_eq]
    cases h : isVoid steps with
    | true => rfl
    | false => exact (isVoid_sorted steps).trans h
  rw [merge_eq, hvoid, hvoid, order_eq (xs ++ ys), isVoid_append hxs hys]
  cases h : isVoid xs || isVoid ys with
  | true => rfl
  | false =>
    obtain ⟨hx, hy⟩ := Bool.or_eq_false_iff.1 h
    have hreader : (reader <|> reader) = reader := by cases reader <;> rfl
    rw [order_eq, order_eq, hx, hy]
    show joined (sorted (sorted xs ++ sorted ys)) graph (reader <|> reader) = joined (sorted (xs ++ ys)) graph reader
    rw [sorted_append_left, sorted_append_right, hreader]

end Steps

/-! ## Positions -/

/-- The plan without the positions of its steps. -/
def unplaced : Plan ρ → Plan ρ
  | nothing => nothing
  | joined steps graph reader => joined (steps.map Candidates.unplaced) graph reader

theorem unplaced_eq_nothing {p : Plan ρ} : p.unplaced = nothing ↔ p = nothing := by
  cases p with
  | nothing => exact Iff.rfl
  | joined steps graph reader => exact iff_of_false (fun h => by cases h) (fun h => by cases h)

theorem sorted_unplaced (steps : List Candidates) :
    sorted (steps.map Candidates.unplaced) = (sorted steps).map Candidates.unplaced :=
  (List.map_mergeSort (f := Candidates.unplaced) fun _ _ _ _ => rfl).symm

theorem order_unplaced (steps : List Candidates) (graph : Option String) (reader : Option ρ) :
    (order steps graph reader).unplaced = order (steps.map Candidates.unplaced) graph reader := by
  have hvoid : isVoid (steps.map Candidates.unplaced) = isVoid steps := by
    rw [isVoid, isVoid, List.any_map, List.isEmpty_map]
    rfl
  rw [order_eq, order_eq, hvoid, sorted_unplaced]
  split <;> rfl

/-! ## Cursors over plans -/

/-- The replies of a cursor over a plan, and what is around it in the end. -/
def replies (t : Trouble) (hasReader : Bool) (size : JsonValue) (owns : Bool) (s : Surroundings)
    (moment : Nat) (uses : List Use) (p : Plan ρ) : Except Fault (List Reply × Surroundings) :=
  (Cursor.make p hasReader size owns).map fun c =>
    let (replies, x) := t.run ⟨c, { s with reader := c.readerAtStart s.reader }, moment⟩ uses
    (replies, x.surroundings)

theorem replies_unplaced (t : Trouble) (hasReader : Bool) (size : JsonValue) (owns : Bool) (s : Surroundings)
    (moment : Nat) (uses : List Use) (p : Plan ρ) :
    replies t hasReader size owns s moment uses p.unplaced = replies t hasReader size owns s moment uses p := by
  cases p with
  | nothing => rfl
  | joined steps graph reader =>
    have hempty : (joined steps graph reader).unplaced.isEmpty = (joined steps graph reader).isEmpty := by
      cases steps <;> rfl
    rw [replies, replies, Cursor.make, Cursor.make, hempty]
    cases PageSize.ofValue size with
    | error f => rfl
    | ok size =>
      simp only [ok_bind]
      split
      · rfl
      · exact congrArg (fun result => Except.ok (result.1, result.2.surroundings)) (t.run_unplaced
          ⟨⟨steps, size, owns, [], none, none, false, (joined steps graph reader).isEmpty⟩, _, moment⟩ uses)

/-! ## Plans of patterns -/

section Patterns

open Candidates

variable {workers : JsonValue} {registry : Registry} {r : Reader} {name : ρ} {graph : Term}
  {as bs : List Pattern}

theorem unplaced_evaluateFrom (i j : Nat) (ps : List Pattern) :
    (evaluateFrom registry r (some graph) i ps).map Candidates.unplaced =
      (evaluateFrom registry r (some graph) j ps).map Candidates.unplaced := by
  induction ps generalizing i j with
  | nil => rfl
  | cons p ps ih =>
    rw [evaluateFrom_cons, evaluateFrom_cons, List.map_cons, List.map_cons, ih (i + 1) (j + 1),
      evaluate_position registry r (some graph) p i j]
    rfl

theorem isOk_make_append (has : as ≠ []) (hbs : bs ≠ []) :
    (∃ whole, make workers registry r name (as ++ bs) graph = .ok whole) ↔
      (∃ first, make workers registry r name as graph = .ok first) ∧
        ∃ second, make workers registry r name bs graph = .ok second := by
  rw [make_eq workers registry r name has, make_eq workers registry r name hbs,
    make_eq workers registry r name (List.append_ne_nil_of_left_ne_nil has bs), List.all_append]
  cases as.all Pattern.isWritable <;> cases bs.all Pattern.isWritable <;> cases graphName graph <;>
    simp [Except.map]

theorem unplaced_merge_make (has : as ≠ []) (hbs : bs ≠ []) {first second whole : Plan ρ}
    (hfirst : make workers registry r name as graph = .ok first)
    (hsecond : make workers registry r name bs graph = .ok second)
    (hwhole : make workers registry r name (as ++ bs) graph = .ok whole) :
    (merge first second).unplaced = whole.unplaced := by
  have heq : ∀ {ps : List Pattern} {plan : Plan ρ}, ps ≠ [] →
      make workers registry r name ps graph = .ok plan → ∃ text, graphName graph = .ok text ∧
        order (evaluateFrom registry r (some graph) 0 ps) (some text) (some name) = plan := by
    intro ps plan hps hmake
    rw [make_eq workers registry r name hps] at hmake
    split at hmake
    · exact map_eq_ok.1 hmake
    · cases hmake
  obtain ⟨text, htext, rfl⟩ := heq has hfirst
  obtain ⟨text', htext', rfl⟩ := heq hbs hsecond
  obtain ⟨text'', htext'', rfl⟩ := heq (List.append_ne_nil_of_left_ne_nil has bs) hwhole
  cases htext.symm.trans htext'
  cases htext.symm.trans htext''
  rw [merge_order (mt evaluateFrom_eq_nil.1 has) (mt evaluateFrom_eq_nil.1 hbs), evaluateFrom_append,
    order_unplaced, order_unplaced, List.map_append, List.map_append, unplaced_evaluateFrom 0 (0 + as.length) bs]

/-- Two plans for patterns in one graph, made with one reader, merge into the plan for all the patterns, and
there is one exactly if there are the other two. -/
theorem merge_make (workers : JsonValue) (registry : Registry) (r : Reader) (name : ρ) (graph : Term)
    {as bs : List Pattern} (has : as ≠ []) (hbs : bs ≠ []) :
    ((∃ whole, make workers registry r name (as ++ bs) graph = .ok whole) ↔
      (∃ first, make workers registry r name as graph = .ok first) ∧
        ∃ second, make workers registry r name bs graph = .ok second) ∧
    (∀ first second whole, make workers registry r name as graph = .ok first →
      make workers registry r name bs graph = .ok second →
      make workers registry r name (as ++ bs) graph = .ok whole →
      (merge first second = nothing ↔ whole = nothing) ∧
      (merge first second).unplaced = whole.unplaced ∧
      ∀ t hasReader size owns s moment uses,
        replies t hasReader size owns s moment uses (merge first second) =
          replies t hasReader size owns s moment uses whole) ∧
    ∀ p q s : Plan ρ, merge (merge p q) s = merge p (merge q s) ∧
      merge nothing p = nothing ∧ merge p nothing = nothing := by
  refine ⟨isOk_make_append has hbs, ?_, fun p q s =>
    ⟨merge_assoc p q s, merge_nothing_left p, merge_nothing_right p⟩⟩
  intro first second whole hfirst hsecond hwhole
  have hunplaced := unplaced_merge_make has hbs hfirst hsecond hwhole
  refine ⟨?_, hunplaced, ?_⟩
  · rw [← unplaced_eq_nothing, hunplaced, unplaced_eq_nothing]
  · intro t hasReader size owns s moment uses
    rw [← replies_unplaced, hunplaced, replies_unplaced]

/-- Two patterns with an answer each, planned apart and together. -/
theorem merge_make_saidByBoth : ∃ s first second whole,
    storeOf [saying "urn:a" "urn:p" "x", saying "urn:b" "urn:q" "x"] = .ok s ∧
    make s.settings.workers s.registry (.opened s.index) () (saidByBoth.take 1) (s.graph none) = .ok first ∧
    make s.settings.workers s.registry (.opened s.index) () (saidByBoth.drop 1) (s.graph none) = .ok second ∧
    make s.settings.workers s.registry (.opened s.index) () (saidByBoth.take 1 ++ saidByBoth.drop 1)
      (s.graph none) = .ok whole ∧
    merge first second ≠ nothing ∧ (merge first second).unplaced = whole.unplaced := by
  have hrun : (do
      let s ← storeOf [saying "urn:a" "urn:p" "x", saying "urn:b" "urn:q" "x"]
      let _ ← graphName (s.graph none)
      return (saidByBoth.all Pattern.isWritable,
        isVoid (evaluateFrom s.registry (.opened s.index) (some (s.graph none)) 0 saidByBoth))).toOption =
      some (true, false) := by decide +kernel
  obtain ⟨s, hs, hrun⟩ := bind_eq_ok.1 (toOption_eq_some.1 hrun)
  obtain ⟨text, htext, hrun⟩ := bind_eq_ok.1 hrun
  obtain ⟨hwritable, hfull⟩ := Prod.mk.inj (Except.ok.inj hrun)
  have hwhole : make s.settings.workers s.registry (.opened s.index) () saidByBoth (s.graph none) =
      .ok (order (evaluateFrom s.registry (.opened s.index) (some (s.graph none)) 0 saidByBoth)
        (some text) (some ())) := by
    rw [make_eq _ _ _ _ (by decide), hwritable, htext]
    rfl
  obtain ⟨hapart, hmerge, -⟩ := merge_make s.settings.workers s.registry (.opened s.index) () (s.graph none)
    (show saidByBoth.take 1 ≠ [] by decide) (show saidByBoth.drop 1 ≠ [] by decide)
  obtain ⟨⟨first, hfirst⟩, second, hsecond⟩ := hapart.1 ⟨_, hwhole⟩
  obtain ⟨hnothing, hunplaced, -⟩ := hmerge _ _ _ hfirst hsecond hwhole
  refine ⟨s, first, second, _, hs, hfirst, hsecond, hwhole, ?_, hunplaced⟩
  intro hmerged
  have hnone := hnothing.1 hmerged
  rw [order_eq, hfull] at hnone
  cases hnone

end Patterns

end Plan

end TripleIndex
