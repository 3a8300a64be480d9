import Mathlib.Data.List.Sort
import TripleIndex.Query.Plan

/-!
The order of the steps of a plan. Steps with equally many candidates keep the order in which they came,
and there is only one ascending list of which that is true. So parts that are in order already may be put
in order again, together with others or after all others, and nothing else comes of it.
-/

namespace TripleIndex

namespace Candidates

theorem atMost_trans (a b c : Candidates) (hab : a.atMost b = true) (hbc : b.atMost c = true) :
    a.atMost c = true :=
  decide_eq_true (Nat.le_trans (of_decide_eq_true hab) (of_decide_eq_true hbc))

theorem atMost_total (a b : Candidates) : (a.atMost b || b.atMost a) = true := by
  rcases Nat.le_total a.cardinality b.cardinality with h | h
  · rw [show a.atMost b = true from decide_eq_true h, Bool.true_or]
  · rw [show b.atMost a = true from decide_eq_true h, Bool.or_true]

theorem cardinality_eq_zero {c : Candidates} : c.cardinality = 0 ↔ c.ids = .empty := by
  rw [← IdSet.isEmpty_iff]
  exact (List.isEmpty_iff_length_eq_zero (l := c.ids.toList)).symm

/-- The steps with one number of candidates. -/
def numbering (n : Nat) (steps : List Candidates) : List Candidates :=
  steps.filter (·.cardinality = n)

section Numbering

variable {n : Nat} {c : Candidates} {steps : List Candidates}

theorem mem_numbering : c ∈ numbering n steps ↔ c ∈ steps ∧ c.cardinality = n := by
  rw [numbering, List.mem_filter, decide_eq_true_iff]

theorem numbering_cons_of_eq (h : c.cardinality = n) : numbering n (c :: steps) = c :: numbering n steps :=
  List.filter_cons_of_pos (decide_eq_true h)

theorem numbering_cons_of_ne (h : c.cardinality ≠ n) : numbering n (c :: steps) = numbering n steps :=
  List.filter_cons_of_neg (by simpa using h)

theorem numbering_append (n : Nat) (xs ys : List Candidates) :
    numbering n (xs ++ ys) = numbering n xs ++ numbering n ys := List.filter_append ..

theorem numbering_numbering (n : Nat) (steps : List Candidates) :
    numbering n (numbering n steps) = numbering n steps :=
  List.filter_eq_self.2 fun _ hc => decide_eq_true (mem_numbering.1 hc).2

end Numbering

end Candidates

namespace Plan

open Candidates

variable {steps xs ys : List Candidates}

theorem pairwise_sorted (steps : List Candidates) :
    (sorted steps).Pairwise fun a b => a.cardinality ≤ b.cardinality :=
  (List.pairwise_mergeSort atMost_trans atMost_total steps).imp of_decide_eq_true

theorem sorted_perm (steps : List Candidates) : (sorted steps).Perm steps := List.mergeSort_perm ..

theorem numbering_sorted (n : Nat) (steps : List Candidates) :
    numbering n (sorted steps) = numbering n steps := by
  have hequal : (numbering n steps).Pairwise fun a b => a.atMost b = true := by
    refine List.pairwise_of_forall_mem_list fun a ha b hb => decide_eq_true (Nat.le_of_eq ?_)
    rw [(mem_numbering.1 ha).2, (mem_numbering.1 hb).2]
  -- equal steps are a part of the list that is in order already, so they are a part of the result
  have hsub : (numbering n steps).Sublist (sorted steps) :=
    List.sublist_mergeSort atMost_trans atMost_total hequal List.filter_sublist
  have hsub : (numbering n steps).Sublist (numbering n (sorted steps)) := by
    rw [← numbering_numbering]
    exact hsub.filter _
  exact (hsub.eq_of_length ((sorted_perm steps).filter _).length_eq.symm).symm

theorem eq_of_ascending (hxs : xs.Pairwise fun a b => a.cardinality ≤ b.cardinality)
    (hys : ys.Pairwise fun a b => a.cardinality ≤ b.cardinality)
    (h : ∀ n, numbering n xs = numbering n ys) : xs = ys := by
  have hmem : ∀ {as bs : List Candidates} {c : Candidates}, (∀ n, numbering n as = numbering n bs) →
      c ∈ as → c ∈ bs := by
    intro as bs c hsame hc
    have hfilter : c ∈ numbering c.cardinality as := mem_numbering.2 ⟨hc, rfl⟩
    rw [hsame] at hfilter
    exact (mem_numbering.1 hfilter).1
  induction xs generalizing ys with
  | nil =>
    cases ys with
    | nil => rfl
    | cons y ys => cases hmem (fun n => (h n).symm) List.mem_cons_self
  | cons x xs ih =>
    cases ys with
    | nil => cases hmem h List.mem_cons_self
    | cons y ys =>
      obtain ⟨hx, hxsTail⟩ := List.pairwise_cons.1 hxs
      obtain ⟨hy, hysTail⟩ := List.pairwise_cons.1 hys
      -- the first step of each has the least number, and so they have the same one
      have hle : x.cardinality ≤ y.cardinality := by
        rcases List.mem_cons.1 (hmem (fun n => (h n).symm) (List.mem_cons_self (a := y))) with rfl | hin
        · exact Nat.le_refl _
        · exact hx y hin
      have hge : y.cardinality ≤ x.cardinality := by
        rcases List.mem_cons.1 (hmem h (List.mem_cons_self (a := x))) with rfl | hin
        · exact Nat.le_refl _
        · exact hy x hin
      have hcardinality : y.cardinality = x.cardinality := Nat.le_antisymm hge hle
      have hhead := h x.cardinality
      rw [numbering_cons_of_eq rfl, numbering_cons_of_eq hcardinality] at hhead
      obtain ⟨rfl, -⟩ := List.cons.inj hhead
      refine congrArg (x :: ·) (ih hxsTail hysTail fun n => ?_)
      have hn := h n
      by_cases hcount : x.cardinality = n
      · rw [numbering_cons_of_eq hcount, numbering_cons_of_eq hcount] at hn
        exact (List.cons.inj hn).2
      · rwa [numbering_cons_of_ne hcount, numbering_cons_of_ne hcount] at hn

theorem sorted_congr (h : ∀ n, numbering n xs = numbering n ys) : sorted xs = sorted ys :=
  eq_of_ascending (pairwise_sorted xs) (pairwise_sorted ys) fun n => by
    rw [numbering_sorted, numbering_sorted, h]

theorem sorted_append_left (xs ys : List Candidates) : sorted (sorted xs ++ ys) = sorted (xs ++ ys) :=
  sorted_congr fun n => by rw [numbering_append, numbering_append, numbering_sorted]

theorem sorted_append_right (xs ys : List Candidates) : sorted (xs ++ sorted ys) = sorted (xs ++ ys) :=
  sorted_congr fun n => by rw [numbering_append, numbering_append, numbering_sorted]

/-- What is true of every two steps in the order in which they came stays true of steps with equally many
candidates. -/
theorem pairwise_sorted_ties {R : Candidates → Candidates → Prop} (h : steps.Pairwise R) :
    (sorted steps).Pairwise fun a b =>
      a.cardinality < b.cardinality ∨ a.cardinality = b.cardinality ∧ R a b := by
  have hties : ∀ n, (sorted steps).Pairwise fun a b => a.cardinality = n → b.cardinality = n → R a b := by
    intro n
    have hfilter : (numbering n (sorted steps)).Pairwise R := by
      rw [numbering_sorted]
      exact h.filter _
    simpa only [numbering, List.pairwise_filter, decide_eq_true_eq] using hfilter
  rw [List.pairwise_iff_getElem]
  intro i j hi hj hij
  have hle := List.pairwise_iff_getElem.1 (pairwise_sorted steps) i j hi hj hij
  rcases Nat.lt_or_eq_of_le hle with hlt | heq
  · exact .inl hlt
  · exact .inr ⟨heq, List.pairwise_iff_getElem.1 (hties _) i j hi hj hij rfl heq.symm⟩

/-! ## Steps without an answer -/

/-- Whether steps can have no answer, since there are none or one of them has no candidates. -/
def isVoid (steps : List Candidates) : Bool := steps.isEmpty || steps.any (·.cardinality = 0)

theorem isVoid_eq_true : isVoid steps = true ↔ steps = [] ∨ ∃ c ∈ steps, c.cardinality = 0 := by
  simp [isVoid]

theorem isVoid_congr_perm (h : xs.Perm ys) : isVoid xs = isVoid ys := by
  rw [Bool.eq_iff_iff, isVoid_eq_true, isVoid_eq_true]
  refine or_congr ⟨?_, ?_⟩ (exists_congr fun c => and_congr_left fun _ => h.mem_iff)
  · rintro rfl
    exact h.nil_eq.symm
  · rintro rfl
    exact h.eq_nil

variable {ρ : Type}

/-- The driver of an ascending list is the only step that has to be looked at. -/
theorem isEmpty_sorted (steps : List Candidates) (graph : Option String) (reader : Option ρ) :
    (joined (sorted steps) graph reader).isEmpty = isVoid steps := by
  rw [← isVoid_congr_perm (sorted_perm steps)]
  have hascending := pairwise_sorted steps
  cases hsorted : sorted steps with
  | nil => rfl
  | cons driver below =>
    rw [hsorted] at hascending
    show decide (driver.cardinality = 0) = isVoid (driver :: below)
    rw [Bool.eq_iff_iff, isVoid_eq_true]
    constructor
    · intro hzero
      exact .inr ⟨driver, List.mem_cons_self, of_decide_eq_true hzero⟩
    · rintro (hnil | ⟨c, hc, hzero⟩)
      · cases hnil
      · refine decide_eq_true ?_
        rcases List.mem_cons.1 hc with rfl | hbelow
        · exact hzero
        · exact Nat.le_zero.1 (hzero ▸ (List.pairwise_cons.1 hascending).1 c hbelow)

theorem order_eq (steps : List Candidates) (graph : Option String) (reader : Option ρ) :
    order steps graph reader = if isVoid steps then nothing else joined (sorted steps) graph reader := by
  rw [order, isEmpty_sorted]

theorem isEmpty_order_eq (steps : List Candidates) (graph : Option String) (reader : Option ρ) :
    (order steps graph reader).isEmpty = isVoid steps := by
  rw [order_eq]
  cases hvoid : isVoid steps with
  | true => rfl
  | false => exact (isEmpty_sorted ..).trans hvoid

theorem order_cases {steps : List Candidates} (hsteps : steps ≠ []) (graph : Option String) (reader : Option ρ) :
    ((order steps graph reader).isEmpty = true ∧ ∃ c ∈ steps, c.ids = .empty) ∨
      ((order steps graph reader).isEmpty = false ∧ (order steps graph reader).steps.Perm steps) := by
  rw [isEmpty_order_eq, order_eq]
  cases hvoid : isVoid steps with
  | true =>
    obtain ⟨c, hc, hzero⟩ := (isVoid_eq_true.1 hvoid).resolve_left hsteps
    exact .inl ⟨rfl, c, hc, Candidates.cardinality_eq_zero.1 hzero⟩
  | false => exact .inr ⟨rfl, sorted_perm steps⟩

theorem isVoid_of_isEmpty {p : Plan ρ} (h : p.isEmpty = true) : isVoid p.steps = true := by
  rw [isEmpty] at h
  rw [isVoid_eq_true]
  split at h
  · next hnil => exact .inl hnil
  · next driver below hcons => exact .inr ⟨driver, hcons ▸ List.mem_cons_self, of_decide_eq_true h⟩

end Plan

end TripleIndex
