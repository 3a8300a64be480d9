import Mathlib.Data.List.Sections
import Mathlib.Data.Multiset.Bind
import TripleIndex.Query.Planner
import TripleIndex.Proofs.NaiveScan

/-!
What a join answers, said without plans. Every pattern has the documents that it selects on its own. One
document for each pattern, chosen in all ways in which a variable has one text wherever it stands, makes
one answer, and the answer gives each variable the term of its text. The order of the patterns makes no
difference to the answers.
-/

namespace TripleIndex

/-- Variables with the texts that documents have in their slots. -/
abbrev Row := List (String × String)

namespace Row

/-- A variable has one text wherever it stands. -/
def Agrees (r : Row) : Prop := ∀ a ∈ r, ∀ b ∈ r, a.1 = b.1 → a.2 = b.2

instance (r : Row) : Decidable r.Agrees := inferInstanceAs (Decidable (∀ a ∈ r, ∀ b ∈ r, _ → _))

def term? (r : Row) (name : String) : Option Term := (r.lookup name).bind fun s => (Term.ofForm s).toOption

end Row

def slotText (d : Document) (slot : Slot) : String :=
  match d.lookup slot.field with
  | some (.text s) => s
  | _ => ""

/-- The variables among slots, with the texts of a document. -/
def slotRow (d : Document) : List (Slot × Term) → Row
  | [] => []
  | (slot, .var name) :: rest => (name, slotText d slot) :: slotRow d rest
  | _ :: rest => slotRow d rest

def Pattern.row (p : Pattern) (d : Document) : Row := slotRow d p.slots

/-- The documents that a pattern selects in a graph. A pattern that cannot be evaluated selects none. -/
def candidateSet (registry : Registry) (ix : Index) (pg : Pattern × Term) : IdSet :=
  match compile registry pg.1 (some pg.2) with
  | .error _ => .empty
  | .ok f =>
    match ix.evaluate f none with
    | .error _ => .empty
    | .ok ids => ids

def Index.documentsOf (ix : Index) (ids : IdSet) : List Document := (places ids.toList).filterMap ix.at?

def candidateRows (registry : Registry) (ix : Index) (pg : Pattern × Term) : List Row :=
  (ix.documentsOf (candidateSet registry ix pg)).map pg.1.row

/-- The answers that begin with a row, one for each agreeing choice of further rows. -/
def answersAfter (r : Row) (choices : List (List Row)) : List (String → Option Term) :=
  choices.sections.flatMap fun rows =>
    if (r ++ rows.flatten).Agrees then [(r ++ rows.flatten).term?] else []

/-- The answers of the join of patterns, each in its graph. -/
def joinAnswers (registry : Registry) (ix : Index) (pgs : List (Pattern × Term)) :
    List (String → Option Term) :=
  answersAfter [] (pgs.map (candidateRows registry ix))

/-! ## Order -/

section Order

variable {α β γ : Type}

theorem flatMap_comm_perm (xs : List α) (ys : List β) (f : α → β → List γ) :
    (xs.flatMap fun x => ys.flatMap (f x)).Perm (ys.flatMap fun y => xs.flatMap (f · y)) := by
  have h := Multiset.bind_bind (xs : Multiset α) (ys : Multiset β) (f := fun x y => (f x y : Multiset γ))
  simpa only [Multiset.coe_bind, Multiset.coe_eq_coe] using h

theorem flatMap_sections_cons (xs : List α) (L : List (List α)) (f : List α → List β) :
    ((xs :: L).sections.flatMap f).Perm (xs.flatMap fun x => L.sections.flatMap fun s => f (x :: s)) := by
  rw [List.sections, List.flatMap_assoc]
  refine List.Perm.trans (List.Perm.of_eq ?_) (flatMap_comm_perm L.sections xs fun s x => f (x :: s))
  exact List.flatMap_congr fun s _ => List.flatMap_map ..

theorem flatMap_sections_perm {L L' : List (List α)} (hL : L.Perm L') (f : List α → List β)
    (hf : ∀ s s', s.Perm s' → f s = f s') : (L.sections.flatMap f).Perm (L'.sections.flatMap f) := by
  induction hL generalizing f with
  | nil => exact List.Perm.refl _
  | cons xs _ ih =>
    refine (flatMap_sections_cons xs _ f).trans (.trans ?_ (flatMap_sections_cons xs _ f).symm)
    exact List.Perm.flatMap_left xs fun x _ => ih _ fun s s' hs => hf _ _ (hs.cons x)
  | swap xs ys L =>
    refine (flatMap_sections_cons ys _ f).trans (.trans ?_ (flatMap_sections_cons xs _ f).symm)
    -- the loops over both lists are brought together, exchanged and taken apart again
    refine (List.Perm.flatMap_left ys fun y _ => flatMap_sections_cons xs L _).trans ?_
    refine (flatMap_comm_perm ys xs _).trans ?_
    refine List.Perm.flatMap_left xs fun x _ => ?_
    refine List.Perm.trans (List.Perm.of_eq ?_) (flatMap_sections_cons ys L _).symm
    exact List.flatMap_congr fun y _ => List.flatMap_congr fun s _ => hf _ _ (List.Perm.swap x y s)
  | trans _ _ ih ih' => exact (ih f hf).trans (ih' f hf)

end Order

namespace Row

variable {r r' : Row}

theorem Agrees.of_subset (h : r.Agrees) (hsub : ∀ a ∈ r', a ∈ r) : r'.Agrees :=
  fun a ha b hb => h a (hsub a ha) b (hsub b hb)

theorem agrees_congr (h : ∀ a, a ∈ r ↔ a ∈ r') : r.Agrees ↔ r'.Agrees :=
  ⟨fun hr => hr.of_subset fun a ha => (h a).2 ha, fun hr => hr.of_subset fun a ha => (h a).1 ha⟩

theorem Agrees.lookup_eq_some_iff (h : r.Agrees) {name s : String} :
    r.lookup name = some s ↔ (name, s) ∈ r := by
  refine ⟨Table.mem_of_lookup, fun hmem => ?_⟩
  cases hlookup : r.lookup name with
  | none => exact absurd (List.mem_map_of_mem hmem) (Table.lookup_eq_none_iff_not_mem.1 hlookup)
  | some s' =>
    have hsame : s' = s := h _ (Table.mem_of_lookup hlookup) _ hmem rfl
    rw [hsame]

theorem Agrees.term?_congr (hr : r.Agrees) (h : ∀ a, a ∈ r ↔ a ∈ r') : r.term? = r'.term? := by
  have hr' : r'.Agrees := (agrees_congr h).1 hr
  funext name
  have hlookup : r.lookup name = r'.lookup name := by
    refine Option.ext fun s => ?_
    rw [hr.lookup_eq_some_iff, hr'.lookup_eq_some_iff, h]
  rw [term?, term?, hlookup]

end Row

theorem answersAfter_perm {r : Row} {L L' : List (List Row)} (h : L.Perm L') :
    (answersAfter r L).Perm (answersAfter r L') := by
  refine flatMap_sections_perm h _ fun s s' hs => ?_
  have hmem : ∀ a, a ∈ r ++ s.flatten ↔ a ∈ r ++ s'.flatten := fun a => by
    simp only [List.mem_append, hs.flatten.mem_iff]
  by_cases hagrees : (r ++ s.flatten).Agrees
  · rw [if_pos hagrees, if_pos ((Row.agrees_congr hmem).1 hagrees), hagrees.term?_congr hmem]
  · rw [if_neg hagrees, if_neg fun h => hagrees ((Row.agrees_congr hmem).2 h)]

theorem joinAnswers_congr_perm (registry : Registry) (ix : Index) {pgs pgs' : List (Pattern × Term)}
    (h : pgs.Perm pgs') : (joinAnswers registry ix pgs).Perm (joinAnswers registry ix pgs') :=
  answersAfter_perm (h.map _)

theorem answersAfter_cons (r : Row) (rows : List Row) (L : List (List Row)) :
    (answersAfter r (rows :: L)).Perm (rows.flatMap fun row => answersAfter (r ++ row) L) := by
  refine (flatMap_sections_cons rows L _).trans (List.Perm.of_eq ?_)
  simp only [answersAfter, List.flatten_cons, List.append_assoc]

theorem answersAfter_eq_nil {r : Row} (h : ¬ r.Agrees) (L : List (List Row)) : answersAfter r L = [] := by
  rw [answersAfter, List.flatMap_eq_nil_iff]
  intro rows _
  rw [if_neg fun hagrees => h (hagrees.of_subset fun a ha => List.mem_append_left _ ha)]

end TripleIndex
