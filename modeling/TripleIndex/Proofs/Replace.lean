import Mathlib.Data.List.Infix
import TripleIndex.Text.Replace

/-!
Replacement and splitting. What a replacement does at the front of a text is decided there, so a
replacement goes piece by piece through a text whose pieces share no occurrence.
-/

namespace TripleIndex

variable {old new cs : List Char} {c : Char}

theorem replaceFrom_append (a : List Char) : replaceFrom old new a.length (a ++ cs) = replaceAll old new cs := by
  induction a with
  | nil => rfl
  | cons c a ih => exact ih

@[simp] theorem replaceAll_nil : replaceAll old new [] = [] := rfl

theorem replaceAll_append_self (hold : old ≠ []) (cs : List Char) :
    replaceAll old new (old ++ cs) = new ++ replaceAll old new cs := by
  cases old with
  | nil => exact absurd rfl hold
  | cons p old =>
    have hfront : (p :: old).isPrefixOf (p :: (old ++ cs)) = true :=
      List.isPrefixOf_iff_prefix.2 (List.prefix_append (p :: old) cs)
    rw [replaceAll, List.cons_append, replaceFrom, if_pos hfront, List.length_cons, Nat.add_sub_cancel,
      replaceFrom_append]

theorem replaceAll_cons (h : ¬ old <+: c :: cs) : replaceAll old new (c :: cs) = c :: replaceAll old new cs := by
  rw [replaceAll, replaceFrom, if_neg (fun hfront => h (List.isPrefixOf_iff_prefix.1 hfront)), replaceAll]

theorem replaceAll_of_not_infix (h : ¬ old <:+: cs) : replaceAll old new cs = cs := by
  induction cs with
  | nil => rfl
  | cons c cs ih =>
    rw [replaceAll_cons fun hfront => h hfront.isInfix, ih fun hwithin => h (List.infix_cons hwithin)]

theorem replaceAll_of_notMem (hc : c ∈ old) (h : c ∉ cs) : replaceAll old new cs = cs :=
  replaceAll_of_not_infix fun hwithin => h (hwithin.subset hc)

theorem mem_of_mem_replaceAll {skip : Nat} (h : c ∈ replaceFrom old new skip cs) : c ∈ new ∨ c ∈ cs := by
  induction cs generalizing skip with
  | nil => cases h
  | cons d cs ih =>
    cases skip with
    | succ skip => exact (ih h).imp_right (List.mem_cons_of_mem d)
    | zero =>
      rw [replaceFrom] at h
      split at h
      · rcases List.mem_append.1 h with h | h
        · exact .inl h
        · exact (ih h).imp_right (List.mem_cons_of_mem d)
      · rcases List.mem_cons.1 h with rfl | h
        · exact .inr List.mem_cons_self
        · exact (ih h).imp_right (List.mem_cons_of_mem d)

section Pairs

variable {p q : Char}

theorem pair_prefix_iff {cs : List Char} : [p, q] <+: c :: cs ↔ c = p ∧ cs.head? = some q := by
  cases cs with
  | nil => simp
  | cons d cs => simp [List.cons_prefix_cons, eq_comm]

theorem replacePair_cons_of_ne (h : c ≠ p) :
    replaceAll [p, q] new (c :: cs) = c :: replaceAll [p, q] new cs :=
  replaceAll_cons fun hfront => h (pair_prefix_iff.1 hfront).1

theorem replacePair_cons_of_head? (h : cs.head? ≠ some q) :
    replaceAll [p, q] new (c :: cs) = c :: replaceAll [p, q] new cs :=
  replaceAll_cons fun hfront => h (pair_prefix_iff.1 hfront).2

theorem replacePair_cons_cons : replaceAll [p, q] new (p :: q :: cs) = new ++ replaceAll [p, q] new cs :=
  replaceAll_append_self (by simp) cs

/-- An occurrence of two different characters lies in one of two pieces, unless the first one ends as it
begins and the second one begins as it ends. -/
theorem replacePair_append (hpq : p ≠ q) {a b : List Char} (h : a.getLast? = some p → b.head? ≠ some q) :
    replaceAll [p, q] new (a ++ b) = replaceAll [p, q] new a ++ replaceAll [p, q] new b := by
  -- an occurrence takes two characters at once, so the induction is on the length
  induction hlength : a.length using Nat.strong_induction_on generalizing a with
  | _ n ih =>
    match a with
    | [] => rfl
    | [c] =>
      by_cases hc : c = p
      · rw [List.singleton_append, replacePair_cons_of_head? (h (by simp [hc])),
          replacePair_cons_of_head? (by simp)]
        rfl
      · rw [List.singleton_append, replacePair_cons_of_ne hc, replacePair_cons_of_ne hc]
        rfl
    | c :: d :: a =>
      by_cases hoccurs : c = p ∧ d = q
      · obtain ⟨rfl, rfl⟩ := hoccurs
        have hrest : a.getLast? = some c → b.head? ≠ some d := by
          intro hlast
          refine h ?_
          cases a with
          | nil => cases hlast
          | cons e a => simpa using hlast
        have hshort : a.length < n := hlength ▸ Nat.lt_succ_of_lt (Nat.lt_succ_self _)
        rw [List.cons_append, List.cons_append, replacePair_cons_cons, replacePair_cons_cons,
          ih a.length hshort hrest rfl, List.append_assoc]
      · have hfront : ∀ cs : List Char, ¬ [p, q] <+: c :: d :: cs := by
          intro cs hfront
          have := pair_prefix_iff.1 hfront
          exact hoccurs ⟨this.1, by simpa using this.2⟩
        have hrest : (d :: a).getLast? = some p → b.head? ≠ some q := fun hlast => h (by simpa using hlast)
        have ih := ih (d :: a).length (by simp [← hlength]) hrest rfl
        rw [List.cons_append] at ih
        rw [List.cons_append, List.cons_append, replaceAll_cons (hfront _), replaceAll_cons (hfront _), ih,
          List.cons_append]

end Pairs

/-! ## Splitting -/

theorem splitLast?_eq_none {mark : List Char} (h : ¬ mark <:+: cs) : splitLast? mark cs = none := by
  induction cs with
  | nil =>
    rw [splitLast?, if_neg]
    intro hempty
    rw [List.isEmpty_iff.1 hempty] at h
    exact h (List.infix_refl [])
  | cons c cs ih =>
    rw [splitLast?, ih fun hwithin => h (List.infix_cons hwithin)]
    exact if_neg fun hfront => h (List.isPrefixOf_iff_prefix.1 hfront).isInfix

theorem splitLast?_append {m : Char} {mark before after : List Char} (h : ¬ m :: mark <:+: mark ++ after) :
    splitLast? (m :: mark) (before ++ (m :: mark) ++ after) = some (before, after) := by
  induction before with
  | nil =>
    have hfront : (m :: mark).isPrefixOf (m :: (mark ++ after)) = true :=
      List.isPrefixOf_iff_prefix.2 (List.prefix_append (m :: mark) after)
    rw [List.nil_append, List.cons_append, splitLast?, splitLast?_eq_none h]
    simp [hfront]
  | cons c before ih => rw [List.cons_append, List.cons_append, splitLast?, ih]

theorem splitFirst?_append {mark : Char} {before : List Char} (h : mark ∉ before) (after : List Char) :
    splitFirst? mark (before ++ mark :: after) = some (before, after) := by
  induction before with
  | nil => exact if_pos rfl
  | cons c before ih =>
    rw [List.mem_cons, not_or] at h
    rw [List.cons_append, splitFirst?, if_neg (Ne.symm h.1), ih h.2]
    rfl

theorem notMem_of_splitFirst? {mark : Char} {before after : List Char}
    (h : splitFirst? mark cs = some (before, after)) : mark ∉ before := by
  induction cs generalizing before with
  | nil => cases h
  | cons c cs ih =>
    rw [splitFirst?] at h
    split at h
    · cases h
      exact List.not_mem_nil
    · next hc =>
      obtain ⟨⟨b, a⟩, hb, heq⟩ := Option.map_eq_some_iff.1 h
      cases heq
      exact List.not_mem_cons_of_ne_of_not_mem (Ne.symm hc) (ih hb)

end TripleIndex
