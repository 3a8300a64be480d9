import TripleIndex.Proofs.Replace
import TripleIndex.Proofs.Terms.Escapes

/-!
What becomes of the text between quotes. Readers of forms first resolve escaped quotes and then keep `\x`
from being an escape. Of the two backslashes that a backslash is written with, the first step takes one
away where a quote comes after them that has no backslash of its own, as in three quotes, and the second
step adds one where an `x` comes after them. Everything else is as it was written.
-/

namespace TripleIndex

/-- A text with its carriage returns escaped and a number of backslashes for each backslash, which depends
on what comes after it. -/
def spelledWith (count : List Char → Nat) : List Char → List Char
  | [] => []
  | c :: cs => (if c = '\\' then List.replicate (count cs) '\\' else escapeReturn c) ++ spelledWith count cs

/-- Whether the text begins with a quote that is written without a backslash in three quotes. -/
def isBareQuote (cs : List Char) : Bool := cs.head? = some '"' && !threeQuotes.isPrefixOf cs

/-- The backslashes for a backslash after escaped quotes are resolved. -/
def countUnquoted (wide : Bool) (rest : List Char) : Nat := if wide && isBareQuote rest then 1 else 2

/-- The backslashes for a backslash in what is decoded. -/
def countDecoded (wide : Bool) (rest : List Char) : Nat :=
  if rest.head? = some 'x' then 3 else countUnquoted wide rest

variable {count : List Char → Nat} {c : Char} {cs : List Char}

theorem spelledWith_backslash : spelledWith count ('\\' :: cs) = List.replicate (count cs) '\\' ++ spelledWith count cs :=
  rfl

theorem spelledWith_return : spelledWith count ('\r' :: cs) = '\\' :: 'r' :: spelledWith count cs := rfl

theorem spelledWith_cons (hc : c ≠ '\\') (hreturn : c ≠ '\r') :
    spelledWith count (c :: cs) = c :: spelledWith count cs := by
  rw [spelledWith, if_neg hc, escapeReturn, if_neg hreturn]
  rfl

theorem one_le_countUnquoted (wide : Bool) (rest : List Char) : 1 ≤ countUnquoted wide rest := by
  unfold countUnquoted
  split <;> decide

theorem head?_spelledWith (hcount : ∀ rest, 1 ≤ count rest) (hc : c ≠ '\\') (hreturn : c ≠ '\r') :
    (spelledWith count cs).head? = some c ↔ cs.head? = some c := by
  cases cs with
  | nil => rfl
  | cons d cs =>
    by_cases hd : d = '\\'
    · obtain ⟨n, hn⟩ : ∃ n, count cs = n + 1 := Nat.exists_eq_add_of_le' (hcount cs)
      subst hd
      rw [spelledWith_backslash, hn, List.replicate_succ]
      simp [hc.symm]
    · by_cases hd' : d = '\r'
      · subst hd'
        rw [spelledWith_return]
        simp [hc.symm, hreturn.symm]
      · rw [spelledWith_cons hd hd']
        rfl

/-! ## Escaped quotes -/

def unquote (cs : List Char) : List Char := replaceAll ['\\', '"'] ['"'] cs

theorem head?_escapeSingle : (cs.flatMap escapeSingle).head? ≠ some '"' := by
  cases cs with
  | nil => simp
  | cons c cs =>
    rw [List.flatMap_cons, escapeSingle]
    split
    · simp
    split
    · simp
    split
    · simp
    · next hquote _ => simpa using hquote

theorem unquote_escapeSingle (cs : List Char) :
    unquote (cs.flatMap escapeSingle) = spelledWith (countUnquoted false) cs := by
  induction cs with
  | nil => rfl
  | cons c cs ih =>
    unfold unquote at ih ⊢
    rw [List.flatMap_cons, escapeSingle]
    split
    · next hc =>
      subst hc
      rw [List.cons_append, List.cons_append, List.nil_append, replacePair_cons_of_head? (by simp),
        replacePair_cons_of_head? head?_escapeSingle, ih]
      rfl
    · next hc =>
      split
      · next hquote =>
        subst hquote
        rw [List.cons_append, List.cons_append, List.nil_append, replacePair_cons_cons, ih,
          spelledWith_cons (by decide) (by decide)]
        rfl
      · split
        · next hreturn =>
          subst hreturn
          rw [List.cons_append, List.cons_append, List.nil_append, replacePair_cons_of_head? (by simp),
            replacePair_cons_of_ne (by decide), ih]
          rfl
        · next hreturn =>
          rw [List.singleton_append, replacePair_cons_of_ne hc, ih, spelledWith_cons hc hreturn]

/-- A text between three quotes, before its last quote is looked at. -/
def guarded (cs : List Char) : List Char :=
  (replaceAll threeQuotes ['\\', '"', '\\', '"', '\\', '"'] (cs.flatMap doubleBackslash)).flatMap escapeReturn

theorem twoQuotes_prefix (h : ['"', '"'] <+: cs.flatMap doubleBackslash) : ['"', '"'] <+: cs := by
  match cs with
  | [] => simp at h
  | [c] =>
    by_cases hc : c = '\\'
    · subst hc
      simp [doubleBackslash] at h
    · simp [doubleBackslash, hc] at h
  | c :: d :: cs =>
    by_cases hc : c = '\\'
    · subst hc
      simp [doubleBackslash] at h
    · by_cases hd : d = '\\'
      · subst hd
        simp [doubleBackslash, hc] at h
      · simpa [doubleBackslash, hc, hd] using h

theorem guarded_backslash : guarded ('\\' :: cs) = '\\' :: '\\' :: guarded cs := by
  have hpiece : ∀ cs, ¬ threeQuotes <+: '\\' :: cs := by simp [threeQuotes]
  have hdouble : ('\\' :: cs).flatMap doubleBackslash = '\\' :: '\\' :: cs.flatMap doubleBackslash := rfl
  rw [guarded, hdouble, replaceAll_cons (hpiece _), replaceAll_cons (hpiece _)]
  rfl

theorem guarded_threeQuotes :
    guarded (threeQuotes ++ cs) = ['\\', '"', '\\', '"', '\\', '"'] ++ guarded cs := by
  have hdouble : (threeQuotes ++ cs).flatMap doubleBackslash = threeQuotes ++ cs.flatMap doubleBackslash := rfl
  rw [guarded, hdouble, replaceAll_append_self (by simp [threeQuotes]), List.flatMap_append]
  rfl

theorem guarded_cons (hc : c ≠ '\\') (h : ¬ threeQuotes <+: c :: cs) :
    guarded (c :: cs) = escapeReturn c ++ guarded cs := by
  have hdouble : (c :: cs).flatMap doubleBackslash = c :: cs.flatMap doubleBackslash := by
    rw [List.flatMap_cons, doubleBackslash, if_neg hc]
    rfl
  have hpiece : ¬ threeQuotes <+: c :: cs.flatMap doubleBackslash := by
    intro hfront
    obtain ⟨hquote, hfront⟩ := List.cons_prefix_cons.1 hfront
    exact h (List.cons_prefix_cons.2 ⟨hquote, twoQuotes_prefix hfront⟩)
  rw [guarded, hdouble, replaceAll_cons hpiece, List.flatMap_cons, guarded]

/-- Induction over what is written between three quotes: three quotes are taken at once. -/
theorem guarded_induction {P : List Char → Prop} (nil : P [])
    (quotes : ∀ cs, P cs → P (threeQuotes ++ cs)) (backslash : ∀ cs, P cs → P ('\\' :: cs))
    (char : ∀ c cs, c ≠ '\\' → ¬ threeQuotes <+: c :: cs → P cs → P (c :: cs)) (cs : List Char) : P cs := by
  induction hlength : cs.length using Nat.strong_induction_on generalizing cs with
  | _ n ih =>
    cases cs with
    | nil => exact nil
    | cons c cs =>
      have hshort : cs.length < n := hlength ▸ Nat.lt_succ_self _
      by_cases hfront : threeQuotes <+: c :: cs
      · obtain ⟨rest, hrest⟩ := hfront
        have hlonger : rest.length < n := by
          rw [← hlength, ← hrest, List.length_append]
          exact Nat.lt_add_of_pos_left (by decide)
        rw [← hrest]
        exact quotes rest (ih rest.length hlonger rest rfl)
      · by_cases hc : c = '\\'
        · exact hc ▸ backslash cs (ih cs.length hshort cs rfl)
        · exact char c cs hc hfront (ih cs.length hshort cs rfl)

theorem head?_guarded : (guarded cs).head? = some '"' ↔ isBareQuote cs = true := by
  cases cs with
  | nil => simp [guarded, isBareQuote]
  | cons c cs =>
    by_cases hfront : threeQuotes <+: c :: cs
    · obtain ⟨rest, hrest⟩ := hfront
      rw [← hrest, guarded_threeQuotes]
      simp [isBareQuote, threeQuotes]
    · by_cases hc : c = '\\'
      · subst hc
        rw [guarded_backslash]
        simp [isBareQuote]
      · rw [guarded_cons hc hfront, escapeReturn]
        have hnone : threeQuotes.isPrefixOf (c :: cs) = false := by
          rw [← Bool.not_eq_true, List.isPrefixOf_iff_prefix]
          exact hfront
        split
        · next hreturn => simp [isBareQuote, hreturn]
        · simp [isBareQuote, hnone]

/-- Between three quotes a backslash before a bare quote loses its own backslash. -/
theorem unquote_guarded (cs : List Char) : unquote (guarded cs) = spelledWith (countUnquoted true) cs := by
  unfold unquote
  induction cs using guarded_induction with
  | nil => rfl
  | quotes cs ih =>
    rw [guarded_threeQuotes]
    simp only [List.cons_append, List.nil_append, replacePair_cons_cons]
    rw [ih]
    rfl
  | backslash cs ih =>
    rw [guarded_backslash, replacePair_cons_of_head? (by simp), spelledWith_backslash, countUnquoted, Bool.true_and]
    by_cases hbare : isBareQuote cs = true
    · obtain ⟨rest, hrest⟩ := List.head?_eq_some_iff.1 (head?_guarded.2 hbare)
      rw [hrest, replacePair_cons_of_ne (by decide)] at ih
      rw [if_pos hbare, hrest, replacePair_cons_cons, ← ih]
      rfl
    · rw [if_neg hbare, replacePair_cons_of_head? (fun h => hbare (head?_guarded.1 h)), ih]
      rfl
  | char c cs hc hfront ih =>
    rw [guarded_cons hc hfront, escapeReturn]
    split
    · next hreturn =>
      subst hreturn
      rw [List.cons_append, List.cons_append, List.nil_append, replacePair_cons_of_head? (by simp),
        replacePair_cons_of_ne (by decide), ih]
      rfl
    · next hreturn => rw [List.singleton_append, replacePair_cons_of_ne hc, ih, spelledWith_cons hc hreturn]

theorem unquote_escapeLastQuote (cs : List Char) :
    unquote ((escapeLastQuote cs).flatMap escapeReturn) = unquote (cs.flatMap escapeReturn) := by
  unfold escapeLastQuote
  split
  · next c rest hreverse =>
    split
    · rfl
    · next hc =>
      have hcs : cs = rest.reverse ++ [c] ++ ['"'] := by
        rw [← List.reverse_reverse cs, hreverse]
        simp
      have hlast : ((rest.reverse ++ [c]).flatMap escapeReturn).getLast? ≠ some '\\' := by
        rw [List.flatMap_append, List.flatMap_singleton, escapeReturn]
        split <;> simp [hc]
      have happend : ∀ tail : List Char,
          replaceAll ['\\', '"'] ['"'] ((rest.reverse ++ [c]).flatMap escapeReturn ++ tail) =
            replaceAll ['\\', '"'] ['"'] ((rest.reverse ++ [c]).flatMap escapeReturn) ++
              replaceAll ['\\', '"'] ['"'] tail :=
        fun tail => replacePair_append (by decide) fun h => absurd h hlast
      have hescaped : (rest.reverse ++ [c, '\\', '"']).flatMap escapeReturn =
          (rest.reverse ++ [c]).flatMap escapeReturn ++ ['\\', '"'] := by
        simp [List.flatMap_append, escapeReturn]
      have hbare : cs.flatMap escapeReturn = (rest.reverse ++ [c]).flatMap escapeReturn ++ ['"'] := by
        rw [hcs, List.flatMap_append]
        rfl
      rw [unquote, unquote, hescaped, hbare, happend, happend]
      rfl
  · rfl

/-! ## The letter x -/

theorem replaceAll_hex (wide : Bool) (cs : List Char) :
    replaceAll ['\\', 'x'] ['\\', '\\', 'x'] (spelledWith (countUnquoted wide) cs) =
      spelledWith (countDecoded wide) cs := by
  have hhead : ∀ rest, (spelledWith (countUnquoted wide) rest).head? = some 'x' ↔ rest.head? = some 'x' :=
    fun rest => head?_spelledWith (one_le_countUnquoted wide) (by decide) (by decide)
  induction cs with
  | nil => rfl
  | cons c cs ih =>
    by_cases hc : c = '\\'
    · subst hc
      rw [spelledWith_backslash, spelledWith_backslash, countDecoded]
      by_cases hx : cs.head? = some 'x'
      · have hcount : countUnquoted wide cs = 2 := by simp [countUnquoted, isBareQuote, hx]
        obtain ⟨rest, hrest⟩ := List.head?_eq_some_iff.1 ((hhead cs).2 hx)
        rw [hrest, replacePair_cons_of_ne (by decide)] at ih
        rw [if_pos hx, hcount, hrest, List.replicate_succ, List.cons_append,
          replacePair_cons_of_head? (by simp), List.replicate_one, List.singleton_append,
          replacePair_cons_cons, ← ih]
        rfl
      · have hnone : (spelledWith (countUnquoted wide) cs).head? ≠ some 'x' := fun h => hx ((hhead cs).1 h)
        rw [if_neg hx, countUnquoted]
        split
        · rw [List.replicate_one, List.singleton_append, replacePair_cons_of_head? hnone, ih]
          rfl
        · rw [List.replicate_succ, List.cons_append, replacePair_cons_of_head? (by simp),
            List.replicate_one, List.singleton_append, replacePair_cons_of_head? hnone, ih]
          rfl
    · by_cases hreturn : c = '\r'
      · subst hreturn
        rw [spelledWith_return, replacePair_cons_of_head? (by simp), replacePair_cons_of_ne (by decide), ih,
          spelledWith_return]
      · rw [spelledWith_cons hc hreturn, replacePair_cons_of_ne hc, ih, spelledWith_cons hc hreturn]

end TripleIndex
