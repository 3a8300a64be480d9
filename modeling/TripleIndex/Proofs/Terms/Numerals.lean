import TripleIndex.Proofs.Numbers.Shapes
import TripleIndex.Proofs.Replace

/-!
Numbers hold no other characters than those of numbers, and no `n` among them. So nothing in the lexical form of a
number that its codec takes, nor in the quoted form of it, stands for a special value of another spelling.
-/

namespace TripleIndex

variable {cs : List Char} {c : Char}

theorem notMem_of_encode {l : Literal} {fields : List (String × Scalar)}
    (h : CodecFamily.numeric.encode l = .ok fields) {c : Char} (hblank : isBlank c = false)
    (hnumber : isNumberChar c = false) (hname : c ∉ "NaN".toList) : c ∉ l.lexical.toList := by
  have htrim : c ∉ trim l.lexical.toList := by
    unfold CodecFamily.encode at h
    dsimp only at h
    split at h
    · cases h
    obtain ⟨_, -, h⟩ := bind_eq_ok.1 h
    split at h
    · obtain ⟨_, -, h⟩ := bind_eq_ok.1 h
      obtain ⟨value, hvalue, -⟩ := bind_eq_ok.1 h
      obtain ⟨x, hx, -⟩ := map_eq_ok.1 hvalue
      unfold CodecFamily.numericValue at hx
      dsimp only at hx
      split at hx
      · next hshape => exact fun hmem => by simp [isNumberChar_of_isDoubleShape hshape c hmem] at hnumber
      · cases hx
    · next hnan =>
      have htext : trim l.lexical.toList = "NaN".toList := by simpa [CodecFamily.isIndexable] using hnan
      rwa [htext]
  intro hmem
  have htrimmed : isBlank c = true ∨ c ∈ trim l.lexical.toList := mem_trimWhere_or hmem
  rw [hblank] at htrimmed
  exact htrimmed.elim Bool.false_ne_true htrim

theorem mem_of_mem_escapeLastQuote (h : c ∈ escapeLastQuote cs) : c = '\\' ∨ c ∈ cs := by
  unfold escapeLastQuote at h
  split at h
  · next d rest hreverse =>
    split at h
    · exact .inr h
    · have hcs : cs = rest.reverse ++ [d, '"'] := by
        rw [← List.reverse_reverse cs, hreverse]
        simp
      rw [hcs]
      simp only [List.mem_append, List.mem_cons] at h ⊢
      rcases h with h | h | h | h | h
      · exact .inr (.inl h)
      · exact .inr (.inr (.inl h))
      · exact .inl h
      · exact .inr (.inr (.inr (.inl h)))
      · exact .inr (.inr (.inr (.inr h)))
  · exact .inr h

theorem n_notMem_flatMap {spell : Char → List Char} (hspell : ∀ c, 'n' ∈ spell c → c = 'n') (h : 'n' ∉ cs) :
    'n' ∉ cs.flatMap spell := by
  rw [List.mem_flatMap]
  rintro ⟨c, hc, hmem⟩
  exact h (hspell c hmem ▸ hc)

theorem n_notMem_quotedForm (h : 'n' ∉ cs) : 'n' ∉ quotedForm cs := by
  have hdouble : ∀ c, 'n' ∈ doubleBackslash c → c = 'n' := by
    intro c hmem
    unfold doubleBackslash at hmem
    split at hmem
    · simp at hmem
    · exact (List.mem_singleton.1 hmem).symm
  have hreturn : ∀ c, 'n' ∈ escapeReturn c → c = 'n' := by
    intro c hmem
    unfold escapeReturn at hmem
    split at hmem
    · simp at hmem
    · exact (List.mem_singleton.1 hmem).symm
  have hsingle : ∀ c, 'n' ∈ escapeSingle c → c = 'n' := by
    intro c hmem
    unfold escapeSingle at hmem
    split at hmem
    · simp at hmem
    split at hmem
    · simp at hmem
    split at hmem
    · simp at hmem
    · exact (List.mem_singleton.1 hmem).symm
  unfold quotedForm
  split
  · have hguarded : 'n' ∉ escapeLastQuote
        (replaceAll threeQuotes ['\\', '"', '\\', '"', '\\', '"'] (cs.flatMap doubleBackslash)) := by
      intro hmem
      rcases mem_of_mem_escapeLastQuote hmem with hmem | hmem
      · exact absurd hmem (by decide)
      · rcases mem_of_mem_replaceAll hmem with hmem | hmem
        · exact absurd hmem (by decide)
        · exact n_notMem_flatMap hdouble h hmem
    simpa [threeQuotes] using n_notMem_flatMap hreturn hguarded
  · simpa using n_notMem_flatMap hsingle h

theorem spellSpecial_quotedForm (h : 'n' ∉ cs) : spellSpecial cs (quotedForm cs) = quotedForm cs := by
  have hn := n_notMem_quotedForm h
  unfold spellSpecial
  split
  · rw [spellInfinity, replaceAll_of_notMem (show 'n' ∈ "inf".toList by decide) hn]
    exact replaceAll_of_notMem (show 'n' ∈ "Infinity".toList by decide) hn
  · exact replaceAll_of_notMem (show 'n' ∈ "nan".toList by decide) hn
  · rfl

end TripleIndex
