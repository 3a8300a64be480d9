import TripleIndex.Proofs.Outcome
import TripleIndex.Term.Form

/-!
Which literals have a canonical form. The tag has to be a language tag and the datatype a text, integers have to be
short enough to be written, and nothing of what a form shows may be a surrogate.
-/

namespace TripleIndex

variable {hidden : List Nat} {cs : List Char} {form : String} {l : Literal}

theorem encodable_eq_ok : encodable hidden cs = .ok form ↔ hidden.any isSurrogate = false ∧ form.toList = cs := by
  unfold encodable
  split
  · next hsurrogate => simp [hsurrogate]
  · next hsurrogate =>
    rw [Except.ok.injEq, ← String.toList_inj, String.toList_ofList]
    exact ⟨fun h => ⟨Bool.eq_false_iff.2 hsurrogate, h.symm⟩, fun h => h.2.symm⟩

theorem any_isSurrogate_points_text (s : String) : (Scalar.text s).points.any isSurrogate = false := by
  rw [List.any_eq_false]
  intro n hn
  obtain ⟨c, -, rfl⟩ := List.mem_map.1 hn
  simp [isSurrogate_toNat]

theorem any_isSurrogate_replaced_text (s : String) : (replaced (Scalar.text s).points).any isSurrogate = false :=
  List.any_eq_false.2 fun n hn =>
    List.any_eq_false.1 (any_isSurrogate_points_text s) n (List.mem_filter.1 hn).1

namespace Literal

def HasLanguageTag (l : Literal) : Prop := ∀ v ∈ l.language?, ∃ tag, v = .text tag ∧ isLanguageTag tag.toList = true

theorem hasLanguageTag_of_formChars (h : l.formChars = .ok cs) : l.HasLanguageTag := by
  intro v hv
  have hlanguage : l.language? = some v := hv
  unfold formChars at h
  rw [hlanguage] at h
  cases v with
  | text tag =>
    dsimp only at h
    split at h
    · next htag => exact ⟨tag, rfl, htag⟩
    · cases h
  | _ => cases h

theorem exists_formChars (h : l.HasLanguageTag) : ∃ cs, l.formChars = .ok cs := by
  unfold formChars
  dsimp only
  cases hlanguage : l.language? with
  | some v =>
    obtain ⟨tag, rfl, htag⟩ := h v hlanguage
    exact ⟨_, if_pos htag⟩
  | none => cases l.datatype? <;> exact ⟨_, rfl⟩

theorem form_eq_ok : l.form = .ok form ↔ l.hasDatatypeText = true ∧ l.isWritable = true ∧
    l.hidden.any isSurrogate = false ∧ l.formChars = .ok form.toList := by
  unfold Literal.form
  split
  · next hdatatype => simp_all
  split
  · next hwritable => simp_all
  · next hdatatype hwritable =>
    have hchars : l.formChars.bind (encodable l.hidden) = .ok form ↔
        l.hidden.any isSurrogate = false ∧ l.formChars = .ok form.toList := by
      refine bind_eq_ok.trans ?_
      simp only [encodable_eq_ok]
      constructor
      · rintro ⟨cs, hcs, hhidden, rfl⟩
        exact ⟨hhidden, hcs⟩
      · rintro ⟨hhidden, hcs⟩
        exact ⟨_, hcs, hhidden, rfl⟩
    rw [hchars]
    simp_all

theorem isWritable_of_form (h : l.form = .ok form) : l.isWritable = true := (form_eq_ok.1 h).2.1

theorem hasLanguageTag_of_form (h : l.form = .ok form) : l.HasLanguageTag :=
  hasLanguageTag_of_formChars (form_eq_ok.1 h).2.2.2

end Literal

theorem Term.isWritable_of_form {t : Term} (h : t.form = .ok form) : t.isWritable = true := by
  cases t with
  | literal l => exact l.isWritable_of_form h
  | iriOfValue v =>
    cases v with
    | codePoints ns => rfl
    | _ => cases h
  | _ => rfl

end TripleIndex
