import Mathlib.Data.List.TakeWhile
import TripleIndex.Text.Blank

/-!
Trimmed texts. Only blank characters are left out, at both ends, and a text without them stays as it is.
-/

namespace TripleIndex

variable {blank : Char → Bool} {c : Char} {cs : List Char}

theorem exists_eq_trimEndWhere_append (blank : Char → Bool) (cs : List Char) :
    ∃ tail, cs = trimEndWhere blank cs ++ tail ∧ ∀ c ∈ tail, blank c = true := by
  induction cs with
  | nil => exact ⟨[], rfl, by simp⟩
  | cons c cs ih =>
    obtain ⟨tail, htail, hblank⟩ := ih
    have hstep : trimEndWhere blank (c :: cs) =
        if (trimEndWhere blank cs).isEmpty && blank c then [] else c :: trimEndWhere blank cs := rfl
    rw [hstep]
    split
    · next hnone =>
      obtain ⟨hempty, hc⟩ := Bool.and_eq_true_iff.1 hnone
      rw [List.isEmpty_iff.1 hempty, List.nil_append] at htail
      exact ⟨c :: tail, by rw [htail, List.nil_append], List.forall_mem_cons.2 ⟨hc, hblank⟩⟩
    · exact ⟨tail, by rw [List.cons_append, ← htail], hblank⟩

theorem trimEndWhere_of_forall (h : ∀ c ∈ cs, blank c = false) : trimEndWhere blank cs = cs := by
  obtain ⟨tail, htail, hblank⟩ := exists_eq_trimEndWhere_append blank cs
  have hnone : tail = [] := by
    refine List.eq_nil_iff_forall_not_mem.2 fun c hc => ?_
    have hmem : c ∈ cs := htail ▸ List.mem_append_right _ hc
    exact absurd (hblank c hc) (by simp [h c hmem])
  rw [hnone, List.append_nil] at htail
  exact htail.symm

theorem trimWhere_of_forall (h : ∀ c ∈ cs, blank c = false) : trimWhere blank cs = cs := by
  have hdrop : cs.dropWhile blank = cs := by
    cases cs with
    | nil => rfl
    | cons c cs => exact List.dropWhile_cons_of_neg (by simp [h c List.mem_cons_self])
  rw [trimWhere, hdrop, trimEndWhere_of_forall h]

theorem mem_of_mem_trimWhere (h : c ∈ trimWhere blank cs) : c ∈ cs := by
  obtain ⟨tail, htail, -⟩ := exists_eq_trimEndWhere_append blank (cs.dropWhile blank)
  have hdropped : c ∈ cs.dropWhile blank := htail ▸ List.mem_append_left tail h
  exact List.dropWhile_sublist blank |>.subset hdropped

theorem mem_trimWhere_or (h : c ∈ cs) : blank c = true ∨ c ∈ trimWhere blank cs := by
  obtain ⟨tail, htail, hblank⟩ := exists_eq_trimEndWhere_append blank (cs.dropWhile blank)
  have hcs : cs = cs.takeWhile blank ++ (trimWhere blank cs ++ tail) := by
    rw [trimWhere, ← htail, List.takeWhile_append_dropWhile]
  rw [hcs, List.mem_append, List.mem_append] at h
  rcases h with h | h | h
  · exact .inl (List.mem_takeWhile_imp h)
  · exact .inr h
  · exact .inl (hblank c h)

end TripleIndex
