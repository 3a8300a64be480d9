import Mathlib.Data.List.Nodup
import TripleIndex.Names

/-!
Tables whose keys are all different. An entry stands in such a table exactly if it is looked up there,
and changing one key leaves the keys different and the other entries where they are.
-/

set_option linter.unusedSectionVars false

namespace TripleIndex

namespace Table

variable {κ α β : Type} [DecidableEq κ]

/-- No key stands twice. -/
def Distinct (table : Table κ α) : Prop := (table.map Prod.fst).Nodup

instance (table : Table κ α) : Decidable table.Distinct := inferInstanceAs (Decidable (List.Nodup _))

theorem mem_of_lookup {table : Table κ α} {key : κ} {a : α} (h : table.lookup key = some a) :
    (key, a) ∈ table := by
  obtain ⟨front, back, rfl, -⟩ := List.lookup_eq_some_iff.1 h
  simp

theorem Distinct.lookup_eq_some_iff {table : Table κ α} (h : table.Distinct) {key : κ} {a : α} :
    table.lookup key = some a ↔ (key, a) ∈ table := by
  refine ⟨mem_of_lookup, fun hmem => ?_⟩
  obtain ⟨front, back, rfl⟩ := List.append_of_mem hmem
  refine List.lookup_eq_some_iff.2 ⟨front, back, rfl, fun entry hentry => ?_⟩
  rw [Distinct, List.map_append, List.map_cons, List.nodup_middle, List.nodup_cons] at h
  have hmem : entry.1 ∈ front.map Prod.fst := List.mem_map_of_mem hentry
  have hne : key ≠ entry.1 := fun heq => h.1 (List.mem_append_left _ (heq ▸ hmem))
  simpa using hne

theorem Distinct.filter {table : Table κ α} (h : table.Distinct) (test : κ × α → Bool) :
    Distinct (table.filter test) :=
  List.Nodup.sublist (List.filter_sublist.map Prod.fst) h

theorem lookup_eq_none_iff_not_mem {table : Table κ α} {key : κ} :
    table.lookup key = none ↔ key ∉ table.map Prod.fst := by
  rw [List.lookup_eq_none_iff]
  simp only [List.mem_map, not_exists, not_and, bne_iff_ne]
  exact ⟨fun h entry hentry heq => h entry hentry heq.symm, fun h entry hentry heq => h entry hentry heq.symm⟩

theorem without_eq_filter (table : Table κ α) (key : κ) :
    table.without key = table.filter (·.1 ≠ key) := by
  unfold without
  split
  · rfl
  · next h =>
    have hnone : table.lookup key = none := Option.not_isSome_iff_eq_none.1 h
    refine (List.filter_eq_self.2 fun entry hentry => ?_).symm
    have hne := List.lookup_eq_none_iff.1 hnone entry hentry
    rw [bne_iff_ne] at hne
    simpa using Ne.symm hne

theorem lookup_without_self (table : Table κ α) (key : κ) : (table.without key).lookup key = none := by
  rw [without_eq_filter, List.lookup_eq_none_iff]
  intro entry hentry
  have hne : entry.1 ≠ key := by simpa using (List.mem_filter.1 hentry).2
  exact bne_iff_ne.2 hne.symm

theorem Distinct.without {table : Table κ α} (h : table.Distinct) (key : κ) :
    (table.without key).Distinct := by
  rw [without_eq_filter]
  exact h.filter _

theorem Distinct.put {table : Table κ α} (h : table.Distinct) (key : κ) (a : α) :
    (table.put key a).Distinct :=
  List.nodup_cons.2 ⟨lookup_eq_none_iff_not_mem.1 (lookup_without_self table key), h.without key⟩

theorem lookup_map (table : Table κ α) (f : κ → α → β) (key : κ) :
    (table.map fun entry => (entry.1, f entry.1 entry.2)).lookup key = (table.lookup key).map (f key) := by
  induction table with
  | nil => rfl
  | cons entry table ih =>
    obtain ⟨k, a⟩ := entry
    rw [List.map_cons, List.lookup_cons, List.lookup_cons, ih]
    by_cases hk : key = k
    · simp [hk]
    · simp [beq_false_of_ne hk]

end Table

end TripleIndex
