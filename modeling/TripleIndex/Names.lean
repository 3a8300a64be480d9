import TripleIndex.Fault

/-!
Things known by a key: a later entry under a key replaces the earlier one. Where the keys are names, one
that was never entered is a fault.
-/

namespace TripleIndex

abbrev Table (κ α : Type) := List (κ × α)

/-- Things known by name. -/
abbrev Names (α : Type) := Table String α

variable {κ α : Type} [DecidableEq κ]

namespace Table

def without (table : Table κ α) (key : κ) : Table κ α :=
  if (table.lookup key).isSome then table.filter (·.1 ≠ key) else table

def put (table : Table κ α) (key : κ) (a : α) : Table κ α := (key, a) :: table.without key

theorem lookup_filter_ne {key other : κ} (h : key ≠ other) (table : Table κ α) :
    (table.filter (·.1 ≠ other)).lookup key = table.lookup key := by
  induction table with
  | nil => rfl
  | cons entry table ih =>
    obtain ⟨k, a⟩ := entry
    by_cases hk : k = other
    · subst hk
      rw [List.filter_cons_of_neg (by simp), ih, List.lookup_cons, beq_false_of_ne h]
    · rw [List.filter_cons_of_pos (by simpa using hk), List.lookup_cons, List.lookup_cons, ih]

theorem lookup_without_ne (table : Table κ α) {key other : κ} (h : key ≠ other) :
    (table.without other).lookup key = table.lookup key := by
  unfold without
  split
  · exact lookup_filter_ne h table
  · rfl

theorem lookup_put_self (table : Table κ α) (key : κ) (a : α) :
    (table.put key a).lookup key = some a := by
  simp [put]

theorem lookup_put_of_ne (table : Table κ α) {key other : κ} (h : key ≠ other) (a : α) :
    (table.put other a).lookup key = table.lookup key := by
  rw [put, List.lookup_cons, beq_false_of_ne h, lookup_without_ne table h]

end Table

namespace Names

def find (names : Names α) (name : String) : Except Fault α :=
  match names.lookup name with
  | some a => .ok a
  | none => .error (.unknownKey name)

theorem find_put_self (names : Names α) (name : String) (a : α) :
    find (names.put name a) name = .ok a := by
  simp [find, Table.lookup_put_self]

theorem find_put_of_ne (names : Names α) {name other : String} (h : name ≠ other) (a : α) :
    find (names.put other a) name = names.find name := by
  rw [find, find, Table.lookup_put_of_ne names h]

end Names

end TripleIndex
