/-!
Values by name, in the order in which the names were first entered. A value that is entered under a name
that has one already takes its place.
-/

namespace TripleIndex

variable {α : Type}

def enter (entries : List (String × α)) (name : String) (value : α) : List (String × α) :=
  if (entries.lookup name).isSome then entries.map fun e => if e.1 = name then (name, value) else e
  else entries ++ [(name, value)]

/-- The entries of a list in which names may be repeated. -/
def enterAll (entries : List (String × α)) : List (String × α) :=
  entries.foldl (fun entered e => enter entered e.1 e.2) []

theorem lookup_enter_self (entries : List (String × α)) (name : String) (value : α) :
    (enter entries name value).lookup name = some value := by
  unfold enter
  split
  · next h =>
    obtain ⟨old, hold⟩ := Option.isSome_iff_exists.1 h
    clear h
    induction entries with
    | nil => cases hold
    | cons e entries ih =>
      obtain ⟨k, v⟩ := e
      rw [List.map_cons]
      by_cases hk : k = name
      · simp [hk]
      · have hne : (name == k) = false := beq_false_of_ne (Ne.symm hk)
        rw [List.lookup_cons, hne] at hold
        rw [if_neg hk, List.lookup_cons, hne]
        exact ih hold
  · next h =>
    rw [List.lookup_append, Option.not_isSome_iff_eq_none.1 h]
    simp

end TripleIndex
