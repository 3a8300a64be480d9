/-!
Sums of lists of counts.
-/

namespace TripleIndex

def total : List Nat → Nat
  | [] => 0
  | n :: ns => n + total ns

theorem total_append (ms ns : List Nat) : total (ms ++ ns) = total ms + total ns := by
  induction ms with
  | nil => simp [total]
  | cons m ms ih => rw [List.cons_append, total, ih, total, Nat.add_assoc]

end TripleIndex
