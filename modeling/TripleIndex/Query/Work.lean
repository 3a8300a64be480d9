import TripleIndex.Query.Walk

/-!
The work of the walk. A stack can cause only so many steps, and each step that goes on lowers that
number, so the walk ends: by an answer, by a fault, or with nothing left to visit.
-/

namespace TripleIndex

namespace Level

/-- The documents of a page and those after it are part of those after the mark before it. -/
theorem left_page_le (ids : IdSet) (mark : Option DocId) (rows : Nat) (hrows : 1 ≤ rows) :
    let page := Reader.pageFrom ids.toList (Reader.passed ids mark) rows
    page.length + (if (page.length : Int) < rows then 0
      else ids.size - Reader.passed ids page.getLast?) ≤ ids.size - Reader.passed ids mark := by
  intro page
  have hpage : page = (ids.toList.take (Reader.passed ids mark + rows)).drop (Reader.passed ids mark) :=
    Reader.pageFrom_natCast ids.toList (Reader.passed ids mark) rows
  have hlen : page.length = min (Reader.passed ids mark + rows) ids.size - Reader.passed ids mark := by
    rw [hpage, List.length_drop, List.length_take]; rfl
  split
  · omega
  · next hfull =>
    have hdrop : Reader.passed ids mark <
        (ids.toList.take (Reader.passed ids mark + rows)).length := by
      rw [hpage, List.length_drop] at hfull
      omega
    have hne : ids.toList.take (Reader.passed ids mark + rows) ≠ [] :=
      List.ne_nil_of_length_pos (Nat.lt_of_le_of_lt (Nat.zero_le _) hdrop)
    have hlast := List.getLast?_eq_some_getLast hne
    have hpassed := Reader.length_le_passed hlast
    have hsame : page.getLast? = some ((ids.toList.take (Reader.passed ids mark + rows)).getLast hne) := by
      rw [hpage, List.getLast?_drop, if_neg (Nat.not_le_of_lt hdrop), hlast]
    have htake : (ids.toList.take (Reader.passed ids mark + rows)).length =
        min (Reader.passed ids mark + rows) ids.size := List.length_take
    rw [hsame]
    omega

/-- A page that is fetched is part of what was left. -/
theorem left_fetch_le {r : Reader} {size : PageSize} {l fetched : Level}
    (h : l.fetch r size = .ok fetched) : fetched.left ≤ l.left ∧ fetched.below = l.below := by
  unfold fetch at h
  split at h
  · next mark hpending hnext =>
    cases r with
    | closed => cases h
    | opened ix =>
      cases size with
      | fraction => cases horder : Reader.checkOrder l.step.ids <;> rw [horder] at h <;> cases h
      | rows n positive =>
        cases horder : Reader.checkOrder l.step.ids <;> rw [horder] at h <;> cases h
        refine ⟨?_, rfl⟩
        obtain ⟨rows, rfl⟩ := Int.eq_ofNat_of_zero_le (Int.le_trans (by decide) positive)
        have hpage := left_page_le l.step.ids mark rows (by omega)
        simp only [left, hpending, hnext, List.length_nil, Nat.zero_add]
        refine Nat.le_trans (Nat.add_le_add_left ?_ _) hpage
        by_cases hlast : ((Reader.pageFrom l.step.ids.toList (Reader.passed l.step.ids mark) rows).length
            : Int) < rows
        · simp only [hlast, if_true, Nat.le_refl]
        · simp only [hlast, if_false, Nat.le_refl]
  · cases h
    exact ⟨Nat.le_refl _, rfl⟩

/-- The documents still to visit in a level that has just been entered. -/
theorem work_listed_le {step : Candidates} {below : List Candidates} {parent : Binding} {ids : IdSet}
    (h : ids.size ≤ step.ids.size) :
    (listed step below parent ids).work ≤ planWork (step :: below) :=
  Nat.add_le_add_right (Nat.mul_le_mul_right _ h) 1

end Level

theorem size_narrow_le {c : Candidates} {r : Reader} {f : Filter} {ids : IdSet}
    (h : c.narrow r f = .ok ids) : ids.size ≤ c.ids.size := by
  unfold Candidates.narrow at h
  split at h
  · cases h; exact Nat.le_refl _
  · cases r with
    | closed => cases h
    | opened ix => exact Index.size_evaluate_le h

/-- What a step of the walk leaves to do, if the walk is not over. -/
def Progress.work : Progress → Option Nat
  | .found _ stack _ | .onward stack _ => some (stackWork stack)
  | .ended _ | .failed .. => none

/-- To enter the next step adds at most the work of that step. -/
theorem work_descend_le {r : Reader} {next : Candidates} {below : List Candidates} {b : Binding}
    {stack : List Level} {c : Context} {n : Nat}
    (h : (descend r next below b stack c).work = some n) :
    n ≤ planWork (next :: below) + stackWork stack := by
  unfold descend at h
  split at h
  · cases h
  · dsimp only at h
    split at h
    · cases h
    · next hids =>
      split at h
      · cases h
        exact Nat.le_add_left _ _
      · cases h
        exact Nat.add_le_add_right (Level.work_listed_le (size_narrow_le hids)) _

theorem work_visit_le {r : Reader} {requested : Bool} {l : Level} {id : DocId} {stack : List Level}
    {c : Context} {n : Nat} (h : (visit r requested l id stack c).work = some n) :
    n ≤ planWork l.below + stackWork stack := by
  unfold visit at h
  split at h
  · cases h
  · split at h
    · cases h
    · cases h
      exact Nat.le_add_left _ _
    · split at h
      · cases h
        exact Nat.le_add_left _ _
      · next hbelow =>
        rw [hbelow]
        exact work_descend_le h

/-- Every step of the walk lowers the work that is left. -/
theorem work_walkStep_lt {r : Reader} {size : PageSize} {requested : Bool} {stack : List Level}
    {c : Context} {n : Nat} (h : (walkStep r size requested stack c).work = some n) :
    n < stackWork stack := by
  unfold walkStep at h
  split at h
  · cases h
  · next top outer =>
    split at h
    · cases h
    · split at h
      · cases h
      · next l hfetch =>
        obtain ⟨hleft, hbelow⟩ := Level.left_fetch_le hfetch
        have htop : l.work ≤ top.work := by
          unfold Level.work
          rw [hbelow]
          exact Nat.add_le_add_right (Nat.mul_le_mul_right _ hleft) 1
        split at h
        · cases h
          show _ < top.work + stackWork outer
          have : 1 ≤ top.work := Nat.le_add_left 1 _
          omega
        · next id rest hpending =>
          have hvisit : n ≤ planWork l.below + (Level.work { l with pending := rest } + stackWork outer) :=
            work_visit_le h
          have hrest : l.left = Level.left { l with pending := rest } + 1 := by
            simp only [Level.left, hpending, List.length_cons]
            omega
          have hwork : l.work = Level.work { l with pending := rest } + (1 + planWork l.below) := by
            simp only [Level.work, hrest, Nat.succ_mul]
            omega
          show _ < top.work + stackWork outer
          omega

/-- With more fuel than work the walk comes to an answer or to an end. -/
theorem walk_ne_onward {r : Reader} {size : PageSize} {requested : Bool} {fuel : Nat}
    {stack left : List Level} {c d : Context} (h : stackWork stack < fuel) :
    walk r size requested fuel stack c ≠ .onward left d := by
  -- a step takes work off the stack, so the fuel that is left is more than what is left of the work
  induction fuel generalizing stack c with
  | zero => exact absurd h (Nat.not_lt_zero _)
  | succ fuel ih =>
    unfold walk
    split
    · next stack' c' hstep =>
      have hwork := congrArg Progress.work hstep
      exact ih (Nat.lt_of_lt_of_le (work_walkStep_lt hwork) (Nat.le_of_lt_succ h))
    · next hsettled => exact hsettled left d

end TripleIndex
