import TripleIndex.Query.Trouble
import TripleIndex.Query.Work

/-!
What trouble does to a walk. A walk that meets trouble either comes to the outcome that it has without, or
it fails. So it ends as soon as that one would, and where no moment meets trouble the cursor is the one of
the library.
-/

namespace TripleIndex

namespace Trouble

/-- Whether a moment from this one on meets trouble. -/
def Comes (t : Trouble) (moment : Nat) : Prop := ∃ later, moment ≤ later ∧ (t later).isSome = true

/-- What comes of a part of the walk that begins at a moment: the proper result, or a fault that is there
only because trouble comes. -/
def Strays {α : Type} (t : Trouble) (moment : Nat) (isFault : α → Prop) (proper : α) (result : α × Nat) :
    Prop :=
  (∃ later, moment ≤ later ∧ result = (proper, later)) ∨
    ∃ fault later, isFault fault ∧ t.Comes moment ∧ result = (fault, later)

def IsError {α : Type} (result : Except Fault α) : Prop := ∃ f, result = .error f

def IsFailed (p : Progress) : Prop := ∃ f c, p = .failed f c

variable {t : Trouble} {moment : Nat}

theorem Comes.of_le {later : Nat} (h : t.Comes later) (hle : moment ≤ later) : t.Comes moment :=
  let ⟨trouble, hlater, hsome⟩ := h
  ⟨trouble, Nat.le_trans hle hlater, hsome⟩

section Strays

variable {α : Type} {isFault : α → Prop} {proper : α} {result : α × Nat}

theorem Strays.of_eq (h : result = (proper, moment)) : t.Strays moment isFault proper result :=
  .inl ⟨moment, Nat.le_refl _, h⟩

theorem Strays.of_le {later : Nat} (h : t.Strays later isFault proper result) (hle : moment ≤ later) :
    t.Strays moment isFault proper result := by
  rcases h with ⟨last, hlast, hresult⟩ | ⟨fault, last, hfault, hcomes, hresult⟩
  · exact .inl ⟨last, Nat.le_trans hle hlast, hresult⟩
  · exact .inr ⟨fault, last, hfault, hcomes.of_le hle, hresult⟩

end Strays

/-! ## The moments -/

variable (t moment)

theorem strays_request {α : Type} (answer : Except Fault α) :
    t.Strays moment IsError answer (t.request moment answer) := by
  rw [request]
  cases htrouble : t moment with
  | none => exact .inl ⟨_, Nat.le_succ _, rfl⟩
  | some f => exact .inr ⟨_, _, ⟨f, rfl⟩, ⟨moment, Nat.le_refl _, by rw [htrouble]; rfl⟩, rfl⟩

theorem strays_check (c : Context) (requested : Bool) :
    t.Strays moment (·.2.isSome = true) (c.check requested) (t.check moment c requested) := by
  rw [check]
  cases htrouble : t moment with
  | none => exact .inl ⟨_, Nat.le_succ _, rfl⟩
  | some f => exact .inr ⟨_, _, rfl, ⟨moment, Nat.le_refl _, by rw [htrouble]; rfl⟩, rfl⟩

theorem strays_countRow (c : Context) (requested : Bool) :
    t.Strays moment (·.2.isSome = true) (c.countRow requested) (t.countRow moment c requested) := by
  rw [countRow, Context.countRow]
  dsimp only
  split
  · exact strays_check t moment _ requested
  · exact .of_eq rfl

theorem strays_fetch (l : Level) (r : Reader) (size : PageSize) :
    t.Strays moment IsError (l.fetch r size) (t.fetch moment l r size) := by
  unfold fetch
  split
  · exact strays_request t moment _
  · next hnone =>
    -- a level that asks for no page is given back as it is
    refine .of_eq (congrArg (·, moment) ?_)
    unfold Level.fetch
    split
    · next hpending hnext => exact (hnone _ hpending hnext).elim
    · rfl

theorem strays_extend (c : Candidates) (r : Reader) (id : DocId) (parent : Binding) :
    t.Strays moment IsError (c.extend r id parent) (t.extend moment c r id parent) := by
  have hproper : c.extend r id parent =
      (r.read id).bind fun fields => c.requirePattern.bind (bindDocument · fields parent) := rfl
  rw [extend, hproper]
  rcases strays_request t moment (r.read id) with
    ⟨later, hlater, hread⟩ | ⟨_, later, ⟨f, rfl⟩, hcomes, hread⟩
  · rw [hread]
    cases r.read id <;> exact .inl ⟨later, hlater, rfl⟩
  · rw [hread]
    exact .inr ⟨_, _, ⟨f, rfl⟩, hcomes, rfl⟩

theorem strays_narrow (c : Candidates) (r : Reader) (f : Filter) :
    t.Strays moment IsError (c.narrow r f) (t.narrow moment c r f) := by
  rw [narrow, Candidates.narrow]
  split
  · exact .of_eq rfl
  · exact strays_request t moment _

/-! ## The walk -/

theorem strays_descend (r : Reader) (next : Candidates) (below : List Candidates) (b : Binding)
    (stack : List Level) (c : Context) :
    t.Strays moment IsFailed (TripleIndex.descend r next below b stack c)
      (t.descend moment r next below b stack c) := by
  rw [descend, TripleIndex.descend]
  cases next.requirePattern.bind (joinFilter · b) with
  | error f => exact .of_eq rfl
  | ok query =>
    dsimp only
    rcases strays_narrow t moment next r query with
      ⟨later, hlater, hnarrow⟩ | ⟨_, later, ⟨f, rfl⟩, hcomes, hnarrow⟩
    · rw [hnarrow]
      cases next.narrow r query with
      | error f => exact .inl ⟨later, hlater, rfl⟩
      | ok ids => dsimp only; split <;> exact .inl ⟨later, hlater, rfl⟩
    · rw [hnarrow]
      exact .inr ⟨_, _, ⟨f, _, rfl⟩, hcomes, rfl⟩

theorem strays_visit (r : Reader) (requested : Bool) (l : Level) (id : DocId) (stack : List Level)
    (c : Context) :
    t.Strays moment IsFailed (TripleIndex.visit r requested l id stack c)
      (t.visit moment r requested l id stack c) := by
  rw [visit, TripleIndex.visit]
  rcases strays_countRow t moment c requested with
    ⟨counted, hcounted, hcount⟩ | ⟨⟨d, stop⟩, later, hstop, hcomes, hcount⟩
  · rw [hcount]
    obtain ⟨d, stop⟩ := c.countRow requested
    cases stop with
    | some f => exact .inl ⟨counted, hcounted, rfl⟩
    | none =>
      dsimp only
      rcases strays_extend t counted l.step r id l.parent with
        ⟨later, hlater, hextend⟩ | ⟨_, later, ⟨f, rfl⟩, hcomes, hextend⟩
      · rw [hextend]
        have hlater := Nat.le_trans hcounted hlater
        rcases l.step.extend r id l.parent with f | _ | b
        · exact .inl ⟨later, hlater, rfl⟩
        · exact .inl ⟨later, hlater, rfl⟩
        · cases l.below with
          | nil => exact .inl ⟨later, hlater, rfl⟩
          | cons next below => exact (strays_descend t later r next below b stack d).of_le hlater
      · rw [hextend]
        exact .inr ⟨_, _, ⟨f, _, rfl⟩, hcomes.of_le hcounted, rfl⟩
  · rw [hcount]
    cases stop with
    | none => cases hstop
    | some f => exact .inr ⟨_, _, ⟨f, d, rfl⟩, hcomes, rfl⟩

theorem strays_walkStep (r : Reader) (size : PageSize) (requested : Bool) (stack : List Level)
    (c : Context) :
    t.Strays moment IsFailed (TripleIndex.walkStep r size requested stack c)
      (t.walkStep moment r size requested stack c) := by
  cases stack with
  | nil => exact .of_eq rfl
  | cons top outer =>
    rw [walkStep, TripleIndex.walkStep]
    -- Trouble can come at the look at the clock, at the fetch or at the visit. What came before it agrees.
    rcases strays_check t moment c requested with
      ⟨looked, hlooked, hcheck⟩ | ⟨⟨d, stop⟩, later, hstop, hcomes, hcheck⟩
    · rw [hcheck]
      obtain ⟨d, stop⟩ := c.check requested
      cases stop with
      | some f => exact .inl ⟨looked, hlooked, rfl⟩
      | none =>
        dsimp only
        rcases strays_fetch t looked top r size with
          ⟨later, hlater, hfetch⟩ | ⟨_, later, ⟨f, rfl⟩, hcomes, hfetch⟩
        · rw [hfetch]
          have hlater := Nat.le_trans hlooked hlater
          cases top.fetch r size with
          | error f => exact .inl ⟨later, hlater, rfl⟩
          | ok l =>
            dsimp only
            cases l.pending with
            | nil => exact .inl ⟨later, hlater, rfl⟩
            | cons id rest => exact (strays_visit t later r requested l id _ d).of_le hlater
        · rw [hfetch]
          exact .inr ⟨_, _, ⟨f, d, rfl⟩, hcomes.of_le hlooked, rfl⟩
    · rw [hcheck]
      cases stop with
      | none => cases hstop
      | some f => exact .inr ⟨_, _, ⟨f, d, rfl⟩, hcomes, rfl⟩

/-- A walk comes to its proper outcome, or fails because trouble comes. -/
theorem strays_walk (r : Reader) (size : PageSize) (requested : Bool) (fuel : Nat) (stack : List Level)
    (c : Context) :
    t.Strays moment IsFailed (TripleIndex.walk r size requested fuel stack c)
      (t.walk moment r size requested fuel stack c) := by
  -- the steps go the same way until one of them fails, and there the walk is over
  induction fuel generalizing moment stack c with
  | zero => exact .of_eq rfl
  | succ fuel ih =>
    rw [walk, TripleIndex.walk]
    rcases strays_walkStep t moment r size requested stack c with
      ⟨later, hlater, hstep⟩ | ⟨_, later, ⟨f, d, rfl⟩, hcomes, hstep⟩
    · rw [hstep]
      cases TripleIndex.walkStep r size requested stack c with
      | onward stack' c' => exact (ih later stack' c').of_le hlater
      | ended d => exact .inl ⟨later, hlater, rfl⟩
      | failed f d => exact .inl ⟨later, hlater, rfl⟩
      | found b stack' d => exact .inl ⟨later, hlater, rfl⟩
    · rw [hstep]
      exact .inr ⟨_, _, ⟨f, d, rfl⟩, hcomes, rfl⟩

variable {t moment}

/-- The fuel of a pull is enough, whatever trouble it meets. -/
theorem walk_ne_onward {r : Reader} {size : PageSize} {requested : Bool} {fuel : Nat}
    {stack left : List Level} {c d : Context} (h : stackWork stack < fuel) :
    (t.walk moment r size requested fuel stack c).1 ≠ .onward left d := by
  rcases strays_walk t moment r size requested fuel stack c with
    ⟨later, -, hwalk⟩ | ⟨_, later, ⟨f, e, rfl⟩, -, hwalk⟩
  · rw [hwalk]
    exact TripleIndex.walk_ne_onward h
  · rw [hwalk]
    exact fun heq => by cases heq

/-! ## Without trouble -/

section Calm

variable (hcalm : ∀ moment, t moment = none) (x : Scene)

include hcalm

theorem walk_of_calm (r : Reader) (size : PageSize) (requested : Bool) (fuel : Nat) (stack : List Level)
    (c : Context) :
    (t.walk moment r size requested fuel stack c).1 = TripleIndex.walk r size requested fuel stack c := by
  rcases strays_walk t moment r size requested fuel stack c with
    ⟨later, -, hwalk⟩ | ⟨_, _, _, ⟨trouble, -, hsome⟩, -⟩
  · rw [hwalk]
  · rw [hcalm] at hsome
    cases hsome

theorem pull_of_calm :
    ∃ later, t.pull x =
      let (result, c, s) := x.cursor.pull x.surroundings
      (result, ⟨c, s, later⟩) := by
  rw [Cursor.pull_eq_conclude, pull]
  dsimp only
  rw [← walk_of_calm hcalm]
  exact ⟨_, rfl⟩

theorem hasNext_of_calm :
    ∃ later, t.hasNext x =
      let (result, c, s) := x.cursor.hasNext x.surroundings
      (result, ⟨c, s, later⟩) := by
  rw [hasNext, Cursor.hasNext]
  cases x.cursor.fault with
  | some f => exact ⟨_, rfl⟩
  | none =>
    dsimp only
    split
    · exact ⟨_, rfl⟩
    split
    · exact ⟨_, rfl⟩
    · exact pull_of_calm hcalm x

theorem next_of_calm :
    ∃ later, t.next x =
      let (result, c, s) := x.cursor.next x.surroundings
      (result, ⟨c, s, later⟩) := by
  obtain ⟨later, hhasNext⟩ := hasNext_of_calm hcalm x
  rw [next, hhasNext, Cursor.next]
  obtain ⟨result, c, s⟩ := x.cursor.hasNext x.surroundings
  cases result with
  | error f => exact ⟨later, rfl⟩
  | ok more =>
    dsimp only
    cases c.lookahead <;> exact ⟨later, rfl⟩

end Calm

end Trouble

end TripleIndex
