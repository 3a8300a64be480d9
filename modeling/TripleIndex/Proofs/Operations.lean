import TripleIndex.Session.Plans
import TripleIndex.Proofs.Outcome

/-!
Runs of operations on a session. A run goes from step to step with the session that the last one has left,
and the first fault ends it.
-/

namespace TripleIndex

namespace Session

theorem run_bind {α β : Type} (op : Operation α) (f : α → Operation β) (s : Session) :
    ExceptT.run (op >>= f) s = match ExceptT.run op s with
      | (.ok a, s) => ExceptT.run (f a) s
      | (.error e, s) => (.error e, s) := by
  rw [ExceptT.run_bind]
  show StateT.bind _ _ s = _
  unfold StateT.bind
  dsimp only
  rcases ExceptT.run op s with ⟨r, t⟩
  cases r with
  | error e => rfl
  | ok a => rfl

theorem run_pure {α : Type} (a : α) (s : Session) : ExceptT.run (pure a : Operation α) s = (.ok a, s) := rfl

theorem run_get (s : Session) : ExceptT.run (get : Operation Session) s = (.ok s, s) := rfl

theorem run_record (records : List LogRecord) (s : Session) :
    ExceptT.run (record records) s = (.ok (), { s with log := s.log ++ records }) := rfl

theorem run_ofResult {α : Type} (r : Except Fault α) (s : Session) : ExceptT.run (ofResult r) s = (r, s) := by
  cases r with
  | error e => rfl
  | ok a => rfl

end Session

/-- The answers of patterns on the present state of a store. -/
def Store.answers (s : Store) (patterns : List Pattern) (g : Option Term) :
    Except Fault (List Binding × Context) := do
  let plan ← Plan.make s.settings.workers s.registry (.opened s.index) () patterns (s.graph g)
  let drained ← s.answer plan
  match drained.stop with
  | .failed f => .error f
  | _ => return (drained.answers, drained.surroundings.context)

/-- A query answers from the store, whatever else there is in the session. -/
theorem perform_query (session : Session) (patterns : List Pattern) (g : Option Term) :
    (Session.perform (Session.query patterns g) session).1 = session.store.answers patterns g := by
  simp only [Session.perform, Session.query, Session.planOnce, Session.planWith, Session.evaluate,
    Session.run_bind, Session.run_get, Session.run_record, Session.run_ofResult, Store.answers, Plan.make,
    Store.evaluate]
  cases (Evaluation.ofPatterns session.store.settings.workers session.store.registry
    (.opened session.store.index) (some (session.store.graph g)) patterns).all with
  | error e => rfl
  | ok results =>
    simp only [ok_bind]
    cases Plan.ofResults results (session.store.graph g) () with
    | error e => rfl
    | ok plan =>
      simp only [ok_bind, Session.run_pure]
      cases session.store.answer plan with
      | error e => rfl
      | ok drained =>
        simp only [ok_bind]
        cases drained.stop <;> rfl

end TripleIndex
