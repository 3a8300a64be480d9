import TripleIndex.Log
import TripleIndex.Store

/-!
The records of what a store does: that it was opened, what it has removed, what it has refused, and how
it plans.
-/

namespace TripleIndex

namespace Store

def openingRecord (s : Store) : LogRecord :=
  ⟨.store, .info, "Opened store '" ++ s.settings.name.plain ++ "' (" ++ toString s.registry.size ++
    " codec datatypes, " ++ toString s.size ++ " documents)"⟩

/-- A refusal is logged in its own words. -/
def refusalRecords {α : Type} : Except Fault α → List LogRecord
  | .ok _ => []
  | .error f =>
    match f with
    | .cannotAdd .. | .cannotDelete .. | .cannotClear .. => [⟨.store, .error, f.message⟩]
    | _ => []

def deletionRecords (s : Store) (p : Pattern) (g : Option Term) (removed : Except Fault Nat) :
    List LogRecord :=
  match removed, deleteText s.registry p (some (s.graph g)) with
  | .ok n, .ok text =>
    [⟨.store, .debug, "Deleted " ++ toString n ++ " documents matching " ++ text⟩]
  | _, _ => refusalRecords removed

def clearingRecords (s : Store) (g : Option Term) (removed : Except Fault Nat) : List LogRecord :=
  match removed with
  | .ok n =>
    [⟨.store, .info, "Cleared " ++ toString n ++ " triples from graph " ++ (s.graph g).text⟩]
  | .error _ => refusalRecords removed

/-- The records of making a plan: its steps, and the plan itself if the settings ask for it. -/
def planRecords {ρ : Type} (s : Store) (results : List Candidates) (plan : Plan ρ) : List LogRecord :=
  Plan.records results ++
    (if s.settings.explainPlans.isSet then [⟨.store, .info, "BGP explain:\n" ++ plan.explain.text⟩]
     else [])

end Store

end TripleIndex
