import TripleIndex.Query.Frame
import TripleIndex.Term.Form
import TripleIndex.Binding

/-!
Answers as a table: one column for each variable that is asked for, with the canonical form of its
value or nothing in the rows where it has none. A variable that is asked for twice fills its column
twice, columns of different lengths are no table, and a column holds strings only.
-/

namespace TripleIndex

def cell (b : Binding) (name : String) : Except Fault Scalar :=
  match b.get? name with
  | none => .ok .null
  | some t => t.formValue

/-- The cells that a binding gives to the names asked for, in their order. -/
def cellsOf (names : List String) (b : Binding) : Except Fault (List (String × Scalar)) :=
  names.mapM fun name => return (name, ← cell b name)

def columnCells (entries : List (List (String × Scalar))) (name : String) : List Scalar :=
  entries.flatMap fun row => (row.filter (·.1 = name)).map (·.2)

/-- A cell has to be a string, which a text with surrogates is not. -/
def checkEncodable : List Scalar → Except Fault Unit
  | [] => .ok ()
  | .codePoints ns :: _ => .error (.unencodable ns)
  | _ :: rest => checkEncodable rest

/-- The table of the names asked for. -/
def tableOf (names : List String) (entries : List (List (String × Scalar))) : Except Fault Frame := do
  let columns := names.eraseDups
  let cells := columns.map (columnCells entries)
  checkEncodable cells.flatten
  return ⟨columns.map fun name => ⟨name, .text⟩, ← rowsOf cells⟩

end TripleIndex
