import TripleIndex.Query.Cell

/-!
Tables of answers: named columns of one type each, and rows with one cell for each column. A cell may be
empty. The integers of a column have 64 bits, and a truth value counts as one of them as long as every
value of the column fits; a column with a value that does not is no column, and the first value of another
type is to blame.
-/

namespace TripleIndex

inductive ColumnType where
  | integer
  | text
  deriving DecidableEq, Repr

structure Column where
  name : String
  type : ColumnType
  deriving DecidableEq, Repr

structure Frame where
  columns : List Column
  rows : List (List Scalar)
  deriving DecidableEq, Repr

/-- The type of the cells that are not empty. -/
def ColumnType.cells : ColumnType → CellType
  | integer => .integer
  | text => .text

def ColumnType.name (type : ColumnType) : String := type.cells.name

/-! ## Columns -/

namespace ColumnType

/-- The cell of a value, if it fits. -/
def cell? (type : ColumnType) (v : JsonValue) : Option Scalar :=
  match type, v with
  | _, .scalar .null => some .null
  | integer, .scalar v => v.integer?.bind fun n => if fitsSigned 64 n then some (.int n) else none
  | text, .scalar (.text s) => some (.text s)
  | _, _ => none

def holds (type : ColumnType) (v : JsonValue) : Bool :=
  match type, v with
  | _, .scalar .null => true
  | integer, .scalar (.int n) => fitsSigned 64 n
  | text, .scalar (.text _) => true
  | _, _ => false

end ColumnType

namespace Column

/-- Why values do not make a column: one of them can be no cell at all, or else one is of another
type. -/
def misfit (c : Column) (vs : List JsonValue) : Fault :=
  match refusalOfItem? vs, vs.find? fun v => !c.type.holds v with
  | some f, _ => f
  | none, some v => misplaced c.type.cells v [c.name]
  | none, none => .raggedColumns

def cells (c : Column) (vs : List JsonValue) : Except Fault (List Scalar) :=
  match vs.mapM c.type.cell? with
  | some cells => .ok cells
  | none => .error (c.misfit vs)

end Column

/-- The rows of columns that all have one length. -/
def rowsOf (columns : List (List Scalar)) : Except Fault (List (List Scalar)) :=
  match columns with
  | [] => .ok []
  | first :: rest =>
    if rest.all fun c => c.length = first.length then
      .ok ((List.range first.length).map fun i => (first :: rest).map fun c => c.getD i .null)
    else .error .raggedColumns

end TripleIndex
