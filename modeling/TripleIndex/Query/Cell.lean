import TripleIndex.Fault
import TripleIndex.Json.Value
import TripleIndex.Number.Brief

/-!
Values as cells of a table: their types and their texts. The items of a list have one type, which the types
of all of them join to, and lists among them are converted to it. A single item is not converted: where it
has another type than the list wants there is no such cell.
-/

namespace TripleIndex

/-! ## Types -/

inductive CellType where
  | null
  | boolean
  | integer
  | wideInteger
  | unsignedInteger
  | float
  | text
  | list (items : CellType)
  | record (fields : List (String × CellType))
  deriving Inhabited, Repr

/-- The first integer above those that a number of bits without a sign can be. -/
def firstBeyond (bits : Nat) : Int := Nat.pow 2 bits

/-- Whether a signed integer of a number of bits can be `n`. -/
def fitsSigned (bits : Nat) (n : Int) : Bool :=
  -firstBeyond (bits - 1) ≤ n && n < firstBeyond (bits - 1)

/-- The narrowest type of an integer, if one is wide enough. -/
def CellType.ofInt? (n : Int) : Option CellType :=
  if fitsSigned 64 n then some .integer
  else if fitsSigned 128 n then some .wideInteger
  else if 0 ≤ n && n < firstBeyond 128 then some .unsignedInteger
  else none

namespace CellType

mutual

def name : CellType → String
  | null => "Null"
  | boolean => "Boolean"
  | integer => "Int64"
  | wideInteger => "Int128"
  | unsignedInteger => "UInt128"
  | float => "Float64"
  | text => "String"
  | list items => "List(" ++ items.name ++ ")"
  | record fields => "Struct(\x7b" ++ ", ".intercalate (fieldNames fields) ++ "\x7d)"

def fieldNames : List (String × CellType) → List String
  | [] => []
  | (field, type) :: rest => ("'" ++ field ++ "': " ++ type.name) :: fieldNames rest

end

def briefName : CellType → String
  | null => "null"
  | boolean => "bool"
  | integer => "i64"
  | wideInteger => "i128"
  | unsignedInteger => "u128"
  | float => "f64"
  | text => "str"
  | list items => "list[" ++ items.briefName ++ "]"
  | record fields => "struct[" ++ toString fields.length ++ "]"

/-- Place of the types of single values in an order in which each can be read as the ones after it. -/
def rank : CellType → Nat
  | null => 0
  | boolean => 1
  | integer => 2
  | wideInteger => 3
  | unsignedInteger => 4
  | float => 5
  | text => 6
  | list _ | record _ => 7

/-- The join of two types of single values. No integer type holds the numbers with a sign together with
the widest ones without. -/
def joinSingle (a b : CellType) : CellType :=
  match a, b with
  | unsignedInteger, integer | unsignedInteger, wideInteger | integer, unsignedInteger
  | wideInteger, unsignedInteger => float
  | a, b => if a.rank ≤ b.rank then b else a

/-- Fields with the types that they share with another record, and then the fields that only that one has.
The record with more fields decides the order. -/
def mergeFields (shared other : List (String × CellType)) : List (String × CellType) :=
  let missing := fun (ms : List (String × CellType)) (m : String × CellType) => (ms.lookup m.1).isNone
  if other.length ≤ shared.length then shared ++ other.filter (missing shared)
  else (other.map fun (field, type) => (field, (shared.lookup field).getD type)) ++
    shared.filter (missing other)

/-- The join of the type of single values with another one. With that of lists it is that of lists. -/
def joinInto (a : CellType) : CellType → Option CellType
  | null => some a
  | text => some text
  | record _ => none
  | list b => (joinInto a b).map list
  | b => some (joinSingle a b)

mutual

/-- The least type that the values of two types can be converted to. -/
def join : CellType → CellType → Option CellType
  | a, null => some a
  | null, b => some b
  | list a, list b => (a.join b).map list
  | record fs, record gs => (joinFields fs gs).map fun shared => record (mergeFields shared gs)
  | _, text | text, _ => some text
  | list a, b => (a.join b).map list
  | record _, _ => none
  | a, b => joinInto a b

/-- The fields of the first record, with the types that they have in both. -/
def joinFields : List (String × CellType) → List (String × CellType) → Option (List (String × CellType))
  | [], _ => some []
  | (field, type) :: rest, others => do
    let joined ← match others.lookup field with
      | some other => type.join other
      | none => some type
    return (field, joined) :: (← joinFields rest others)

end

@[simp] theorem join_null (a : CellType) : a.join null = some a := by cases a <;> simp [join]

@[simp] theorem null_join (a : CellType) : null.join a = some a := by cases a <;> simp [join]

def joined (a b : CellType) : Except Fault CellType :=
  match a.join b with
  | some c => .ok c
  | none => .error (.noCommonType a.briefName b.briefName)

/-- The least type for the values of all types. -/
def joinAll (types : List CellType) : Except Fault CellType := types.foldlM joined null

/-! ## Conversion -/

def textCell : JsonValue → JsonValue
  | .scalar .null => .null
  | .scalar v => .ofText v.formatted
  | v => v

/-- A single value as a floating point number. -/
def floatCell : JsonValue → JsonValue
  | .scalar v => .scalar (((v.integer?.bind Double.ofInt?).map Scalar.float).getD v)
  | v => v

/-- A truth value as an integer. -/
def integerCell : JsonValue → JsonValue
  | .scalar v => .scalar ((v.integer?.map Scalar.int).getD v)
  | v => v

mutual

/-- A value converted to a type that its own one joins to. -/
def convert : CellType → JsonValue → JsonValue
  | text, v => textCell v
  | float, v => floatCell v
  | integer, v | wideInteger, v | unsignedInteger, v => integerCell v
  | list items, .array vs => .array (vs.map items.convert)
  | record fields, .object ms => .object (convertFields fields ms)
  | _, v => v

def convertFields : List (String × CellType) → List (String × JsonValue) → List (String × JsonValue)
  | [], _ => []
  | (field, type) :: rest, ms =>
    (field, type.convert ((ms.lookup field).getD .null)) :: convertFields rest ms

end

end CellType

mutual

def cellType : JsonValue → CellType
  | .scalar (.text _) | .scalar (.codePoints _) => .text
  | .scalar (.int n) => (CellType.ofInt? n).getD .null
  | .scalar (.float _) => .float
  | .scalar (.bool _) => .boolean
  | .scalar .null => .null
  | .array vs => .list ((CellType.joinAll (cellTypes vs)).toOption.getD .null)
  | .object ms => .record (fieldTypes ms)

def cellTypes : List JsonValue → List CellType
  | [] => []
  | v :: vs => cellType v :: cellTypes vs

def fieldTypes : List (String × JsonValue) → List (String × CellType)
  | [] => []
  | (field, v) :: ms => (field, cellType v) :: fieldTypes ms

end

mutual

/-- A value in which the items of each list have been converted to the type of all of them. -/
def settled : JsonValue → JsonValue
  | .scalar v => .scalar v
  | .array vs => .array (settledItems ((CellType.joinAll (cellTypes vs)).toOption.getD .null) vs)
  | .object ms => .object (settledMembers ms)

def settledItems (type : CellType) : List JsonValue → List JsonValue
  | [] => []
  | v :: vs => type.convert (settled v) :: settledItems type vs

def settledMembers : List (String × JsonValue) → List (String × JsonValue)
  | [] => []
  | (field, v) :: ms => (field, settled v) :: settledMembers ms

end

/-! ## Texts -/

/-- The items of a list as a table shows them. Of more than three the first two and the last stand. -/
def shownCells (items : List String) : String :=
  match items with
  | first :: second :: _ :: _ :: _ =>
    first ++ ", " ++ second ++ ", … " ++ (items.getLast?.getD "")
  | _ => ", ".intercalate items

mutual

/-- A settled value as a table shows it. -/
def cellText : JsonValue → String
  | .scalar (.text s) => "\"" ++ s ++ "\""
  | .scalar (.float x) => x.brief
  | .scalar (.bool b) => toString b
  | .scalar .null => "null"
  | .scalar v => v.plain
  | .array vs => "[" ++ shownCells (cellTexts vs) ++ "]"
  | .object ms => "\x7b" ++ ",".intercalate (memberTexts ms) ++ "\x7d"

def cellTexts : List JsonValue → List String
  | [] => []
  | v :: vs => cellText v :: cellTexts vs

def memberTexts : List (String × JsonValue) → List String
  | [] => []
  | (_, v) :: ms => cellText v :: memberTexts ms

end

/-! ## Values that are no cells -/

def JsonValue.isNull : JsonValue → Bool
  | .scalar .null => true
  | _ => false

/-- A value in a place for those of another type. The columns are those that it would be in, from the inside. -/
def misplaced (type : CellType) (v : JsonValue) (columns : List String) : Fault :=
  .misfit type.name (some ((cellType v).name, cellText (settled v))) columns

namespace CellType

/-- Whether single values of a type can stand among those of another one. -/
def takes : CellType → CellType → Bool
  | boolean, boolean | float, float | text, text => true
  | integer, v | wideInteger, v | unsignedInteger, v => match v with
    | integer | wideInteger | unsignedInteger => true
    | _ => false
  | _, _ => false

mutual

/-- Why values do not stand together in columns of a type: the first of them that is there and has another
type. -/
def clash? (vs : List JsonValue) (columns : List String) : CellType → Option Fault
  | list items =>
    if vs.all fun v => v.isNull || v matches .array _ then none
    else some (.misfit (list items).name none columns)
  | record fields => clashOfField? vs columns fields
  | type =>
    (vs.find? fun v => !v.isNull && !type.takes (cellType v)).map fun v => misplaced type v columns

def clashOfField? (vs : List JsonValue) (columns : List String) :
    List (String × CellType) → Option Fault
  | [] => none
  | (field, type) :: rest =>
    clash? (vs.map fun v => (v.member? field).getD .null) (field :: columns) type <|>
      clashOfField? vs columns rest

end

end CellType

/-- Why items do not make a list. -/
def clashOfItems? (vs : List JsonValue) : Option Fault :=
  match CellType.joinAll (cellTypes vs) with
  | .error f => some f
  | .ok type => type.clash? vs [""]

mutual

/-- Why a value can be no cell of any column: it has an integer that no type is wide enough for, or a list
of items that do not stand together. -/
def refusal? : JsonValue → Option Fault
  | .scalar (.int n) => if (CellType.ofInt? n).isNone then some (.integerTooWide (toString n)) else none
  | .scalar _ => none
  | .array vs => refusalOfItem? vs <|> clashOfItems? vs
  | .object ms => refusalOfMember? ms

def refusalOfItem? : List JsonValue → Option Fault
  | [] => none
  | v :: vs => refusal? v <|> refusalOfItem? vs

def refusalOfMember? : List (String × JsonValue) → Option Fault
  | [] => none
  | (_, v) :: ms => refusal? v <|> refusalOfMember? ms

end

end TripleIndex
