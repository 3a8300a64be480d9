import TripleIndex.Entries
import TripleIndex.Scalar

/-!
JSON values. An object has its members in the order in which their names first came, and of several
members with one name the last one counts. Two objects are equal whatever the order of their members.
-/

namespace TripleIndex

inductive JsonValue where
  | scalar (v : Scalar)
  | array (items : List JsonValue)
  | object (members : List (String × JsonValue))
  deriving Inhabited

namespace JsonValue

def ofText (s : String) : JsonValue := .scalar (.text s)

def ofInt (n : Int) : JsonValue := .scalar (.int n)

def null : JsonValue := .scalar .null

/-- An object of members whose names may be repeated. -/
def ofMembers (members : List (String × JsonValue)) : JsonValue := .object (enterAll members)

/-- The member of an object that has it. -/
def member? : JsonValue → String → Option JsonValue
  | object members, name => members.lookup name
  | _, _ => none

/-- Values that count as present: a single one as such, a compound one unless it is empty. -/
def isSet : JsonValue → Bool
  | scalar v => v.isSet
  | array items => !items.isEmpty
  | object members => !members.isEmpty

def typeName : JsonValue → String
  | scalar v => v.typeName
  | array _ => "list"
  | object _ => "dict"

/-- The single value, if it is one. -/
def scalar? : JsonValue → Option Scalar
  | scalar v => some v
  | _ => none

mutual

def shown : JsonValue → String
  | scalar v => v.shown
  | array items => "[" ++ ", ".intercalate (shownItems items) ++ "]"
  | object members => "\x7b" ++ ", ".intercalate (shownMembers members) ++ "\x7d"

def shownItems : List JsonValue → List String
  | [] => []
  | v :: vs => v.shown :: shownItems vs

def shownMembers : List (String × JsonValue) → List String
  | [] => []
  | (name, v) :: ms => (shownText name ++ ": " ++ v.shown) :: shownMembers ms

end

def plain : JsonValue → String
  | scalar v => v.plain
  | v => v.shown

mutual

def isWritable : JsonValue → Bool
  | scalar v => v.isWritable
  | array items => areWritable items
  | object members => areWritableMembers members

def areWritable : List JsonValue → Bool
  | [] => true
  | v :: vs => v.isWritable && areWritable vs

def areWritableMembers : List (String × JsonValue) → Bool
  | [] => true
  | (_, v) :: ms => v.isWritable && areWritableMembers ms

end

mutual

/-- Equality of values: single ones that are alike, and compound ones with equal parts. -/
def alike : JsonValue → JsonValue → Bool
  | scalar v, scalar w => v.alike w
  | array vs, array ws => alikeItems vs ws
  | object ms, object ns => ms.length == ns.length && alikeMembers ms ns
  | _, _ => false

def alikeItems : List JsonValue → List JsonValue → Bool
  | [], [] => true
  | v :: vs, w :: ws => v.alike w && alikeItems vs ws
  | _, _ => false

/-- Every member of the first list has an equal one in the second. -/
def alikeMembers : List (String × JsonValue) → List (String × JsonValue) → Bool
  | [], _ => true
  | (name, v) :: ms, ns =>
    match ns.lookup name with
    | none => false
    | some w => v.alike w && alikeMembers ms ns

end

end JsonValue

end TripleIndex
