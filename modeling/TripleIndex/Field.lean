import TripleIndex.Instant
import TripleIndex.Term.Read

/-!
The fields of a document and the type of the values that each of them holds. Every value that is
stored or searched is first converted to the type of its field.
-/

namespace TripleIndex

namespace Field

def id : String := "id"
def context : String := "context"
def subject : String := "subject"
def predicate : String := "predicate"
def object : String := "object"
def lang : String := "lang"
def textObject : String := "text_object"
def numericObject : String := "numeric_object"
def dateObject : String := "date_object"
def booleanObject : String := "boolean_object"

end Field

/-- The field that holds the canonical form of a slot. -/
def Slot.field : Slot → String
  | subject => Field.subject
  | predicate => Field.predicate
  | object => Field.object

/-- What stands in the language field of a literal without a tag. -/
def noLanguage : String := "__nolang__"

inductive FieldType where
  | text
  | integer
  | double
  | boolean
  deriving DecidableEq, Repr

/-- A truth value, or one of the words that write one. -/
def readBoolean : Scalar → Except Fault Bool
  | .bool b => .ok b
  | v =>
    let word := String.ofList (lowerAscii (trim v.plain.toList))
    if word = "true" || word = "1" then .ok true
    else if word = "false" || word = "0" then .ok false
    else .error (Fault.notABoolean v).reported

/-- An integer: numbers lose what stands after the point. -/
def toInteger : Scalar → Except Fault Int
  | .text s => integerOf s
  | .codePoints ns => .error (.notAnInteger (Scalar.codePoints ns).plain)
  | .int n => .ok n
  | .bool b => .ok b.toInt
  | .null => .error .integerOfNull
  | .float (.nan _) => .error .integerOfNan
  | .float (.infinite _) => .error .integerOfInfinity
  | .float (.finite negative units) => .ok (Double.truncate negative units)

def toDouble : Scalar → Except Fault Double
  | .text s => doubleOf s
  | .codePoints ns => .error (.notANumber (Scalar.codePoints ns).plain)
  | .float x => .ok x
  | .null => .error .numberOfNull
  | .int n => match Double.ofInt? n with
    | some x => .ok x
    | none => .error .integerBeyondDouble
  | .bool b => match Double.ofInt? b.toInt with
    | some x => .ok x
    | none => .error .integerBeyondDouble

/-- Convert a value to the type of a field. -/
def FieldType.convert : FieldType → Scalar → Except Fault Scalar
  | text, .codePoints ns => .ok (.codePoints ns)
  | text, v => v.written.map .text
  | integer, v => (toInteger v).map .int
  | double, v => (toDouble v).map .float
  | boolean, v => (readBoolean v).map .bool

/-- Fields with their types. -/
abbrev Schema := List (String × FieldType)

namespace Schema

def type? (schema : Schema) (name : String) : Option FieldType := schema.lookup name

/-- The fields of a document that stands for a triple. -/
def triples : Schema := [
  (Field.id, .text), (Field.context, .text), (Field.subject, .text), (Field.predicate, .text),
  (Field.object, .text), (Field.lang, .text), (Field.textObject, .text),
  (Field.numericObject, .double), (Field.dateObject, .integer), (Field.booleanObject, .boolean)]

/-- Convert a value for a field. Faults of value or type name the field and the value. -/
def convert (schema : Schema) (name : String) (v : Scalar) : Except Fault Scalar :=
  match schema.type? name with
  | none => .error (.unknownField name)
  | some type =>
    match type.convert v with
    | .ok converted => .ok converted
    | .error cause =>
      if cause.isValueFault || cause.isTypeFault then
        .error (Fault.invalidFieldValue name v cause).reported
      else .error cause

end Schema

end TripleIndex
