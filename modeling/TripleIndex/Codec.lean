import TripleIndex.Field
import TripleIndex.Filter.Clause

/-!
Codecs of literals. A codec turns the lexical form of a literal into the value of the field that
makes it searchable, says which literals it accepts, and makes the clauses that search for values and
for ranges of them. There is one for texts, which takes
anything, and one each for numbers, dates and truth values.
-/

namespace TripleIndex

inductive CodecFamily where
  | text
  | numeric
  | date
  | boolean
  deriving DecidableEq, Repr

/-- A codec with the datatypes that it is meant for. -/
structure Codec where
  family : CodecFamily
  datatypes : List String
  deriving DecidableEq, Repr

namespace CodecFamily

def name : CodecFamily → String
  | text => "StringCodec"
  | numeric => "NumericCodec"
  | date => "DateTimeCodec"
  | boolean => "BooleanCodec"

/-- The field that holds the values of a codec. -/
def field : CodecFamily → String
  | text => Field.textObject
  | numeric => Field.numericObject
  | date => Field.dateObject
  | boolean => Field.booleanObject

/-- Whether ranges make sense for the values. -/
def isOrdered : CodecFamily → Bool
  | numeric | date => true
  | text | boolean => false

def integerTypes : List String := [
  xsd "integer", xsd "int", xsd "long", xsd "short", xsd "byte", xsd "nonNegativeInteger",
  xsd "nonPositiveInteger", xsd "negativeInteger", xsd "positiveInteger", xsd "unsignedLong",
  xsd "unsignedInt", xsd "unsignedShort", xsd "unsignedByte"]

/-- The datatypes of a codec that names none of its own. -/
def datatypes : CodecFamily → List String
  | text => []
  | numeric => integerTypes ++ [xsd "decimal", xsd "double", xsd "float"]
  | date => [xsd "dateTime", xsd "date"]
  | boolean => [xsd "boolean"]

end CodecFamily

/-! Shapes of numeric literals, whose digits may be of any script. -/

def dropSign (cs : List Char) : List Char :=
  match cs with
  | '+' :: rest => rest
  | '-' :: rest => rest
  | _ => cs

def areDigits (cs : List Char) : Bool := !cs.isEmpty && cs.all isDecimalDigit

/-- Digits with a point before, between or after them, or without one. -/
def isUnsignedDecimal (cs : List Char) : Bool :=
  match splitFirst? '.' cs with
  | none => areDigits cs
  | some (whole, fraction) =>
    whole.all isDecimalDigit && fraction.all isDecimalDigit &&
      !(whole.isEmpty && fraction.isEmpty)

def isIntegerShape (cs : List Char) : Bool := areDigits (dropSign cs)

def isDecimalShape (cs : List Char) : Bool := isUnsignedDecimal (dropSign cs)

def isExponentLetter (c : Char) : Bool := c = 'e' || c = 'E'

/-- A decimal with or without an exponent, or an infinity. -/
def isDoubleShape (cs : List Char) : Bool :=
  let body := dropSign cs
  let mantissa := body.takeWhile fun c => !isExponentLetter c
  match body.dropWhile fun c => !isExponentLetter c with
  | [] => isUnsignedDecimal body || body = "INF".toList
  | _ :: exponent => isUnsignedDecimal mantissa && isIntegerShape exponent

namespace CodecFamily

/-- The value of a numeric literal. The text `NaN` is no number here. -/
def numericValue (lexical : String) : Except Fault Double :=
  let text := trim lexical.toList
  if isDoubleShape text then doubleOf (String.ofList text) else .error (.notNumeric lexical)

/-- The value that the field of the codec holds for a lexical form. -/
def fieldValue : CodecFamily → String → Except Fault Scalar
  | text, lexical => .ok (.text lexical)
  | numeric, lexical => (numericValue lexical).map .float
  | date, lexical => (epochMillis lexical).map .int
  | boolean, lexical => (readBoolean (.text lexical)).map .bool

/-- Whether a lexical form has a value in the field of the codec. The numeric `NaN` has none,
because it has no place in an order. -/
def isIndexable : CodecFamily → String → Bool
  | numeric, lexical => trim lexical.toList ≠ "NaN".toList
  | _, _ => true

/-- The checks of a numeric literal that depend on its datatype. -/
def checkNumeric (l : Literal) : Except Fault Unit :=
  let text := trim l.lexical.toList
  let datatype := l.datatype.getD .null
  if (integerTypes.map Scalar.text).contains datatype && !isIntegerShape text then
    .error (.notInteger l.lexical)
  else if datatype = .text (xsd "decimal") && !isDecimalShape text then .error (.notDecimal l.lexical)
  else .ok ()

/-- The object fields of a literal that has a value in the field of the codec. -/
def encodeValue (family : CodecFamily) (l : Literal) : Except Fault (List (String × Scalar)) := do
  let form ← l.form
  let value ← family.fieldValue l.lexical
  return [(Field.object, .text form), (family.field, value)]

/-- The object fields of a literal: its canonical form, and its value if it has one. -/
def encode (family : CodecFamily) (l : Literal) : Except Fault (List (String × Scalar)) :=
  match family with
  | numeric => do
    if !l.isWritable then throw .unwritableInteger
    checkNumeric l
    if isIndexable numeric l.lexical then encodeValue numeric l
    else return [(Field.object, .text (← l.form))]
  | other => encodeValue other l

/-- The object fields of a term, which has to be a literal. The numbers look at the lexical form
first, and the others at the canonical form. -/
def encodeTerm (family : CodecFamily) : Term → Except Fault (List (String × Scalar))
  | .literal l => family.encode l
  | t => do
    if family ≠ numeric then
      let _ ← t.form
    throw (.lexicalOfTerm t.typeName)

/-- The clause for the literals with the value of a lexical form. -/
def valueClause (family : CodecFamily) (lexical : String) : Except Fault Clause :=
  (family.fieldValue lexical).map (.term family.field)

/-- A bound of a range, which may be open. -/
def bound (family : CodecFamily) : Option String → Except Fault (Option Scalar)
  | none => .ok none
  | some lexical => (family.fieldValue lexical).map some

/-- The clause for the literals with a value between two lexical forms. -/
def rangeClause (family : CodecFamily) (lower upper : Option String) : Except Fault Clause :=
  if family.isOrdered then do
    return .range family.field (← family.bound lower) (← family.bound upper)
  else .error (.noRange family.name)

end CodecFamily

/-- A codec as listings show it. -/
def Codec.text (c : Codec) : String :=
  c.family.name ++ "(" ++ toString c.datatypes.length ++ " datatypes)"

end TripleIndex
