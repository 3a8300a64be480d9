import TripleIndex.DocId
import TripleIndex.Term

/-!
Everything that can go wrong. A fault is a cause with the data that its message shows; its kind says
how callers that handle only some faults see it. The wording of every message is `Fault.message`.
-/

namespace TripleIndex

inductive FaultKind where
  | invalidValue
  | wrongType
  | missingMember
  | unknownKey
  | undecodable
  | unencodable
  | outOfRange
  | overflow
  | divisionByZero
  | unsupportedConstraint
  | uncompilable
  | addDenied
  | deleteDenied
  | badExpression
  | unreadable
  | misconfigured
  | joinFailed
  | cancelled
  | timedOut
  | exhausted
  | malformedDocument
  | nestedTooDeep
  | raggedColumns
  | noGraphSupport
  deriving DecidableEq, Repr

inductive Fault where
  -- terms
  | tagAndDatatype
  | illegalIri (iri : String)
  | illegalLanguage (tag : String)
  | formOfVariable (name : String)
  | notATerm (term : Term)
  | notAGraphName (graph : Option Term)
  | iriOfValue (value : Scalar)
  | datatypeOfValue (value : Scalar)
  | languageOfValue (value : Scalar)
  | unencodable (text : List Nat)
  | emptyTerm
  | termOfValue (type : String)
  | lexicalOfTerm (type : String)
  | notATermText (text : String)
  | unterminatedLiteral (text : String)
  | illegalDatatype (text : String)
  | trailingText (text : String)
  | malformedEscape
  | nestedGraph
  | unknownKey (key : String)
  -- values
  | unwritableInteger
  | notAnInteger (text : String)
  | integerTooLong (digits : Nat)
  | notANumber (text : String)
  | integerOfNull
  | numberOfNull
  | integerOfNan
  | integerOfInfinity
  | integerBeyondDouble
  | zeroModulus
  | notABoolean (value : Scalar)
  | unordered (relation leftType rightType : String)
  | undefinedOperation (operation leftType rightType : String)
  -- literals
  | notNumeric (lexical : String)
  | notInteger (lexical : String)
  | notDecimal (lexical : String)
  | notDateTime (lexical : String)
  | notDate (lexical : String)
  | offsetBeyondDay (seconds : Int)
  | noRange (codec : String)
  | datatypeTwice (datatype : String)
  -- expressions
  | emptyExpression
  | invalidExpression (text : String)
  -- patterns
  | unboundVariables (triple : Pattern)
  | cannotCompile (pattern : Pattern) (cause : Fault)
  | cannotCompileDelete (pattern : Pattern) (cause : Fault)
  -- index
  | noId
  | unknownField (name : String)
  | invalidFieldValue (name : String) (value : Scalar) (cause : Fault)
  | readerClosed
  | documentNotFound (id : DocId)
  | unknownId (id : DocId)
  | unhashable (type : String)
  | notIterable (type : String)
  | emptyPage
  | keyWithoutDocuments
  | pageSizeNotInteger
  -- store
  | cannotAdd (triple : Pattern) (cause : Fault)
  | cannotDelete (pattern : Pattern) (cause : Fault)
  | cannotClear (graph : Term) (cause : Fault)
  | raggedColumns
  | integerTooWide (number : String)
  | misfit (type : String) (found : Option (String × String)) (columns : List String)
  | noCommonType (left right : String)
  -- queries
  | workersBelowOne
  | pageSizeBelowOne
  | noReader
  | noPattern
  | noPlanReader
  | joinFailed (cause : Fault)
  | cancelled
  | timedOut (seconds : Scalar)
  | exhausted
  -- configuration
  | invalidSettings (errors : List String)
  | unreadableSetting (name value : String)
  | variableNotText (type : String)
  | nullInVariable
  | illegalVariableName
  | malformedDocument
  | nestedTooDeep (container : String)
  | membersOfValue (type : String)
  deriving Repr

namespace Fault

def kind : Fault → FaultKind
  | formOfVariable _ | notATerm _ | notAGraphName _ | datatypeOfValue _ | integerOfNull | numberOfNull
  | unordered .. | undefinedOperation .. | pageSizeNotInteger | unhashable _ | notIterable _
  | misfit .. | noCommonType .. | variableNotText _ => .wrongType
  | termOfValue _ | lexicalOfTerm _ | membersOfValue _ | noPattern | noPlanReader => .missingMember
  | malformedEscape => .undecodable
  | unencodable _ => .unencodable
  | nestedGraph => .noGraphSupport
  | unknownKey _ | unknownId _ => .unknownKey
  | integerOfInfinity | integerBeyondDouble | integerTooWide _ => .overflow
  | zeroModulus => .divisionByZero
  | noRange _ => .unsupportedConstraint
  | emptyExpression | invalidExpression _ => .badExpression
  | cannotCompile .. | cannotCompileDelete .. => .uncompilable
  | readerClosed | documentNotFound _ => .unreadable
  | emptyPage | keyWithoutDocuments => .outOfRange
  | cannotAdd .. => .addDenied
  | cannotDelete .. | cannotClear .. => .deleteDenied
  | raggedColumns => .raggedColumns
  | joinFailed _ => .joinFailed
  | cancelled => .cancelled
  | timedOut _ => .timedOut
  | exhausted => .exhausted
  | invalidSettings _ | unreadableSetting .. => .misconfigured
  | malformedDocument => .malformedDocument
  | nestedTooDeep _ => .nestedTooDeep
  | _ => .invalidValue

/-- Faults of a value: those of the kind itself and its special cases. -/
def isValueFault (f : Fault) : Bool :=
  match f.kind with
  | .invalidValue | .undecodable | .unencodable | .badExpression | .malformedDocument => true
  | _ => false

def isTypeFault (f : Fault) : Bool := f.kind = .wrongType

def cut (n : Nat) (s : String) : String := String.ofList (s.toList.take n)

/-- A span of seconds as its whole days and the seconds left over. -/
def shownSpan (seconds : Int) : String :=
  let days := seconds.fdiv 86400
  let rest := seconds.fmod 86400
  let parts := (if days = 0 then [] else ["days=" ++ toString days]) ++
    (if rest = 0 then [] else ["seconds=" ++ toString rest])
  "datetime.timedelta(" ++ (if parts.isEmpty then "0" else ", ".intercalate parts) ++ ")"

/-- Surrogates have no bytes: the first run of them is named, a single one by its code point. -/
def shownRun (run : SurrogateRun) : String :=
  "'utf-8' codec can't encode " ++
    (if run.length ≤ 1 then
      "character '\\u" ++ String.ofList (hexText 4 run.first) ++ "' in position " ++ toString run.start
    else
      "characters in position " ++ toString run.start ++ "-" ++ toString (run.start + run.length - 1)) ++
    ": surrogates not allowed"

def message : Fault → String
  | tagAndDatatype => "A literal cannot carry both a language tag and a datatype"
  | illegalIri iri =>
    "\"" ++ iri ++ "\" does not look like a valid URI, I cannot serialize this as N3/Turtle. " ++
      "Perhaps you wanted to urlencode it?"
  | illegalLanguage tag => "'" ++ tag ++ "' is not a valid language tag!"
  | formOfVariable name => "Variable ?" ++ name ++ " has no canonical form"
  | notATerm term => "Not a concrete RDF term: " ++ term.shown
  | notAGraphName graph =>
    "Not a graph name: " ++ (match graph with | some term => term.shown | none => "None")
  | iriOfValue value | datatypeOfValue value =>
    "argument of type '" ++ value.typeName ++ "' is not iterable"
  | languageOfValue value =>
    "expected string or bytes-like object, got '" ++ value.typeName ++ "'"
  | unencodable text => shownRun (firstRun text)
  | emptyTerm => "Empty term"
  | termOfValue type => "'" ++ type ++ "' object has no attribute 'startswith'"
  | lexicalOfTerm type => "'" ++ type ++ "' object has no attribute 'lexical'"
  | notATermText text => "Not an N-Triples term: " ++ text
  | unterminatedLiteral text => "Unterminated literal: " ++ text
  | illegalDatatype text => "Invalid datatype in literal: " ++ text
  | trailingText text => "Trailing characters after literal: " ++ text
  | malformedEscape => "<unicodeescape>"
  | nestedGraph => "No plugin registered for (None, <class 'rdflib.store.Store'>)"
  | unknownKey key => shownText key
  | unwritableInteger =>
    "Exceeds the limit (4300 digits) for integer string conversion; " ++
      "use sys.set_int_max_str_digits() to increase the limit"
  | notAnInteger text =>
    "invalid literal for int() with base 10: " ++ cut 200 (shownText text)
  | integerTooLong digits =>
    "Exceeds the limit (4300 digits) for integer string conversion: value has " ++
      toString digits ++ " digits; use sys.set_int_max_str_digits() to increase the limit"
  | notANumber text => "could not convert string to float: " ++ shownText text
  | integerOfNull =>
    "int() argument must be a string, a bytes-like object or a real number, not 'NoneType'"
  | numberOfNull => "float() argument must be a string or a real number, not 'NoneType'"
  | integerOfNan => "cannot convert float NaN to integer"
  | integerOfInfinity => "cannot convert float infinity to integer"
  | integerBeyondDouble => "int too large to convert to float"
  | zeroModulus => "integer modulo by zero"
  | notABoolean value => "Not a boolean: " ++ value.shown
  | unordered relation left right =>
    "'" ++ relation ++ "' not supported between instances of '" ++ left ++ "' and '" ++ right ++ "'"
  | undefinedOperation operation left right =>
    "unsupported operand type(s) for " ++ operation ++ ": '" ++ left ++ "' and '" ++ right ++ "'"
  | notNumeric lexical => "Not a numeric literal: " ++ shownText lexical
  | notInteger lexical => "Not an integer literal: " ++ shownText lexical
  | notDecimal lexical => "Not a decimal literal: " ++ shownText lexical
  | notDateTime lexical => "Not a dateTime literal: " ++ shownText lexical
  | notDate lexical => "Not a date literal: " ++ shownText lexical
  | offsetBeyondDay seconds =>
    "offset must be a timedelta strictly between -timedelta(hours=24) and " ++
      "timedelta(hours=24), not " ++ shownSpan seconds ++ "."
  | noRange codec => codec ++ " does not support range constraints"
  | datatypeTwice datatype => "Datatype " ++ datatype ++ " has more than one codec"
  | emptyExpression => "Empty filter expression"
  | invalidExpression text => "Invalid filter expression " ++ shownText text
  | unboundVariables triple => "Triple has unbound variables: " ++ triple.text
  | cannotCompile pattern cause => "Cannot compile " ++ pattern.text ++ ": " ++ cause.message
  | cannotCompileDelete pattern cause =>
    "Cannot compile delete of " ++ pattern.text ++ ": " ++ cause.message
  | noId => "Document has no id"
  | unknownField name => "Unknown index field: " ++ name
  | invalidFieldValue name value cause =>
    "Invalid value " ++ value.shown ++ " for field " ++ name ++ ": " ++ cause.message
  | readerClosed => "Index reader is closed"
  | documentNotFound id => "Document " ++ id.plain ++ " not found"
  | unknownId id => id.shown
  | unhashable type => "unhashable type: '" ++ type ++ "'"
  | notIterable type => "'" ++ type ++ "' object is not iterable"
  | emptyPage | keyWithoutDocuments => "list index out of range"
  | pageSizeNotInteger =>
    "slice indices must be integers or None or have an __index__ method"
  | cannotAdd triple cause => "Cannot add " ++ triple.text ++ ": " ++ cause.message
  | cannotDelete pattern cause => "Cannot delete " ++ pattern.text ++ ": " ++ cause.message
  | cannotClear graph cause => "Cannot clear graph " ++ graph.text ++ ": " ++ cause.message
  | raggedColumns => ""
  | integerTooWide number => "int value too large for Polars integer types: " ++ number
  | misfit type found columns =>
    "unexpected value while building Series of type " ++ type ++
      (match found with
        | some (valueType, value) => "; found value of type " ++ valueType ++ ": " ++ value
        | none => "") ++
      "\n\nThis error occurred with the following context stack:\n" ++
      String.join (columns.mapIdx fun i column =>
        "\t[" ++ toString (i + 1) ++ "] while constructing Series '" ++ column ++ "'\n") ++
      "\n\nHint: Try setting \x60strict=False\x60 to allow passing data with mixed types."
  | noCommonType left right => "failed to determine supertype of " ++ left ++ " and " ++ right
  | workersBelowOne => "max_workers must be at least 1"
  | pageSizeBelowOne => "page_size must be at least 1"
  | noReader => "No index reader to execute the plan against"
  | noPattern => "'NoneType' object has no attribute 'slots'"
  | noPlanReader => "'NoneType' object has no attribute 'closed'"
  | joinFailed cause => "Join execution failed: " ++ cause.message
  | cancelled => "Query was cancelled"
  | timedOut seconds => "Query exceeded timeout of " ++ seconds.plain ++ "s"
  | exhausted => ""
  | invalidSettings errors => "; ".intercalate errors
  | unreadableSetting name value =>
    "Invalid value for RDFDOCBASE_" ++ name ++ ": " ++ shownText value
  | variableNotText type => "str expected, not " ++ type
  | nullInVariable => "embedded null byte"
  | illegalVariableName => "illegal environment variable name"
  | malformedDocument => ""
  | nestedTooDeep container =>
    "maximum recursion depth exceeded while decoding a JSON " ++ container ++
      " from a unicode string"
  | membersOfValue type => "'" ++ type ++ "' object has no attribute 'get'"

def isWritable : Fault → Bool
  | notABoolean v | invalidFieldValue _ v _ | timedOut v => v.isWritable
  | notAGraphName (some t) | cannotClear t _ => t.isWritable
  | unboundVariables p | cannotCompile p _ | cannotCompileDelete p _ | cannotAdd p _
  | cannotDelete p _ => p.isWritable
  | _ => true

/-- The fault as it is reported: one whose message cannot be written gives way to that fault. -/
def reported (f : Fault) : Fault := if f.isWritable then f else unwritableInteger

theorem reported_of_isWritable {f : Fault} (h : f.isWritable = true) : f.reported = f := if_pos h

end Fault

/-- Give a text that holds an integer only if it can be written. -/
def written (writable : Bool) (text : String) : Except Fault String :=
  if writable then .ok text else .error .unwritableInteger

def Scalar.written (v : Scalar) : Except Fault String := TripleIndex.written v.isWritable v.plain

def Term.written (t : Term) : Except Fault String := TripleIndex.written t.isWritable t.text

def Pattern.written (p : Pattern) : Except Fault String := TripleIndex.written p.isWritable p.text

/-- A literal from its parts, of which a tag and a datatype exclude each other. -/
def Literal.make (value : Scalar) (language datatype : Option Scalar) : Except Fault Literal :=
  if (nonEmpty? language).isSome && (nonEmpty? datatype).isSome then .error .tagAndDatatype
  else .ok ⟨value, language, datatype⟩

end TripleIndex
