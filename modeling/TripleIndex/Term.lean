import TripleIndex.Scalar

/-!
RDF terms, triple patterns and the well-known names. A slot of a pattern holds a variable, a
concrete term, or a bare text, which is no term at all and is refused wherever a term is needed.
-/

namespace TripleIndex

/-- A literal has a language tag or a datatype, never both. An empty one counts as absent. Both are texts;
a literal with one that is none has no canonical form. -/
structure Literal where
  value : Scalar
  language : Option Scalar
  datatype : Option Scalar
  deriving DecidableEq, Repr

/-- An optional value, unless it is empty. -/
def nonEmpty? : Option Scalar → Option Scalar
  | some v => if v.isSet then some v else none
  | none => none

/-- Optional values that are both absent, or both present and alike. -/
def alike? : Option Scalar → Option Scalar → Bool
  | some v, some w => v.alike w
  | none, none => true
  | _, _ => false

namespace Literal

def lexical (l : Literal) : String := l.value.formatted

def ofText (s : String) : Literal := ⟨.text s, none, none⟩

def language? (l : Literal) : Option Scalar := nonEmpty? l.language

def datatype? (l : Literal) : Option Scalar := nonEmpty? l.datatype

def isWritable (l : Literal) : Bool :=
  l.value.isWritable && l.language.all Scalar.isWritable && l.datatype.all Scalar.isWritable

def same (a b : Literal) : Bool :=
  a.value.alike b.value && alike? a.language b.language && alike? a.datatype b.datatype

def text (l : Literal) : String :=
  let base := "\"" ++ l.lexical ++ "\""
  match l.language?, l.datatype? with
  | some tag, _ => base ++ "@" ++ tag.plain
  | none, some dt => base ++ "^^<" ++ dt.plain ++ ">"
  | none, none => base

end Literal

/-- A term. An IRI may be made of a value that is no string; unless that is a text with surrogates it has
no canonical form. -/
inductive Term where
  | var (name : String)
  | iri (value : String)
  | iriOfValue (value : Scalar)
  | literal (value : Literal)
  | blank (label : String)
  | bare (text : String)
  deriving DecidableEq, Repr

inductive TermKind where
  | iri
  | literal
  | blank
  deriving DecidableEq, Repr

namespace Term

def ofIri : Scalar → Term
  | .text s => iri s
  | v => iriOfValue v

def typeName : Term → String
  | var _ => "Variable"
  | iri _ | iriOfValue _ => "IRI"
  | literal _ => "Literal"
  | blank _ => "BlankNode"
  | bare _ => "str"

def isWritable : Term → Bool
  | literal l => l.isWritable
  | iriOfValue v => v.isWritable
  | _ => true

def same : Term → Term → Bool
  | literal a, literal b => a.same b
  | var a, var b => a == b
  | iri a, iri b => a == b
  | iriOfValue a, iriOfValue b => a.alike b
  | blank a, blank b => a == b
  | bare a, bare b => a == b
  | _, _ => false

/-- The terms of a list, each once: the first of those that are equal. -/
def distinct (ts : List Term) : List Term :=
  ts.foldl (fun seen t => if seen.any (·.same t) then seen else seen ++ [t]) []

def text : Term → String
  | var name => "?" ++ name
  | iri value => "<" ++ value ++ ">"
  | iriOfValue v => "<" ++ v.plain ++ ">"
  | literal l => l.text
  | blank label => "_:" ++ label
  | bare s => s

def shownOption : Option Scalar → String
  | some v => v.shown
  | none => "None"

def shown : Term → String
  | var name => "Variable(name=" ++ shownText name ++ ")"
  | iri value => "IRI(value=" ++ shownText value ++ ")"
  | iriOfValue v => "IRI(value=" ++ v.shown ++ ")"
  | literal l =>
    "Literal(value=" ++ l.value.shown ++ ", language=" ++ shownOption l.language ++
      ", datatype=" ++ shownOption l.datatype ++ ")"
  | blank label => "BlankNode(label=" ++ shownText label ++ ")"
  | bare s => shownText s

end Term

/-- The three places of a triple. -/
inductive Slot where
  | subject
  | predicate
  | object
  deriving DecidableEq, Repr

/-- A triple some of whose places may hold variables. -/
structure Pattern where
  subject : Term
  predicate : Term
  object : Term
  deriving DecidableEq, Repr

namespace Pattern

def slots (p : Pattern) : List (Slot × Term) :=
  [(.subject, p.subject), (.predicate, p.predicate), (.object, p.object)]

def isWritable (p : Pattern) : Bool :=
  p.subject.isWritable && p.predicate.isWritable && p.object.isWritable

def text (p : Pattern) : String :=
  p.subject.text ++ " " ++ p.predicate.text ++ " " ++ p.object.text ++ " ."

/-- Names of the variables in the order of the slots, repetitions included. -/
def variableSlots (p : Pattern) : List String :=
  p.slots.filterMap fun (_, t) => match t with
    | .var name => some name
    | _ => none

/-- Names of the variables, each once, in order of first appearance. -/
def variableNames (p : Pattern) : List String := p.variableSlots.eraseDups

def isConcrete (p : Pattern) : Bool := p.variableSlots.isEmpty

def same (p q : Pattern) : Bool :=
  p.subject.same q.subject && p.predicate.same q.predicate && p.object.same q.object

end Pattern

/-- Names in the vocabulary of XML Schema. -/
def xsd (name : String) : String := "http://www.w3.org/2001/XMLSchema#" ++ name

/-- The graph that is meant when none is named. -/
def defaultGraphName : String := "urn:x-arq:DefaultGraph"

end TripleIndex
