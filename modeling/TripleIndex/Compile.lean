import TripleIndex.Binding
import TripleIndex.Codec.Registry
import TripleIndex.Document
import TripleIndex.Digest.NameUuid
import TripleIndex.Filter.Clause

/-!
Patterns and triples in the terms of the index: the filter query that selects the documents of a
pattern, the text of the same query for deletions, the document that stands for a triple, and the
way back from a document to terms and bindings.
-/

namespace TripleIndex

/-- The identifier is that of the canonical forms written one after the other. -/
def documentName (context subject predicate object : String) : String :=
  context ++ subject ++ predicate ++ object

def documentId (context subject predicate object : String) : String :=
  nameUuid (documentName context subject predicate object)

/-- What the language field holds for a literal. -/
def languageField (l : Literal) : Scalar := l.language?.getD (.text noLanguage)

def slotClauses (field : String) : Term → Except Fault Filter
  | .var _ => .ok []
  | t => t.form.map fun form => [.term field (.text form)]

/-- The clause for a literal: on its value if it has one, else on its canonical form. -/
def literalClause (registry : Registry) (l : Literal) : Except Fault Clause := do
  let family := registry.forLiteral l
  if !l.isWritable then throw .unwritableInteger
  else if family.isIndexable l.lexical then family.valueClause l.lexical
  else return .term Field.object (.text (← l.form))

def objectClauses (registry : Registry) : Term → Except Fault Filter
  | .literal l => do
    return [.term Field.lang (languageField l), ← literalClause registry l]
  | t => slotClauses Field.object t

/-- The clauses of a pattern in a graph. Variables add none and the graph comes last. -/
def patternClauses (registry : Registry) (p : Pattern) (graph : Option Term) : Except Fault Filter := do
  let subject ← slotClauses Field.subject p.subject
  let predicate ← slotClauses Field.predicate p.predicate
  let object ← objectClauses registry p.object
  let context ← graphForm graph
  return subject ++ predicate ++ object ++ [.term Field.context (.text context)]

/-- The query that selects the documents of a pattern. -/
def compile (registry : Registry) (p : Pattern) (graph : Option Term) : Except Fault Filter :=
  match patternClauses registry p graph with
  | .ok f => .ok f
  | .error cause =>
    if cause.isValueFault || cause.isTypeFault || cause.kind = .unsupportedConstraint then
      .error (Fault.cannotCompile p cause).reported
    else .error cause

/-- The text of the query for the documents that a deletion removes. -/
def deleteText (registry : Registry) (p : Pattern) (graph : Option Term) : Except Fault String :=
  match patternClauses registry p graph with
  | .ok f => .ok f.text
  | .error cause =>
    if cause.isValueFault || cause.isTypeFault then
      .error (Fault.cannotCompileDelete p cause).reported
    else .error cause

def objectFields (registry : Registry) : Term → Except Fault Document
  | .literal l => do
    let fields ← (registry.forLiteral l).encode l
    return fields ++ [(Field.lang, languageField l)]
  | t => do return [(Field.object, .text (← t.form))]

def objectForm (fields : Document) : String := ((fields.lookup Field.object).getD .null).plain

def document (registry : Registry) (triple : Pattern) (graph : Option Term) : Except Fault Document := do
  if !triple.isConcrete then .error (Fault.unboundVariables triple).reported
  else
    let context ← graphForm graph
    let subject ← triple.subject.form
    let predicate ← triple.predicate.form
    let fields ← objectFields registry triple.object
    let id := documentId context subject predicate (objectForm fields)
    return [(Field.id, .text id), (Field.context, .text context), (Field.subject, .text subject),
      (Field.predicate, .text predicate)] ++ fields

/-- The canonical form in a slot of a document. A value that counts as absent is an empty one, and any
other that is no text is none. -/
def slotForm (fields : Document) (slot : Slot) : Except Fault String :=
  match fields.lookup slot.field with
  | some (.text s) => .ok s
  | some v => if v.isSet then .error (.termOfValue v.typeName) else .ok ""
  | none => .error (.unknownKey slot.field)

def slotTerm (fields : Document) (slot : Slot) : Except Fault Term := do
  Term.ofForm (← slotForm fields slot)

def tripleOf (fields : Document) : Except Fault Pattern := do
  return ⟨← slotTerm fields .subject, ← slotTerm fields .predicate, ← slotTerm fields .object⟩

/-- One clause for each slot whose variable has a value already. -/
def joinClauses (binding : Binding) : List (Slot × Term) → Except Fault Filter
  | [] => .ok []
  | (slot, .var name) :: rest =>
    match binding.get? name with
    | none => joinClauses binding rest
    | some t => do
      let form ← t.formValue
      return .term slot.field form :: (← joinClauses binding rest)
  | _ :: rest => joinClauses binding rest

/-- The query that narrows the documents of a pattern to those that agree with a binding. -/
def joinFilter (p : Pattern) (binding : Binding) : Except Fault Filter := joinClauses binding p.slots

/-- Bind the variables of the slots. `seen` holds the terms that the document itself has given to
variables; two different ones for one variable mean that the document does not match. -/
def bindSlots (fields : Document) :
    List (Slot × Term) → Binding → Binding → Except Fault (Option Binding)
  | [], _, binding => .ok (some binding)
  | (slot, .var name) :: rest, seen, binding => do
    let t ← slotTerm fields slot
    if (((seen.get? name).getD t).same t) then
      bindSlots fields rest (seen.bind name t) (binding.bind name t)
    else return none
  | _ :: rest, seen, binding => bindSlots fields rest seen binding

/-- Extend a binding with the variables of a pattern, taken from a document. A variable that has a
value keeps it. Nothing comes back when the document gives one variable two values. -/
def bindDocument (p : Pattern) (fields : Document) (parent : Binding) :
    Except Fault (Option Binding) := bindSlots fields p.slots [] parent

end TripleIndex
