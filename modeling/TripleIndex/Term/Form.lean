import TripleIndex.Fault
import TripleIndex.Number.Read
import TripleIndex.Text.Replace

/-!
The canonical form of a concrete term, which is its N-Triples form: an IRI in angle brackets, a
blank node label after `_:`, a literal in quotes with its tag or datatype. A literal with a newline
stands in three quotes and keeps its newlines. No rule of the form looks at surrogates, so it is made with
the replacement character in the place of each of them.
-/

namespace TripleIndex

/-- Characters that no IRI may hold. -/
def illegalInIri : List Char := "<>\" \x7b\x7d|\\^\x60".toList

def isLegalIri (cs : List Char) : Bool := cs.all fun c => !illegalInIri.contains c

/-- Subtags of letters and digits separated by hyphens. The first flag says that no hyphen has come
yet, where only letters may stand, and the second that a subtag is about to begin. -/
def areSubtags : Bool → Bool → List Char → Bool
  | _, fresh, [] => !fresh
  | primary, fresh, c :: cs =>
    if c = '-' then !fresh && areSubtags false true cs
    else (c.isAlpha || !primary && c.isDigit) && areSubtags primary false cs

/-- A language tag, after which one newline is let through. -/
def isLanguageTag (cs : List Char) : Bool :=
  areSubtags true true (if cs.getLast? = some '\n' then cs.dropLast else cs)

def escapeSingle (c : Char) : List Char :=
  if c = '\\' then ['\\', '\\']
  else if c = '"' then ['\\', '"']
  else if c = '\r' then ['\\', 'r']
  else [c]

/-- Escape a quote that would run into the closing quotes, unless a backslash stands before it. -/
def escapeLastQuote (cs : List Char) : List Char :=
  match cs.reverse with
  | '"' :: c :: rest => if c = '\\' then cs else (rest.reverse ++ [c, '\\', '"'])
  | _ => cs

def doubleBackslash (c : Char) : List Char := if c = '\\' then ['\\', '\\'] else [c]

def escapeReturn (c : Char) : List Char := if c = '\r' then ['\\', 'r'] else [c]

def threeQuotes : List Char := ['"', '"', '"']

/-- Text between quotes: one on each side, or three when there is a newline in it. -/
def quotedForm (cs : List Char) : List Char :=
  if cs.contains '\n' then
    let doubled := cs.flatMap doubleBackslash
    let guarded := replaceAll threeQuotes ['\\', '"', '\\', '"', '\\', '"'] doubled
    threeQuotes ++ (escapeLastQuote guarded).flatMap escapeReturn ++ threeQuotes
  else '"' :: cs.flatMap escapeSingle ++ ['"']

/-- Tabs and line ends as spaces. -/
def flattenBlanks (cs : List Char) : List Char :=
  cs.map fun c => if c = '\t' || c = '\n' || c = '\r' then ' ' else c

/-- Runs of spaces as one space. -/
def collapseSpaces : List Char → List Char
  | [] => []
  | c :: cs =>
    match collapseSpaces cs with
    | ' ' :: rest => if c = ' ' then ' ' :: rest else c :: ' ' :: rest
    | rest => c :: rest

/-- White space as the datatype wants it. -/
def normalizeLexical (datatype : Option Scalar) (cs : List Char) : List Char :=
  if datatype = some (.text (xsd "normalizedString")) then flattenBlanks cs
  else if datatype = some (.text (xsd "token")) then collapseSpaces (trim (flattenBlanks cs))
  else cs

/-- The datatypes whose infinities and `nan` have a spelling of their own. -/
def hasSpecialValues (datatype : String) : Bool :=
  datatype = xsd "float" || datatype = xsd "double" || datatype = xsd "decimal"

def spellInfinity (cs : List Char) : List Char :=
  replaceAll "Infinity".toList "INF".toList (replaceAll "inf".toList "INF".toList cs)

def spellNan (cs : List Char) : List Char := replaceAll "nan".toList "NaN".toList cs

/-- Spell the special values of a number, given its lexical form and the quoted one. -/
def spellSpecial (lexical quoted : List Char) : List Char :=
  match readDouble? (String.ofList lexical) with
  | some (.infinite _) => spellInfinity quoted
  | some (.nan _) => spellNan quoted
  | _ => quoted

/-- A form as a text, of which it is known what its replacement characters stand for. Only a text without
surrogates is a string. -/
def encodable (hidden : List Nat) (cs : List Char) : Except Fault String :=
  if hidden.any isSurrogate then .error (.unencodable (restore hidden cs)) else .ok (String.ofList cs)

namespace Literal

/-- What the replacement characters in the canonical form stand for. -/
def hidden (l : Literal) : List Nat :=
  replaced l.value.points ++ replaced ((l.datatype?.map Scalar.points).getD [])

/-- The lexical form between quotes, and the tag or the datatype after it. -/
def formChars (l : Literal) : Except Fault (List Char) :=
  let lexical := normalizeLexical l.datatype? l.lexical.toList
  let quoted := quotedForm lexical
  match l.language?, l.datatype? with
  | some (.text tag), _ =>
    if isLanguageTag tag.toList then .ok (quoted ++ '@' :: tag.toList) else .error (.illegalLanguage tag)
  | some tag, _ => .error (.languageOfValue tag)
  | none, some dt =>
    let name := dt.plain
    let spelled := if hasSpecialValues name then spellSpecial lexical quoted else quoted
    .ok (spelled ++ '^' :: '^' :: '<' :: name.toList ++ ['>'])
  | none, none => .ok quoted

/-- Whether the datatype is a text if there is one. -/
def hasDatatypeText (l : Literal) : Bool := l.datatype?.all fun dt => dt.comparable (.text "")

def form (l : Literal) : Except Fault String :=
  if !l.hasDatatypeText then .error (.datatypeOfValue (l.datatype?.getD .null))
  else if !l.isWritable then .error .unwritableInteger
  else l.formChars.bind (encodable l.hidden)

end Literal

namespace Term

def formOfIri (v : Scalar) : Except Fault String :=
  match v with
  | .codePoints ns =>
    if isLegalIri (ns.map standIn) then
      encodable (replaced ns) ('<' :: ns.map standIn ++ ['>'])
    else .error (.illegalIri v.plain)
  | v => .error (.iriOfValue v)

def form : Term → Except Fault String
  | var name => .error (.formOfVariable name)
  | iri value =>
    if isLegalIri value.toList then .ok ("<" ++ value ++ ">") else .error (.illegalIri value)
  | iriOfValue v => formOfIri v
  | blank label => .ok ("_:" ++ label)
  | literal l => l.form
  | bare s => .error (.notATerm (.bare s))

/-- The canonical form as a value, which may hold surrogates. -/
def formValue (t : Term) : Except Fault Scalar :=
  match t.form with
  | .ok form => .ok (.text form)
  | .error (.unencodable ns) => .ok (.codePoints ns)
  | .error f => .error f

def kind : Term → Except Fault TermKind
  | iri _ | iriOfValue _ => .ok .iri
  | literal _ => .ok .literal
  | blank _ => .ok .blank
  | t => .error (.notATerm t)

end Term

/-- The canonical form of a graph name, which must be given. A bare text names the graph of that
IRI. -/
def graphForm : Option Term → Except Fault String
  | some (.bare s) => (Term.iri s).form
  | some (.iri value) => (Term.iri value).form
  | some (.iriOfValue v) => (Term.iriOfValue v).form
  | some (.blank label) => (Term.blank label).form
  | graph => .error (Fault.notAGraphName graph).reported

end TripleIndex
