import TripleIndex.Term.Escape
import TripleIndex.Term.Form
import TripleIndex.Term.Vocabulary

/-!
Reading a canonical form back into its term. What is no literal may first be any of the forms that
abbreviate a term: a number, a truth value, an abbreviated name, a bare word, a graph in brackets.
Of these only an IRI and a blank node with its `_:` are terms that a document may hold.
-/

namespace TripleIndex

/-- What a form that is not read as a literal of a document stands for. -/
inductive Reading where
  | iri (value : Scalar)
  | blank (label : String)
  | other
  deriving DecidableEq, Repr

def inner (cs : List Char) : List Char := (cs.drop 1).dropLast

def readIri (cs : List Char) : Except Fault Reading :=
  match unescape? (inner cs) with
  | some value => .ok (.iri value)
  | none => .error .malformedEscape

/-- A word that a number could be written with: numeric characters and at most one each of the
point, the hyphen and the exponent letter. -/
def looksNumeric (cs : List Char) : Bool :=
  let rest := (((lowerAscii cs).erase '.').erase '-').erase 'e'
  !rest.isEmpty && rest.all isNumeral

/-- Text of an integer that is read where it has to be one. -/
def integerOf (s : String) : Except Fault Int :=
  match readInteger s with
  | .ok n => .ok n
  | .error .malformed => .error (.notAnInteger s)
  | .error (.tooManyDigits n) => .error (.integerTooLong n)

def doubleOf (s : String) : Except Fault Double :=
  match readDouble? s with
  | some x => .ok x
  | none => .error (.notANumber s)

def readNumeric (cs : List Char) : Except Fault Reading :=
  if (lowerAscii cs).contains 'e' then .ok .other
  else if cs.contains '.' then (doubleOf (String.ofList cs)).map fun _ => .other
  else (integerOf (String.ofList cs)).map fun _ => .other

def readAbbreviated (short rest : List Char) : Except Fault Reading :=
  match Vocabulary.expand? (String.ofList short) with
  | some iri => .ok (.iri (.text (iri ++ String.ofList rest)))
  | none => .error (.unknownKey (String.ofList short))

/-- The quotes that a literal starts with. -/
def openingQuotes (cs : List Char) : List Char :=
  if threeQuotes.isPrefixOf cs then threeQuotes else ['"']

/-- A literal where no literal is wanted: only its faults matter. -/
def readStrayLiteral (body rest : List Char) : Except Fault Reading :=
  match unescapeLexical? body with
  | none => .error .malformedEscape
  | some _ =>
    match rest with
    | '@' :: tag =>
      if tag.isEmpty || isLanguageTag tag then .ok .other
      else .error (.illegalLanguage (String.ofList tag))
    | _ => .ok .other

/-- Read one of the forms of a term, given at least its length in steps. -/
def readForm : Nat → List Char → Except Fault Reading
  | 0, _ => .ok .other
  | _ + 1, [] => .ok .other
  | steps + 1, c :: cs =>
    let all := c :: cs
    if c = '<' then readIri all
    else if c = '"' then
      let quotes := openingQuotes all
      match splitLast? quotes all with
      | none => .ok .other
      | some (opened, rest) =>
        match splitLast? ['^', '^'] rest with
        | some (_, datatype) =>
          match readForm steps datatype with
          | .error e => .error e
          | .ok _ => readStrayLiteral (opened.drop quotes.length) []
        | none => readStrayLiteral (opened.drop quotes.length) rest
    else if all = "true".toList || all = "false".toList then .ok .other
    else if looksNumeric all then readNumeric all
    else if c = '\x7b' || c = '[' then
      match readForm steps (inner all) with
      | .error e => .error e
      | .ok _ => .error .nestedGraph
    else if ['_', ':'].isPrefixOf all then .ok (.blank (String.ofList (all.drop 2)))
    else
      match splitFirst? ':' all with
      | some (short, rest) => readAbbreviated short rest
      | none => .ok (.blank (String.ofList all))

def reading (cs : List Char) : Except Fault Reading := readForm cs.length cs

/-- The lexical form between the quotes of a literal. -/
def lexicalOf (body : List Char) : Except Fault Scalar :=
  match unescapeLexical? body with
  | some lexical => .ok lexical
  | none => .error .malformedEscape

/-- What follows the closing quotes of a literal: nothing, a datatype or a tag. -/
def readTail (text : String) (lexical : Scalar) : List Char → Except Fault Term
  | [] => .ok (.literal ⟨lexical, none, none⟩)
  | '^' :: '^' :: rest =>
    match reading rest with
    | .error e => .error e
    | .ok (.iri datatype) => .ok (.literal ⟨lexical, none, some datatype⟩)
    | .ok _ => .error (.illegalDatatype text)
  | '@' :: tag => .ok (.literal ⟨lexical, some (.text (String.ofList tag)), none⟩)
  | _ => .error (.trailingText text)

def readLiteral (text : String) (cs : List Char) : Except Fault Term :=
  let quotes := openingQuotes cs
  match splitLast? quotes cs with
  | none => .error (.unterminatedLiteral text)
  | some (body, rest) =>
    if body.length < quotes.length then .error (.unterminatedLiteral text)
    else
      match lexicalOf (body.drop quotes.length) with
      | .error e => .error e
      | .ok lexical => readTail text lexical rest

def Term.ofForm (text : String) : Except Fault Term :=
  match text.toList with
  | [] => .error .emptyTerm
  | '"' :: cs => readLiteral text ('"' :: cs)
  | cs =>
    match reading cs with
    | .error e => .error e
    | .ok (.iri value) => .ok (.ofIri value)
    | .ok (.blank label) =>
      if ['_', ':'].isPrefixOf cs then .ok (.blank label) else .error (.notATermText text)
    | .ok .other => .error (.notATermText text)

end TripleIndex
