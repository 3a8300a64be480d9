import TripleIndex.Fault
import TripleIndex.Filter.Clause
import TripleIndex.Text.Blank

/-!
Reading the text of a filter query. Clauses are separated by the word `AND`; a clause is a field, a
colon and a value, which is quoted or a bare word, or a range in brackets with `TO` between its
bounds. Of the alternatives for a piece of text the first that matches counts, and what has matched
is not taken back. A tab, also one between quotes, stands for the spaces up to the next column that
is a multiple of eight.
-/

namespace TripleIndex

namespace Grammar

/-- Tabs as spaces, given the column of the next character. -/
def expandTabsFrom : Nat → List Char → List Char
  | _, [] => []
  | column, c :: cs =>
    if c = '\t' then List.replicate (8 - column % 8) ' ' ++ expandTabsFrom 0 cs
    else c :: expandTabsFrom (if c = '\n' || c = '\r' then 0 else column + 1) cs

def expandTabs (cs : List Char) : List Char := expandTabsFrom 0 cs

def isSkipped (c : Char) : Bool := c = ' ' || c = '\t' || c = '\n' || c = '\r'

def skip (cs : List Char) : List Char := cs.dropWhile isSkipped

def token? (c : Char) (cs : List Char) : Option (List Char) :=
  match skip cs with
  | [] => none
  | d :: rest => if d = c then some rest else none

/-- Characters that a word runs on with: letters, digits, underscore and dollar sign, and the two
letters beyond ASCII that have a capital in it. -/
def continuesWord (c : Char) : Bool :=
  c.isAlphanum || c = '_' || c = '$' || c = '\u0131' || c = '\u017f'

/-- Text that begins with a word given in capitals, in any case. -/
def afterWord? : List Char → List Char → Option (List Char)
  | [], rest => if (rest.head?.map continuesWord).getD false then none else some rest
  | _ :: _, [] => none
  | w :: ws, c :: cs => if c.toUpper = w then afterWord? ws cs else none

def keyword? (word : List Char) (cs : List Char) : Option (List Char) :=
  afterWord? word (skip cs)

def wordAnd : List Char := ['A', 'N', 'D']

def wordTo : List Char := ['T', 'O']

def startsName (c : Char) : Bool := c.isAlpha || c = '_'

def continuesName (c : Char) : Bool := c.isAlphanum || c = '_'

def name? (cs : List Char) : Option (List Char × List Char) :=
  match skip cs with
  | [] => none
  | c :: rest =>
    if startsName c then some (c :: rest.takeWhile continuesName, rest.dropWhile continuesName)
    else none

/-- The rest of a quoted value up to its closing quote. After a backslash any character stands for
itself. -/
def quotedRest? : List Char → Option (List Char × List Char)
  | [] => none
  | ['\\'] => none
  | '"' :: rest => some ([], rest)
  | '\\' :: c :: rest => (quotedRest? rest).map fun (value, after) => (c :: value, after)
  | c :: rest => (quotedRest? rest).map fun (value, after) => (c :: value, after)

def quoted? (cs : List Char) : Option (List Char × List Char) :=
  (token? '"' cs).bind quotedRest?

/-- A word of characters that are neither white space nor refused. -/
def word? (refused : Char → Bool) (cs : List Char) : Option (List Char × List Char) :=
  let goesOn := fun c => !isBlank c && !refused c
  let body := skip cs
  let word := body.takeWhile goesOn
  if word.isEmpty then none else some (word, body.dropWhile goesOn)

def refusedInValue (c : Char) : Bool := c = '"' || c = '[' || c = ']'

def refusedInBound (c : Char) : Bool := c = '"' || c = ']'

/-- A quoted value, or a bare word that is not `AND`. -/
def value? (cs : List Char) : Option (List Char × List Char) :=
  match quoted? cs with
  | some r => some r
  | none => if (keyword? wordAnd cs).isSome then none else word? refusedInValue cs

/-- A star for an open side, a quoted value, or a bare word. -/
def bound? (cs : List Char) : Option (Option (List Char) × List Char) :=
  match token? '*' cs with
  | some rest => some (none, rest)
  | none =>
    match quoted? cs with
    | some (value, rest) => some (some value, rest)
    | none => (word? refusedInBound cs).map fun (value, rest) => (some value, rest)

def range? (cs : List Char) :
    Option ((Option (List Char) × Option (List Char)) × List Char) := do
  let cs ← token? '[' cs
  let (lower, cs) ← bound? cs
  let cs ← keyword? wordTo cs
  let (upper, cs) ← bound? cs
  let cs ← token? ']' cs
  some ((lower, upper), cs)

def textOf (cs : List Char) : Scalar := .text (String.ofList cs)

def clause? (cs : List Char) : Option (Clause × List Char) := do
  let (name, cs) ← name? cs
  let cs ← token? ':' cs
  let field := String.ofList name
  match range? cs with
  | some ((lower, upper), rest) =>
    some (.range field (lower.map textOf) (upper.map textOf), rest)
  | none =>
    let (value, rest) ← value? cs
    some (.term field (textOf value), rest)

/-- Clauses up to the end of the text, given at least as many steps as there are clauses. -/
def clauses? : Nat → List Char → Option Filter
  | 0, _ => none
  | steps + 1, cs => do
    let (c, rest) ← clause? cs
    if (skip rest).isEmpty then some [c]
    else
      let rest ← keyword? wordAnd rest
      let more ← clauses? steps rest
      some (c :: more)

def filter? (cs : List Char) : Option Filter :=
  let body := skip cs
  if Filter.everything.isPrefixOf body then
    if (skip (body.drop Filter.everything.length)).isEmpty then some [] else none
  else clauses? cs.length cs

end Grammar

/-- Read the text of a filter query. Every value is a text. -/
def Filter.ofText (text : String) : Except Fault Filter :=
  let cs := trim text.toList
  if cs.isEmpty then .error .emptyExpression
  else
    match Grammar.filter? (Grammar.expandTabs cs) with
    | some f => .ok f
    | none => .error (.invalidExpression text)

/-- The text of a query, if it can be written. -/
def Filter.written (f : Filter) : Except Fault String := TripleIndex.written f.isWritable f.text

end TripleIndex
