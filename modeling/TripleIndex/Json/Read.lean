import TripleIndex.Json.Value
import TripleIndex.Term.Read

/-!
Reading JSON. Beyond the standard the words `NaN`, `Infinity` and `-Infinity` are numbers. A number
without fraction and exponent is an integer of any size that a text may write, and every other one is
the nearest floating point number. A pair of escaped surrogates is one character. Arrays and objects
stand in one another up to a fixed depth only.
-/

namespace TripleIndex

def isJsonBlank (c : Char) : Bool := c = ' ' || c = '\t' || c = '\n' || c = '\r'

def skipJsonBlanks (cs : List Char) : List Char := cs.dropWhile isJsonBlank

def jsonEscape? : Char → Option Char
  | '"' => some '"'
  | '\\' => some '\\'
  | '/' => some '/'
  | 'b' => some '\x08'
  | 'f' => some '\x0c'
  | 'n' => some '\n'
  | 'r' => some '\r'
  | 't' => some '\t'
  | _ => none

/-- The number that four hexadecimal digits write. -/
def unitOf? (a b c d : Char) : Option Nat :=
  match hexValue? a, hexValue? b, hexValue? c, hexValue? d with
  | some a, some b, some c, some d => some (((a * 16 + b) * 16 + c) * 16 + d)
  | _, _, _, _ => none

/-- The code points of what follows the opening quote of a string, and what follows the string. -/
def readJsonString? : List Char → Option (List Nat × List Char)
  | [] => none
  | '"' :: rest => some ([], rest)
  | '\\' :: 'u' :: a :: b :: c :: d :: rest =>
    match unitOf? a b c d with
    | none => none
    | some unit => (readJsonString? rest).map fun (s, after) => (unit :: s, after)
  | '\\' :: e :: rest =>
    match jsonEscape? e with
    | none => none
    | some c => (readJsonString? rest).map fun (s, after) => (c.toNat :: s, after)
  | c :: rest =>
    if c.toNat < 0x20 || c = '\\' then none
    else (readJsonString? rest).map fun (s, after) => (c.toNat :: s, after)

/-! ## Numbers -/

def asciiDigits (cs : List Char) : List Char := cs.takeWhile Char.isDigit

/-- The digits before the point, of which a zero at the front is the only one. -/
def wholeDigits : List Char → List Char
  | '0' :: _ => ['0']
  | cs => asciiDigits cs

def fractionPart : List Char → List Char
  | '.' :: rest => if (asciiDigits rest).isEmpty then [] else '.' :: asciiDigits rest
  | _ => []

def exponentSign : List Char → List Char
  | '+' :: _ => ['+']
  | '-' :: _ => ['-']
  | _ => []

/-- The exponent letter with an optional sign and digits. -/
def exponentPart : List Char → List Char
  | c :: rest =>
    let sign := exponentSign rest
    let digits := asciiDigits (rest.drop sign.length)
    if (c = 'e' || c = 'E') && !digits.isEmpty then c :: sign ++ digits else []
  | [] => []

def jsonSign : List Char → List Char
  | '-' :: _ => ['-']
  | _ => []

/-- A number at the front of a text and what follows it. -/
def readJsonNumber (cs : List Char) : Except Fault (Scalar × List Char) :=
  let sign := jsonSign cs
  let cs := cs.drop sign.length
  let whole := wholeDigits cs
  let afterWhole := cs.drop whole.length
  let fraction := fractionPart afterWhole
  let afterFraction := afterWhole.drop fraction.length
  let exponent := exponentPart afterFraction
  let rest := afterFraction.drop exponent.length
  let text := String.ofList (sign ++ whole ++ fraction ++ exponent)
  if whole.isEmpty then .error .malformedDocument
  else if fraction.isEmpty && exponent.isEmpty then (integerOf text).map fun n => (.int n, rest)
  else (doubleOf text).map fun x => (.float x, rest)

/-- The words that stand for values. -/
def jsonWords : List (String × Scalar) := [
  ("null", .null), ("true", .bool true), ("false", .bool false), ("NaN", .float (.nan 0)),
  ("Infinity", .float (.infinite false)), ("-Infinity", .float (.infinite true))]

/-- A word or a number at the front of a text and what follows it. -/
def readJsonAtom (cs : List Char) : Except Fault (Scalar × List Char) :=
  match jsonWords.find? fun (word, _) => word.toList.isPrefixOf cs with
  | some (word, v) => .ok (v, cs.drop word.length)
  | none => readJsonNumber cs

/-! ## Values -/

/-- How deep arrays and objects may stand in one another. -/
def maxNesting : Nat := 990

mutual

/-- A value and what follows it, given more steps than the text has characters, with arrays and
objects in one another up to `depth`. -/
def readJsonValue (depth : Nat) : Nat → List Char → Except Fault (JsonValue × List Char)
  | 0, _ => .error .malformedDocument
  | steps + 1, cs =>
    match skipJsonBlanks cs with
    | '"' :: rest =>
      match readJsonString? rest with
      | some (s, after) => .ok (.scalar (.ofCodePoints (joinPairs s)), after)
      | none => .error .malformedDocument
    | '\x7b' :: rest =>
      if depth = 0 then .error (.nestedTooDeep "object")
      else
        match skipJsonBlanks rest with
        | '\x7d' :: after => .ok (.object [], after)
        | rest =>
          (readJsonMembers (depth - 1) steps rest).map fun (ms, after) => (.ofMembers ms, after)
    | '[' :: rest =>
      if depth = 0 then .error (.nestedTooDeep "array")
      else
        match skipJsonBlanks rest with
        | ']' :: after => .ok (.array [], after)
        | rest => (readJsonItems (depth - 1) steps rest).map fun (vs, after) => (.array vs, after)
    | rest => (readJsonAtom rest).map fun (v, after) => (.scalar v, after)

/-- The items of an array that has at least one, and what follows the closing bracket. -/
def readJsonItems (depth : Nat) : Nat → List Char → Except Fault (List JsonValue × List Char)
  | 0, _ => .error .malformedDocument
  | steps + 1, cs =>
    match readJsonValue depth steps cs with
    | .error e => .error e
    | .ok (v, rest) =>
      match skipJsonBlanks rest with
      | ']' :: after => .ok ([v], after)
      | ',' :: rest => (readJsonItems depth steps rest).map fun (vs, after) => (v :: vs, after)
      | _ => .error .malformedDocument

/-- The members of an object that has at least one, and what follows the closing brace. -/
def readJsonMembers (depth : Nat) : Nat → List Char → Except Fault (List (String × JsonValue) × List Char)
  | 0, _ => .error .malformedDocument
  | steps + 1, cs =>
    match skipJsonBlanks cs with
    | '"' :: rest =>
      match readJsonString? rest with
      | none => .error .malformedDocument
      | some (name, rest) =>
        match skipJsonBlanks rest with
        | ':' :: rest =>
          match readJsonValue depth steps rest with
          | .error e => .error e
          | .ok (v, rest) =>
            let entry := (String.ofList ((joinPairs name).map standIn), v)
            match skipJsonBlanks rest with
            | '\x7d' :: after => .ok ([entry], after)
            | ',' :: rest =>
              (readJsonMembers depth steps rest).map fun (ms, after) => (entry :: ms, after)
            | _ => .error .malformedDocument
        | _ => .error .malformedDocument
    | _ => .error .malformedDocument

end

/-- Read a text that holds one value and nothing else. -/
def JsonValue.ofDocument (text : String) : Except Fault JsonValue :=
  match readJsonValue maxNesting (text.length + 1) text.toList with
  | .error e => .error e
  | .ok (v, rest) => if (skipJsonBlanks rest).isEmpty then .ok v else .error .malformedDocument

end TripleIndex
