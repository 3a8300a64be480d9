import TripleIndex.Json.Value

/-!
The written forms of JSON values. Only printable ASCII is written as it is; any other character stands as
one or two units of four hexadecimal digits. In the long form every item and every member has a line of
its own, two spaces further in than the value that it is part of. The short form is one line without
spaces.
-/

namespace TripleIndex

def unitEscape (n : Nat) : List Char := '\\' :: 'u' :: hexText 4 n

def escapeJson (c : Char) : List Char :=
  if c = '"' then ['\\', '"']
  else if c = '\\' then ['\\', '\\']
  else if c = '\n' then ['\\', 'n']
  else if c = '\r' then ['\\', 'r']
  else if c = '\t' then ['\\', 't']
  else if c = '\x0c' then ['\\', 'f']
  else if c = '\x08' then ['\\', 'b']
  else if ' ' ≤ c && c ≤ '~' then [c]
  else if c.toNat ≤ 0xFFFF then unitEscape c.toNat
  else
    let n := c.toNat - 0x10000
    unitEscape (0xD800 + n / 0x400) ++ unitEscape (0xDC00 + n % 0x400)

/-- A string. One in which nothing is escaped is taken whole. -/
def jsonString (s : String) : String :=
  if s.all fun c => escapeJson c == [c] then "\"" ++ s ++ "\""
  else String.ofList ('"' :: s.toList.flatMap escapeJson ++ ['"'])

def jsonPoints (ns : List Nat) : String :=
  String.ofList ('"' ::
    ns.flatMap (fun n => if isSurrogate n then unitEscape n else escapeJson (Char.ofNat n)) ++ ['"'])

def jsonText : Scalar → String
  | .text s => jsonString s
  | .codePoints ns => jsonPoints ns
  | .bool true => "true"
  | .bool false => "false"
  | .null => "null"
  | .int n => toString n
  | .float (.nan _) => "NaN"
  | .float (.infinite negative) => if negative then "-Infinity" else "Infinity"
  | .float x => x.text

/-- Lines between brackets, with commas between them. Without lines the brackets touch. -/
def bracketed (opening closing indent : String) (lines : List String) : String :=
  if lines.isEmpty then opening ++ closing
  else opening ++ "\n" ++ ",\n".intercalate lines ++ "\n" ++ indent ++ closing

namespace JsonValue

mutual

/-- The written form of a value that stands in a line with an indent. -/
def textFrom (indent : String) : JsonValue → String
  | scalar v => jsonText v
  | array items => bracketed "[" "]" indent (itemLines (indent ++ "  ") items)
  | object members => bracketed "\x7b" "\x7d" indent (memberLines (indent ++ "  ") members)

def itemLines (indent : String) : List JsonValue → List String
  | [] => []
  | v :: vs => (indent ++ v.textFrom indent) :: itemLines indent vs

def memberLines (indent : String) : List (String × JsonValue) → List String
  | [] => []
  | (name, v) :: ms => (indent ++ jsonString name ++ ": " ++ v.textFrom indent) :: memberLines indent ms

end

def text (v : JsonValue) : String := v.textFrom ""

mutual

/-- Write the short form of a value after a text. -/
def appendTo (written : String) : JsonValue → String
  | scalar v => written ++ jsonText v
  | array items => (appendItems (written ++ "[") true items).push ']'
  | object members => (appendMembers (written ++ "\x7b") true members).push '\x7d'

/-- Write items, with a comma before each that is not the first. -/
def appendItems (written : String) (isFirst : Bool) : List JsonValue → String
  | [] => written
  | v :: vs => appendItems (v.appendTo (if isFirst then written else written.push ',')) false vs

def appendMembers (written : String) (isFirst : Bool) : List (String × JsonValue) → String
  | [] => written
  | (name, v) :: ms =>
    let separated := if isFirst then written else written.push ','
    appendMembers (v.appendTo ((separated ++ jsonString name).push ':')) false ms

end

def line (v : JsonValue) : String := v.appendTo ""

end JsonValue

end TripleIndex
