import TripleIndex.CharName
import TripleIndex.Scalar
import TripleIndex.Text.Replace

/-!
Backslash escapes in the written forms of terms. A character above U+00FF is first spelled as an
escape itself; then a single pass over the text resolves the escapes. The pass is an automaton whose
state says how far it has come in an escape: an octal one ends after three digits or before the
first character that is none, a hexadecimal one has a fixed number of digits, one by name has the
name between braces, a backslash before a newline vanishes with it, and a backslash before any other
character stays.

The pass gives code points, surrogates among them. Two surrogates that make a pair stay two code points.
-/

namespace TripleIndex

/-- Spell the characters above U+00FF as escapes. -/
def spellWide (c : Char) : List Char :=
  if c.toNat ≤ 0xFF then [c]
  else if c.toNat ≤ 0xFFFF then '\\' :: 'u' :: hexText 4 c.toNat
  else '\\' :: 'U' :: hexText 8 c.toNat

inductive EscapeState where
  | plain
  | started
  | octal (left value : Nat)
  | hex (left value : Nat)
  | beforeName
  | name (read : List Char)
  deriving DecidableEq, Repr

def hexValue? (c : Char) : Option Nat :=
  if '0' ≤ c && c ≤ '9' then some (c.toNat - 0x30)
  else if 'a' ≤ c && c ≤ 'f' then some (c.toNat - 0x57)
  else if 'A' ≤ c && c ≤ 'F' then some (c.toNat - 0x37)
  else none

def octalValue? (c : Char) : Option Nat :=
  if '0' ≤ c && c ≤ '7' then some (c.toNat - 0x30) else none

/-- The escapes of one letter. -/
def simpleEscape? : Char → Option Char
  | '\\' => some '\\'
  | '\'' => some '\''
  | '"' => some '"'
  | 'a' => some '\x07'
  | 'b' => some '\x08'
  | 'f' => some '\x0c'
  | 'n' => some '\n'
  | 'r' => some '\r'
  | 't' => some '\t'
  | 'v' => some '\x0b'
  | _ => none

/-- Resolve escapes, or fail on one that is not complete or names no code point. -/
def unescapeFrom : EscapeState → List Char → Option (List Nat)
  | .plain, [] => some []
  | .octal _ value, [] => some [value]
  | _, [] => none
  | .plain, c :: cs =>
    if c = '\\' then unescapeFrom .started cs else (unescapeFrom .plain cs).map (c.toNat :: ·)
  | .started, c :: cs =>
    match simpleEscape? c, octalValue? c with
    | some d, _ => (unescapeFrom .plain cs).map (d.toNat :: ·)
    | none, some value => unescapeFrom (.octal 2 value) cs
    | none, none =>
      if c = '\n' then unescapeFrom .plain cs
      else if c = 'x' then unescapeFrom (.hex 2 0) cs
      else if c = 'u' then unescapeFrom (.hex 4 0) cs
      else if c = 'U' then unescapeFrom (.hex 8 0) cs
      else if c = 'N' then unescapeFrom .beforeName cs
      else (unescapeFrom .plain cs).map ('\\'.toNat :: c.toNat :: ·)
  | .octal left value, c :: cs =>
    match left, octalValue? c with
    | left + 1, some d => unescapeFrom (.octal left (8 * value + d)) cs
    | _, _ =>
      if c = '\\' then (unescapeFrom .started cs).map (value :: ·)
      else (unescapeFrom .plain cs).map (value :: c.toNat :: ·)
  | .hex left value, c :: cs =>
    match hexValue? c with
    | none => none
    | some d =>
      if left = 1 then
        if 16 * value + d ≤ 0x10FFFF then
          (unescapeFrom .plain cs).map ((16 * value + d) :: ·)
        else none
      else unescapeFrom (.hex (left - 1) (16 * value + d)) cs
  | .beforeName, c :: cs => if c = '\x7b' then unescapeFrom (.name []) cs else none
  | .name read, c :: cs =>
    if c = '\x7d' then
      match charNamed? read.reverse with
      | some n => (unescapeFrom .plain cs).map (n :: ·)
      | none => none
    else unescapeFrom (.name (c :: read)) cs

/-- The text that characters with escapes stand for. -/
def unescape? (cs : List Char) : Option Scalar :=
  (unescapeFrom .plain (cs.flatMap spellWide)).map Scalar.ofCodePoints

/-- The lexical form of a literal from what stands between its quotes. An escaped quote is resolved
first, and `\x` is no escape there. -/
def unescapeLexical? (cs : List Char) : Option Scalar :=
  unescape? (replaceAll ['\\', 'x'] ['\\', '\\', 'x'] (replaceAll ['\\', '"'] ['"'] cs))

end TripleIndex
