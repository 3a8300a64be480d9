import TripleIndex.Text.Replace

/-!
Hangul syllables. A syllable has a leading consonant, a vowel and a trailing consonant, the
consonants possibly silent, and its name puts the names of the three together. Each part is the
longest that the rest of the name begins with.
-/

namespace TripleIndex

def leadingConsonants : List String := [
  "G", "GG", "N", "D", "DD", "R", "M", "B", "BB", "S", "SS", "", "J", "JJ", "C", "K", "T", "P", "H"]

def syllableVowels : List String := [
  "A", "AE", "YA", "YAE", "EO", "E", "YEO", "YE", "O", "WA", "WAE", "OE", "YO", "U", "WEO", "WE",
  "WI", "YU", "EU", "YI", "I"]

def trailingConsonants : List String := [
  "", "G", "GG", "GS", "N", "NJ", "NH", "D", "L", "LG", "LM", "LB", "LS", "LT", "LP", "LH", "M",
  "B", "BS", "S", "SS", "NG", "J", "C", "K", "T", "P", "H"]

/-- The place of the longest part that the text begins with, and what follows it. -/
def longestPart? (parts : List String) (cs : List Char) : Option (Nat × List Char) :=
  let fitting := parts.zipIdx.filter fun (part, _) => part.toList.isPrefixOf cs
  fitting.foldl (fun best (part, i) =>
    let rest := cs.drop part.length
    match best with
    | some (_, shortest) => if rest.length < shortest.length then some (i, rest) else best
    | none => some (i, rest)) none

/-- The code point of a syllable. The syllables are listed by their parts, the trailing consonant
changing fastest. -/
def hangulSyllable? (name : List Char) : Option Nat := do
  let cs ← afterLead? "HANGUL SYLLABLE ".toList name
  let (leading, cs) ← longestPart? leadingConsonants cs
  let (vowel, cs) ← longestPart? syllableVowels cs
  let (trailing, cs) ← longestPart? trailingConsonants cs
  guard cs.isEmpty
  return 0xAC00 + (leading * syllableVowels.length + vowel) * trailingConsonants.length + trailing

end TripleIndex
