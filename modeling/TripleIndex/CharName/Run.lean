import TripleIndex.CharName.Word

/-!
Runs of names. Characters with neighbouring code points mostly have names that begin with the same
words, so a run is written as a list of entries, one for each code point from its first, each
saying how many words of the name before it are taken over and how the name goes on. An entry that
adds nothing stands for a code point without a name.

A name is held with a space in front. So each of its words starts at a space or a hyphen, and no
name is empty.
-/

namespace TripleIndex

/-- The words taken over by an entry, from the mark that opens it. -/
def kept? (c : Char) : Option Nat :=
  if ':' ≤ c && c ≤ '@' then some (c.toNat - ':'.toNat) else none

/-- Text cut at the marks: what stands before the first one, and the entries they open. -/
def cutAtMarks : List Char → List Char × List (Nat × List Char)
  | [] => ([], [])
  | c :: cs =>
    match kept? c with
    | some k => ([], (k, (cutAtMarks cs).1) :: (cutAtMarks cs).2)
    | none => (c :: (cutAtMarks cs).1, (cutAtMarks cs).2)

def leadingWords : Nat → List Char → List Char
  | _, [] => []
  | 0, c :: cs => if c = ' ' || c = '-' then [] else c :: leadingWords 0 cs
  | k + 1, c :: cs => c :: leadingWords (if c = ' ' || c = '-' then k else k + 1) cs

/-- What an entry adds to a name. Two small letters abbreviate a word, with the space before it,
and after one of those, as at the start, the space before a word that is spelled out is left out
too. -/
def spelledOut : Bool → List Char → List Char
  | _, [] => []
  | fresh, [c] => if fresh && c.isAlphanum then [' ', c] else [c]
  | fresh, c :: d :: cs =>
    if c.isLower then ' ' :: (abbreviated c d).toList ++ spelledOut true cs
    else if fresh && c.isAlphanum then ' ' :: c :: spelledOut false (d :: cs)
    else c :: spelledOut false (d :: cs)

/-- Names in the order of their code points, empty where there is none. -/
def namesAfter (name : List Char) : List (Nat × List Char) → List (List Char)
  | [] => []
  | (_, []) :: entries => [] :: namesAfter name entries
  | (k, added) :: entries =>
    let next := leadingWords k name ++ spelledOut true added
    next :: namesAfter next entries

/-- Names of neighbouring code points from `first` on, empty where there is none. -/
structure NameTable where
  first : Nat
  names : List (List Char)
  deriving Repr

namespace NameTable

def find? (t : NameTable) (name : List Char) : Option Nat :=
  (t.names.idxOf? name).map (t.first + ·)

/-- A name that is found is the one at its code point. -/
theorem getElem?_of_find? {t : NameTable} {name : List Char} {n : Nat}
    (h : t.find? name = some n) : t.names[n - t.first]? = some name := by
  obtain ⟨i, hi, rfl⟩ := Option.map_eq_some_iff.1 h
  obtain ⟨hlt, heq, -⟩ := List.idxOf?_eq_some_iff.1 hi
  simp [heq, hlt]

end NameTable

/-- Characters from the code point `first` on, with the lines of the written form of their names. -/
structure NameRun where
  first : Nat
  lines : List String
  deriving Repr

def NameRun.table (r : NameRun) : NameTable :=
  ⟨r.first, namesAfter [] (cutAtMarks (r.lines.flatMap String.toList)).2⟩

end TripleIndex
