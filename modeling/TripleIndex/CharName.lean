import TripleIndex.CharName.Alias
import TripleIndex.CharName.Alphabet
import TripleIndex.CharName.EastAsian
import TripleIndex.CharName.Hangul
import TripleIndex.CharName.Historic
import TripleIndex.CharName.Mathematical
import TripleIndex.CharName.Numbered
import TripleIndex.CharName.Picture
import TripleIndex.CharName.Symbol

/-!
Characters by their names in Unicode 14. Small and capital ASCII letters are alike in a name, except
in those of Hangul syllables and unified ideographs, which are known in capitals only.
-/

namespace TripleIndex

/-- The names that are written out. A table is read from its runs once, whatever is asked of it. -/
def nameTables : List NameTable :=
  [alphabetNames, symbolNames, eastAsianNames, historicNames, mathematicalNames,
    pictureNames].flatMap fun runs => runs.map NameRun.table

/-- The code point of a name that stands in the tables. -/
def listed? (name : List Char) : Option Nat :=
  nameTables.findSome? (·.find? (' ' :: name))

def charNamed? (name : List Char) : Option Nat :=
  let capitals := name.map Char.toUpper
  hangulSyllable? name <|> ideograph? name <|> numberedNames.findSome? (·.find? capitals) <|>
    aliased? capitals <|> listed? capitals

end TripleIndex
