/-!
The words that names of characters are abbreviated with. Each is written as two small letters, from
`aa` to `pj` in the order of the list.
-/

namespace TripleIndex

def commonWords : Array String :=
  ["ABBREVIATION ABKHASIAN ABOVE ACCENT ACUTE ALEF ALEPH ALMOST ALPAPRAANA ALPHA ALTERNATE",
    "ALTERNATING AMPERSAND AND ANGLE ANTICLOCKWISE ANUSVARA APOSTROPHE ARABIC ARABIC-INDIC",
    "ARCHAIC ARCHAION ARROW ARROWHEAD ARROWS ASH ASTERISK AVAGRAHA BAR BARB BELOW BENT BETWEEN",
    "BHA BLACK BLOCK BOLD BOTTOM BRACKET BREVE BULLET C-SIMPLIFIED CANDRA CANDRABINDU CAPITAL",
    "CARON CARRIER CEDILLA CENTRE CHA CHARACTER CHARACTERS CHESS CIRCLE CIRCLED CIRCLES",
    "CIRCUMFLEX CLOCKWISE CLOSED COLON COMBINING COMMA COMPRESSED CONJOINED CONSONANT CONTAINING",
    "COPTIC CORNER CRESCENTS CROSS CROSSED CROSSED-TAIL CROSSING CRYPTOGRAMMIC CURL CURLY CURVE",
    "CYRILLIC DAGESH DANDA DASH DASHED DASIA DDA DDHA DEGREES DELTA DESCENDER DHA DIAERESIS",
    "DIAGONAL DIALECT-P DIALYTIKA DIAMOND DIAMONDS DIFFERENTIAL DIGIT DIGRAPH DISH DOT DOTLESS",
    "DOTS DOTTED DOUBLE DOUBLE-STRUCK DOWN DOWN-POINTING DOWNWARDS EAST EIGHT EIGHTEEN EIGHTH",
    "EIGHTHS EIGHTY ENVELOPE EPSILON EQUAL EQUALS EQUILATERAL EQUIVALENT EXCLAMATION EXTENSION",
    "EYES FACE FIFTEEN FIFTY FINAL FINGERS FIVE FOR FORM FORTY FORWARD FOUR FRACTION FROM FULL",
    "GAMMA GHA GHAIN GIMEL GLOTTAL GRAVE GREATER-THAN GREEK GUNU HAH HALF HAMZA HAND HARPOON",
    "HEART HEARTS HEAVY HIGH HINGED HITTING HOOK HORIZONTAL HORN HUNDRED IDEOGRAPHIC INDEPENDENT",
    "INDEX INDICATOR INITIAL INSIDE INSULAR INTEGRAL INTERSECTION INVERTED IOTA IOTIFIED ISOLATED",
    "ITERATION JEEM JHA KAPPA KHA KHAH KLYUCHEVAYA KNIGHT KRYZHEM LAM LAMEDH LARGE LATIN LEAF",
    "LEFT LEFT-POINTING LEFT-STEM LEFTWARDS LENGTH LENTICULAR LESS-THAN LETTER LIGATURE LIGHT",
    "LINE LITTLE LOGICAL LONG LOW LOWER LOZENGE MACRON MAHAAPRAANA MAHAPRANA MAKSURA MARK",
    "MATHEMATICAL MEDIAL MEDIUM MEEM MIDDLE MINUS MODIFIER MOON MOUTH MOVEMENT-WALLPLANE MULTIPLE",
    "MULTIPLICATION MUSICAL NEGATIVE NEPOSTOYANNAYA NEUTRAL NGA NINE NINETY NNA NOON NORTH NOT",
    "NOTEHEAD NUKTA NUMBER NUN NYA OBLIQUE OGONEK OLD OMEGA OMICRON ONE OPEN OPERATOR ORKHON",
    "ORNAMENT OVER OVERBAR OVERLAY OXIA PALATAL PARENTHESIS PERISPOMENI PERSON PHA PINWHEEL PLUS",
    "POINTED POINTING POVYSHE PRECEDES PRODUCT PROSGEGRAMMENI PSILI PUNCTUATION QUADRANT",
    "QUADRUPLE QUARTER QUARTERS QUEEN QUESTION QUOTATION RAISED RETROFLEX REVERSE REVERSED RIGHT",
    "RIGHT-POINTING RIGHTWARDS RING RISING ROTATED ROTATION-FLOORPLANE SALTIRE SAMEKH SANS-SERIF",
    "SCRIPT SECTION SEEN SEMICOLON SEPARATOR SEVEN SEVENTEEN SEVENTY SHA SHADOWED SHAFT SHEEN",
    "SHELL SHIN SHORT SIDE SIDEWAYS SIGMA SIGN SIMALUNGUN SINGLE SIX SIXTEEN SIXTY SLANTED SLASH",
    "SMALL SMILING SOLIDUS SOUND SOUTH SPACE SPADES SPOKED SPREAD SQUARE SQUARED SSA STAR STOP",
    "STRAIGHT STROKE SUBSET SUBSTITUTION SUCCEEDS SUPERSCRIPT SUPERSET SVARITA SYLLABLE SYMBOL",
    "TACK TAIL TEARDROP-SPOKED TEDUNG TELEPHONE TEN TENU THA THE THETA THIRTY THOUSAND THOUSANDS",
    "THREE THROUGH THUMB TILDE TIMES TONE TONOS TOP TORTOISE TRIANGLE TRIANGLE-HEADED TRIANGULAR",
    "TRIPLE TTA TTHA TURNED TURNSTILE TWELFTHS TWELVE TWENTY TWO TWO-HEADED UNDERBAR UNION",
    "UP-POINTING UPPER UPSILON UPWARDS VARIA VARIANT VERTICAL VERTICALLY VERY VIRAMA VISARGA",
    "VOCALIC VOWEL WAVE WAW WEST WEST-CREE WHITE WITH Y-CREE YEH YENISEI YPOGEGRAMMENI ZAPYATAYA",
    "ZERO"].flatMap (·.splitOn " ") |>.toArray

/-- The word that two small letters stand for. -/
def abbreviated (a b : Char) : String :=
  commonWords.getD (26 * (a.toNat - 'a'.toNat) + (b.toNat - 'a'.toNat)) ""

end TripleIndex
