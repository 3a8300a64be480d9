/-!
White space: the characters that Unicode gives the property `White_Space`, together with the four
information separators that precede the space in ASCII. Trimming removes them at both ends. Around a
number the information separators are no white space.
-/

namespace TripleIndex

def isSeparator (c : Char) : Bool := 28 ≤ c.toNat && c.toNat ≤ 31

def isBlankAroundNumber (c : Char) : Bool :=
  let n := c.toNat
  9 ≤ n && n ≤ 13 || n == 32 || n == 0x85 || n == 0xA0 || n == 0x1680 ||
    0x2000 ≤ n && n ≤ 0x200A || n == 0x2028 || n == 0x2029 || n == 0x202F || n == 0x205F ||
    n == 0x3000

def isBlank (c : Char) : Bool := isBlankAroundNumber c || isSeparator c

/-- Remove what is blank at the end. -/
def trimEndWhere (blank : Char → Bool) (cs : List Char) : List Char :=
  cs.foldr (fun c rest => if rest.isEmpty && blank c then [] else c :: rest) []

/-- Remove what is blank at both ends. -/
def trimWhere (blank : Char → Bool) (cs : List Char) : List Char :=
  trimEndWhere blank (cs.dropWhile blank)

def trim (cs : List Char) : List Char := trimWhere isBlank cs

/-- Remove the white space around a number. -/
def trimNumber (cs : List Char) : List Char := trimWhere isBlankAroundNumber cs

theorem trimEndWhere_append {blank : Char → Bool} (cs : List Char) {c : Char} (h : blank c = false) :
    trimEndWhere blank (cs ++ [c]) = cs ++ [c] := by
  induction cs with
  | nil => simp [trimEndWhere, h]
  | cons d cs ih =>
    rw [trimEndWhere] at ih ⊢
    simp only [List.cons_append, List.foldr_cons, ih]
    simp

theorem trim_cons_append {cs : List Char} {b c : Char} (hb : isBlank b = false)
    (hc : isBlank c = false) : trim (b :: cs ++ [c]) = b :: cs ++ [c] := by
  rw [trim, trimWhere, List.cons_append, List.dropWhile_cons_of_neg (by simp [hb])]
  exact trimEndWhere_append (b :: cs) hc

/-- Lower case of the letters of ASCII; every other character stays. -/
def lowerAscii (cs : List Char) : List Char := cs.map Char.toLower

end TripleIndex
