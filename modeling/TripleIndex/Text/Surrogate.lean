/-!
Surrogates. They are code points without characters, so a text that holds some of them is a list of code
points and no string. Where such a text is exchanged in units of sixteen bits, a high surrogate with a
low one after it stands for a character above U+FFFF. Where only characters can stand, the replacement
character stands for each surrogate, and the code points that it stands for can be put back.
-/

namespace TripleIndex

def isHighSurrogate (n : Nat) : Bool := 0xD800 ≤ n && n ≤ 0xDBFF

def isLowSurrogate (n : Nat) : Bool := 0xDC00 ≤ n && n ≤ 0xDFFF

def isSurrogate (n : Nat) : Bool := isHighSurrogate n || isLowSurrogate n

/-- The code point of a pair. -/
def ofPair (high low : Nat) : Nat := 0x10000 + 0x400 * (high - 0xD800) + (low - 0xDC00)

/-- Code points with one in the place of each pair. -/
def joinPairs : List Nat → List Nat
  | [] => []
  | [n] => [n]
  | m :: n :: ns =>
    if isHighSurrogate m && isLowSurrogate n then ofPair m n :: joinPairs ns
    else m :: joinPairs (n :: ns)

def replacement : Char := '\uFFFD'

/-- The character of a code point, or the one that stands for a surrogate. -/
def standIn (n : Nat) : Char := if isSurrogate n then replacement else Char.ofNat n

/-- The code points that replacement characters stand for, among them those characters themselves. -/
def replaced (ns : List Nat) : List Nat := ns.filter fun n => isSurrogate n || n == replacement.toNat

/-- Code points from characters, given those that the replacement characters stand for. -/
def restore : List Nat → List Char → List Nat
  | _, [] => []
  | [], c :: cs => c.toNat :: restore [] cs
  | n :: ns, c :: cs => if c = replacement then n :: restore ns cs else c.toNat :: restore (n :: ns) cs

/-- A run of surrogates: where the first one stands, which it is, and how many there are. -/
structure SurrogateRun where
  start : Nat
  first : Nat
  length : Nat
  deriving DecidableEq, Repr

def firstRun (ns : List Nat) : SurrogateRun :=
  let rest := ns.dropWhile fun n => !isSurrogate n
  ⟨ns.length - rest.length, rest.headD 0, (rest.takeWhile isSurrogate).length⟩

theorem isSurrogate_toNat (c : Char) : isSurrogate c.toNat = false := by
  have valid : c.toNat.isValidChar := c.valid
  simp only [Nat.isValidChar] at valid
  simp only [isSurrogate, isHighSurrogate, isLowSurrogate, Bool.or_eq_false_iff, Bool.and_eq_false_iff,
    decide_eq_false_iff_not]
  omega

theorem isHighSurrogate_toNat (c : Char) : isHighSurrogate c.toNat = false :=
  (Bool.or_eq_false_iff.1 (isSurrogate_toNat c)).1

theorem standIn_toNat (c : Char) : standIn c.toNat = c := by simp [standIn, isSurrogate_toNat]

/-- The code points of characters hold no pair. -/
theorem joinPairs_map_toNat (cs : List Char) : joinPairs (cs.map Char.toNat) = cs.map Char.toNat := by
  induction cs with
  | nil => rfl
  | cons c cs ih =>
    cases cs with
    | nil => rfl
    | cons d ds => simpa [joinPairs, isHighSurrogate_toNat] using ih

/-- Characters hide nothing of a text of code points, once it is known what was replaced. -/
theorem restore_replaced {ns : List Nat} (h : ∀ n ∈ ns, isSurrogate n = true ∨ n.isValidChar) :
    restore (replaced ns) (ns.map standIn) = ns := by
  induction ns with
  | nil => rfl
  | cons n ns ih =>
    have ih := ih fun m hm => h m (List.mem_cons_of_mem n hm)
    by_cases hs : isSurrogate n = true
    · simp only [replaced, List.filter_cons, hs, Bool.true_or, if_true, List.map_cons, restore, standIn]
      exact congrArg _ ih
    · have hv : n.isValidChar := (h n List.mem_cons_self).resolve_left hs
      have hn : (Char.ofNat n).toNat = n := by
        rw [Char.ofNat, dif_pos hv]
        rfl
      have hs : isSurrogate n = false := by simpa using hs
      by_cases hr : n = replacement.toNat
      · have hc : Char.ofNat n = replacement := by rw [hr, Char.ofNat_toNat]
        have hb : (n == replacement.toNat) = true := by simp [hr]
        simp only [replaced, List.filter_cons, hs, hb, Bool.or_true, if_true, List.map_cons, restore,
          standIn, hc]
        exact congrArg _ ih
      · have hc : Char.ofNat n ≠ replacement := fun hc => hr (by rw [← hc, hn])
        have hb : (n == replacement.toNat) = false := by simp [hr]
        have hfilter : replaced (n :: ns) = replaced ns := by simp [replaced, hs, hb]
        have hstep : restore (replaced ns) (Char.ofNat n :: ns.map standIn)
            = (Char.ofNat n).toNat :: restore (replaced ns) (ns.map standIn) := by
          cases replaced ns with
          | nil => rfl
          | cons m ms => rw [restore, if_neg hc]
        rw [hfilter, List.map_cons, standIn, hs, if_neg (by decide), hstep, ih, hn]

end TripleIndex
