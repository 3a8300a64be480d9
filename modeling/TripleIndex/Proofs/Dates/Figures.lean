import Mathlib.Tactic.Ring
import TripleIndex.Proofs.Instants

/-!
Numbers of a fixed count of digits. A number is written with leading zeros and read back, whatever comes after it. Of
the digits of a fraction as many as are wanted are kept, and zeros stand for those that are not there.
-/

namespace TripleIndex

/-! ## Digits as characters -/

def figure (d : Fin 10) : Char := Nat.digitChar d

def figuresValue (ds : List (Fin 10)) : Nat := ofDigits (ds.map Fin.val)

variable {c : Char} {d : Fin 10} {ds es : List (Fin 10)} {count n : Nat}

theorem asciiDigit?_figure (d : Fin 10) : asciiDigit? (figure d) = some d.val := by
  decide +revert

theorem digit?_figure (d : Fin 10) : digit? (figure d) = some d.val := by
  decide +revert

theorem isDecimalDigit_figure (d : Fin 10) : isDecimalDigit (figure d) = true := by
  rw [isDecimalDigit, digit?_figure]
  rfl

theorem isDigit_figure (d : Fin 10) : (figure d).isDigit = true := by
  decide +revert

theorem figure_ne (h : c.isDigit = false) (d : Fin 10) : figure d ≠ c := by
  rintro rfl
  rw [isDigit_figure] at h
  cases h

theorem mapM_asciiDigit?_figure (ds : List (Fin 10)) : (ds.map figure).mapM asciiDigit? = some (ds.map Fin.val) := by
  induction ds with
  | nil => rfl
  | cons d ds ih => rw [List.map_cons, List.mapM_cons, asciiDigit?_figure, ih]; rfl

theorem mapM_digit?_figure (ds : List (Fin 10)) : (ds.map figure).mapM digit? = some (ds.map Fin.val) := by
  induction ds with
  | nil => rfl
  | cons d ds ih => rw [List.map_cons, List.mapM_cons, digit?_figure, ih]; rfl

theorem fixedDigits?_figures (ds : List (Fin 10)) (rest : List Char) :
    fixedDigits? ds.length (ds.map figure ++ rest) = some (figuresValue ds, rest) := by
  have htake : (ds.map figure ++ rest).take ds.length = ds.map figure := by
    rw [← List.length_map (f := figure), List.take_left]
  have hdrop : (ds.map figure ++ rest).drop ds.length = rest := by
    rw [← List.length_map (f := figure), List.drop_left]
  unfold fixedDigits?
  dsimp only
  rw [htake, hdrop, mapM_asciiDigit?_figure]
  exact if_pos (List.length_map ..)

theorem foldl_digits (ds : List Nat) (n : Nat) :
    ds.foldl (fun n d => 10 * n + d) n = n * 10 ^ ds.length + ofDigits ds := by
  induction ds generalizing n with
  | nil => simp [ofDigits]
  | cons d ds ih =>
    have hdigits : ofDigits (d :: ds) = d * 10 ^ ds.length + ofDigits ds := by
      rw [ofDigits, List.foldl_cons, ih, Nat.mul_zero, Nat.zero_add]
    rw [List.foldl_cons, ih, hdigits, List.length_cons]
    ring

theorem figuresValue_append (ds es : List (Fin 10)) :
    figuresValue (ds ++ es) = figuresValue ds * 10 ^ es.length + figuresValue es := by
  rw [figuresValue, List.map_append, ofDigits_append, foldl_digits, List.length_map]
  rfl

/-! ## Leading zeros -/

/-- The last digits of a number. -/
def figures : Nat → Nat → List (Fin 10)
  | 0, _ => []
  | count + 1, n => figures count (n / 10) ++ [Fin.ofNat 10 n]

/-- A number with leading zeros. -/
def padded (count n : Nat) : List Char := (figures count n).map figure

theorem length_figures (count n : Nat) : (figures count n).length = count := by
  induction count generalizing n with
  | zero => rfl
  | succ count ih => rw [figures, List.length_append, ih]; rfl

theorem length_padded (count n : Nat) : (padded count n).length = count :=
  (List.length_map ..).trans (length_figures count n)

theorem figuresValue_figures (h : n < 10 ^ count) : figuresValue (figures count n) = n := by
  induction count generalizing n with
  | zero =>
    obtain rfl : n = 0 := Nat.lt_one_iff.1 h
    rfl
  | succ count ih =>
    have hrest : n / 10 < 10 ^ count := Nat.div_lt_of_lt_mul (by rwa [Nat.pow_succ'] at h)
    have hlast : figuresValue [Fin.ofNat 10 n] = n % 10 := by simp [figuresValue, ofDigits]
    rw [figures, figuresValue_append, ih hrest, hlast]
    exact Nat.div_add_mod' n 10

theorem fixedDigits?_padded (h : n < 10 ^ count) (rest : List Char) :
    fixedDigits? count (padded count n ++ rest) = some (n, rest) := by
  have hread := fixedDigits?_figures (figures count n) rest
  rwa [length_figures, figuresValue_figures h] at hread

/-! ## Decimal places -/

/-- As many decimal places as are wanted, of which those that are not there are zero. -/
def decimalPlaces : Nat → List (Fin 10) → List (Fin 10)
  | 0, _ => []
  | count + 1, [] => 0 :: decimalPlaces count []
  | count + 1, d :: ds => d :: decimalPlaces count ds

theorem length_decimalPlaces (count : Nat) (ds : List (Fin 10)) : (decimalPlaces count ds).length = count := by
  induction count generalizing ds with
  | zero => rfl
  | succ count ih => cases ds <;> rw [decimalPlaces, List.length_cons, ih]

theorem take_append_replicate (count : Nat) (ds : List (Fin 10)) :
    (ds.map figure).take count ++ List.replicate (count - ds.length) '0' = (decimalPlaces count ds).map figure := by
  induction count generalizing ds with
  | zero => simp [decimalPlaces]
  | succ count ih =>
    cases ds with
    | nil =>
      have hzeros : List.replicate count '0' = (decimalPlaces count []).map figure := by
        simpa using ih []
      rw [decimalPlaces, List.map_cons, ← hzeros]
      rfl
    | cons d ds =>
      rw [decimalPlaces, List.map_cons, List.map_cons, List.take_succ_cons, List.length_cons, Nat.add_sub_add_right,
        List.cons_append, ih]

end TripleIndex
