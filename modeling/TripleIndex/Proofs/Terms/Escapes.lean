import Mathlib.Algebra.Group.Nat.Defs
import Mathlib.Data.List.Infix
import TripleIndex.Term.Escape
import TripleIndex.Term.Form

/-!
What escapes are decoded to. In the text between the quotes of a form a backslash is written with two
backslashes, and the readers of forms may leave one of them or add another. Every piece of the text that
stands for a character is decoded to it, except after an odd number of backslashes, where the text that
is read has fewer characters than the one that was written.
-/

namespace TripleIndex

/-- Characters of any code points as escapes are spelled in them. -/
def widened (cs : List Char) : List Char := cs.flatMap spellWide

/-- A piece of text is decoded to code points, whatever comes after it. -/
def Decodes (piece : List Char) (ns : List Nat) : Prop :=
  ∀ rest, unescapeFrom .plain (piece ++ rest) = (unescapeFrom .plain rest).map (ns ++ ·)

theorem Decodes.append {piece piece' : List Char} {ns ns' : List Nat} (h : Decodes piece ns)
    (h' : Decodes piece' ns') : Decodes (piece ++ piece') (ns ++ ns') := by
  intro rest
  rw [List.append_assoc, h, h', Option.map_map]
  simp only [Function.comp_def, List.append_assoc]

theorem Decodes.decode {piece : List Char} {ns : List Nat} (h : Decodes piece ns) :
    unescapeFrom .plain piece = some ns := by
  have := h []
  rw [List.append_nil] at this
  rw [this]
  simp [unescapeFrom]

/-! ## Hexadecimal digits -/

theorem hexValue?_hexDigit {n : Nat} (h : n < 16) : hexValue? (hexDigit n) = some n := by
  have hall : ∀ n : Fin 16, hexValue? (hexDigit n) = some n.val := by decide
  exact hall ⟨n, h⟩

/-- All digits but the last one are gathered. -/
theorem unescapeFrom_hexText (width left value n : Nat) (rest : List Char) :
    unescapeFrom (.hex (left + 1 + width) value) (hexText width n ++ rest) =
      unescapeFrom (.hex (left + 1) (16 ^ width * value + n % 16 ^ width)) rest := by
  -- digits are read from the front and divided off at the end, so the last one is taken off here
  induction width generalizing left n rest with
  | zero => simp [hexText, Nat.mod_one]
  | succ width ih =>
    have hdigit : hexValue? (hexDigit (n % 16)) = some (n % 16) := hexValue?_hexDigit (by omega)
    have hvalue : 16 * (16 ^ width * value + n / 16 % 16 ^ width) + n % 16 =
        16 ^ (width + 1) * value + n % 16 ^ (width + 1) := by
      rw [Nat.pow_succ', Nat.mod_mul, Nat.mul_add, Nat.mul_assoc]
      omega
    have hleft : left + 1 + (width + 1) = left + 1 + 1 + width := by omega
    rw [hexText, List.append_assoc, hleft, ih, List.singleton_append, unescapeFrom, hdigit]
    simp [hvalue]

theorem unescapeFrom_hexText_all {width n : Nat} (hn : n < 16 ^ (width + 1)) (hpoint : n ≤ 0x10FFFF)
    (rest : List Char) : unescapeFrom (.hex (width + 1) 0) (hexText (width + 1) n ++ rest) =
      (unescapeFrom .plain rest).map (n :: ·) := by
  have hdigit : hexValue? (hexDigit (n % 16)) = some (n % 16) := hexValue?_hexDigit (by omega)
  have hlow : n / 16 % 16 ^ width = n / 16 := by
    refine Nat.mod_eq_of_lt ?_
    rw [Nat.pow_succ] at hn
    exact Nat.div_lt_of_lt_mul (by rwa [Nat.mul_comm])
  have hvalue : 16 * (n / 16) + n % 16 = n := Nat.div_add_mod n 16
  have hgathered := unescapeFrom_hexText width 0 0 (n / 16) (hexDigit (n % 16) :: rest)
  rw [Nat.mul_zero, Nat.zero_add, Nat.zero_add, hlow, Nat.add_comm 1 width] at hgathered
  rw [hexText, List.append_assoc, List.singleton_append, hgathered, unescapeFrom, hdigit]
  simp [hvalue, hpoint]

/-! ## Pieces -/

theorem spellWide_of_le {c : Char} (h : c.toNat ≤ 0xFF) : spellWide c = [c] := if_pos h

theorem decodes_spellWide {c : Char} (h : c ≠ '\\') : Decodes (spellWide c) [c.toNat] := by
  intro rest
  have hpoint : c.toNat ≤ 0x10FFFF := by
    have valid : c.toNat.isValidChar := c.valid
    simp only [Nat.isValidChar] at valid
    omega
  unfold spellWide
  split
  · rw [List.singleton_append, unescapeFrom, if_neg h]
    rfl
  · split
    · rw [List.cons_append, List.cons_append, unescapeFrom, if_pos rfl, unescapeFrom]
      exact unescapeFrom_hexText_all (by omega) hpoint rest
    · rw [List.cons_append, List.cons_append, unescapeFrom, if_pos rfl, unescapeFrom]
      exact unescapeFrom_hexText_all (by omega) hpoint rest

theorem decodes_backslashes : Decodes (widened ['\\', '\\']) ['\\'.toNat] := fun _ => rfl

theorem decodes_return : Decodes (widened ['\\', 'r']) ['\r'.toNat] := fun _ => rfl

theorem decodes_quote : Decodes (widened ['\\', '"']) ['"'.toNat] := fun _ => rfl

end TripleIndex
