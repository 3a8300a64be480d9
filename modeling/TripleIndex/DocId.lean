import TripleIndex.Scalar

/-!
Identifiers of documents. An identifier is any value that documents can be told apart by, and what tells
it apart is its place: numbers have the place of their size, whether they are integers, floating point
numbers or truth values, and every value that is no number has one of its own, known by its payload. The
places have one linear order: texts are in the order of their characters and numbers in that of their
size.
-/

namespace TripleIndex

abbrev DocId := Scalar

/-- What an identifier is told apart by. -/
inductive Place where
  | null
  | text (s : String)
  | codePoints (ns : List Nat)
  | finite (units : Int)
  | infinite (negative : Bool)
  | nan (payload : Nat)
  deriving DecidableEq, Repr, Inhabited

def Scalar.place : Scalar → Place
  | null => .null
  | text s => .text s
  | codePoints ns => .codePoints ns
  | int n => .finite (n * Double.unitsOfOne)
  | bool b => .finite (b.toInt * Double.unitsOfOne)
  | float (.finite negative units) => .finite (Double.signedUnits negative units)
  | float (.infinite negative) => .infinite negative
  | float (.nan payload) => .nan payload

namespace Place

/-- The kinds of places in their order. -/
def rank : Place → Nat
  | null => 0
  | text _ => 1
  | codePoints _ => 2
  | infinite true => 3
  | finite _ => 4
  | infinite false => 5
  | nan _ => 6

def number : Place → Int
  | finite units => units
  | nan payload => payload
  | _ => 0

def word : Place → String
  | text s => s
  | _ => ""

def points : Place → List Nat
  | codePoints ns => ns
  | _ => []

/-- A place is known by its kind, its number and its text. -/
theorem ext_of_parts {a b : Place} (hrank : a.rank = b.rank) (hnumber : a.number = b.number)
    (hword : a.word = b.word) (hpoints : a.points = b.points) : a = b := by
  cases a with
  | infinite m => cases m <;> cases b with
    | infinite n => cases n <;> simp_all [rank]
    | _ => simp [rank] at hrank
  | _ => cases b with
    | infinite n => cases n <;> simp [rank] at hrank
    | nan n => simp_all [rank, number, word, points, Int.natCast_inj]
    | _ => simp_all [rank, number, word, points]

instance : LT Place where
  lt a b := a.rank < b.rank ∨ a.rank = b.rank ∧ (a.number < b.number ∨ a.number = b.number ∧
    (a.word < b.word ∨ a.word = b.word ∧ a.points < b.points))

theorem lt_def (a b : Place) : a < b ↔ a.rank < b.rank ∨
    a.rank = b.rank ∧ (a.number < b.number ∨ a.number = b.number ∧
      (a.word < b.word ∨ a.word = b.word ∧ a.points < b.points)) := Iff.rfl

theorem finite_lt_finite (a b : Int) : finite a < finite b ↔ a < b := by
  simp [lt_def, rank, number, word, points]

theorem text_lt_text (s t : String) : text s < text t ↔ s < t := by
  simp [lt_def, rank, number, word, points]

instance (a b : Place) : Decidable (a < b) :=
  match a, b with
  | text s, text t => decidable_of_iff _ (text_lt_text s t).symm
  | a, b => decidable_of_iff _ (lt_def a b).symm

theorem lt_irrefl (a : Place) : ¬ a < a := by
  rw [lt_def]
  rintro (h | ⟨_, h | ⟨_, h | ⟨_, h⟩⟩⟩)
  · omega
  · omega
  · exact String.lt_irrefl _ h
  · exact List.lt_irrefl _ h

theorem lt_trans {a b c : Place} (hab : a < b) (hbc : b < c) : a < c := by
  rw [lt_def] at *
  rcases hab with hab | ⟨hab, hab' | ⟨hab', hword⟩⟩
  · rcases hbc with hbc | ⟨hbc, _⟩
    · exact .inl (by omega)
    · exact .inl (by omega)
  · rcases hbc with hbc | ⟨hbc, hbc' | ⟨hbc', _⟩⟩
    · exact .inl (by omega)
    · exact .inr ⟨by omega, .inl (by omega)⟩
    · exact .inr ⟨by omega, .inl (by omega)⟩
  · rcases hbc with hbc | ⟨hbc, hbc' | ⟨hbc', hword'⟩⟩
    · exact .inl (by omega)
    · exact .inr ⟨by omega, .inl (by omega)⟩
    · refine .inr ⟨by omega, .inr ⟨by omega, ?_⟩⟩
      rcases hword with hword | ⟨hword, hpoints⟩
      · rcases hword' with hword' | ⟨hword', _⟩
        · exact .inl (String.lt_trans hword hword')
        · exact .inl (hword' ▸ hword)
      · rcases hword' with hword' | ⟨hword', hpoints'⟩
        · exact .inl (hword ▸ hword')
        · exact .inr ⟨hword.trans hword', List.lt_trans hpoints hpoints'⟩

/-- Of two places one comes before the other, or they are the same. -/
theorem eq_of_not_lt {a b : Place} (hab : ¬ a < b) (hba : ¬ b < a) : a = b := by
  rw [lt_def] at hab hba
  have hrank : a.rank = b.rank := by
    rcases Nat.lt_trichotomy a.rank b.rank with h | h | h
    · exact absurd (.inl h) hab
    · exact h
    · exact absurd (.inl h) hba
  have hnumber : a.number = b.number := by
    rcases Int.lt_trichotomy a.number b.number with h | h | h
    · exact absurd (.inr ⟨hrank, .inl h⟩) hab
    · exact h
    · exact absurd (.inr ⟨hrank.symm, .inl h⟩) hba
  have hword : a.word = b.word := by
    refine String.le_antisymm ?_ ?_
    · exact String.not_lt.1 fun h => hba (.inr ⟨hrank.symm, .inr ⟨hnumber.symm, .inl h⟩⟩)
    · exact String.not_lt.1 fun h => hab (.inr ⟨hrank, .inr ⟨hnumber, .inl h⟩⟩)
  refine ext_of_parts hrank hnumber hword (List.le_antisymm ?_ ?_)
  · exact fun h => hba (.inr ⟨hrank.symm, .inr ⟨hnumber.symm, .inr ⟨hword.symm, h⟩⟩⟩)
  · exact fun h => hab (.inr ⟨hrank, .inr ⟨hnumber, .inr ⟨hword, h⟩⟩⟩)

end Place

namespace Scalar

/-- Whether the place of a value comes before that of another one. -/
def precedes : Scalar → Scalar → Bool
  | text s, text t => s < t
  | int m, int n => m < n
  | a, b => a.place < b.place

def sharesPlace : Scalar → Scalar → Bool
  | text s, text t => s == t
  | int m, int n => m == n
  | a, b => a.place == b.place

theorem place_int_lt_iff (m n : Int) : (int m).place < (int n).place ↔ m < n := by
  refine (Place.finite_lt_finite ..).trans ?_
  exact Int.mul_lt_mul_right (Int.natCast_pos.2 Double.unitsOfOne_pos)

theorem place_int_inj {m n : Int} : (int m).place = (int n).place ↔ m = n := by
  have hne := Int.ne_of_gt (Int.natCast_pos.2 Double.unitsOfOne_pos)
  constructor
  · exact fun h => (Int.mul_eq_mul_right_iff hne).1 (Place.finite.inj h)
  · rintro rfl
    rfl

/-- Texts have places of their own. -/
theorem place_text_inj {s t : String} : (text s).place = (text t).place ↔ s = t := by
  simp [place]

theorem precedes_iff (a b : Scalar) : a.precedes b = true ↔ a.place < b.place := by
  unfold precedes
  split
  · exact decide_eq_true_iff.trans (Place.text_lt_text ..).symm
  · exact decide_eq_true_iff.trans (place_int_lt_iff ..).symm
  · exact decide_eq_true_iff

theorem sharesPlace_iff (a b : Scalar) : a.sharesPlace b = true ↔ a.place = b.place := by
  unfold sharesPlace
  split
  · exact beq_iff_eq.trans place_text_inj.symm
  · exact beq_iff_eq.trans place_int_inj.symm
  · exact beq_iff_eq

end Scalar

end TripleIndex
