import Mathlib.Order.Lattice
import TripleIndex.Field
import TripleIndex.Postings.Checked
import TripleIndex.Proofs.Outcome

/-!
The order in which a field keeps its values. The values of one type are ranked by places, a text by
its code points whether or not it holds surrogates, and comparison and equality of values are those of
their ranks. The one number that is no number has no rank.
-/

namespace TripleIndex

namespace Place

instance : IsStrictOrder Place (· < ·) where
  irrefl := lt_irrefl
  trans _ _ _ := lt_trans

instance : IsStrictTotalOrder Place (· < ·) where
  trichotomous _ _ := eq_of_not_lt

/-- Places are in one linear order. -/
instance : LinearOrder Place := linearOrderOfSTO (· < ·)

theorem codePoints_lt_codePoints (ms ns : List Nat) : codePoints ms < codePoints ns ↔ ms < ns := by
  simp [lt_def, rank, number, word, points]

end Place

namespace Scalar

/-- A value whose code points, if it has some, are those of a text that is no string. -/
def IsProper : Scalar → Prop
  | codePoints ns => ns.any isSurrogate = true
  | _ => True

/-- The place of a value in the order of its field. -/
def sortKey : Scalar → Place
  | text s => .codePoints (s.toList.map Char.toNat)
  | v => v.place

end Scalar

/-- The values of a type that have a place in its order. -/
inductive FieldType.Admits : FieldType → Scalar → Prop
  | text (s : String) : Admits .text (.text s)
  | codePoints {ns : List Nat} (h : ns.any isSurrogate = true) : Admits .text (.codePoints ns)
  | integer (n : Int) : Admits .integer (.int n)
  | double {x : Double} (h : x.isNan = false) : Admits .double (.float x)
  | boolean (b : Bool) : Admits .boolean (.bool b)

theorem map_toNat_lt_iff (cs ds : List Char) : cs.map Char.toNat < ds.map Char.toNat ↔ cs < ds := by
  induction cs generalizing ds with
  | nil => cases ds <;> simp
  | cons c cs ih =>
    cases ds with
    | nil => simp
    | cons d ds =>
      rw [List.map_cons, List.map_cons, List.cons_lt_cons_iff, List.cons_lt_cons_iff, ih]
      rw [Char.toNat_inj]
      rfl

theorem map_toNat_inj {cs ds : List Char} : cs.map Char.toNat = ds.map Char.toNat ↔ cs = ds :=
  List.map_inj_right fun _ _ => Char.toNat_inj.1

theorem map_toNat_ne {ns : List Nat} (h : ns.any isSurrogate = true) (cs : List Char) :
    cs.map Char.toNat ≠ ns := by
  rintro rfl
  simp [isSurrogate_toNat] at h

namespace Double

theorem lt_iff_place_lt {x y : Double} (hx : x.isNan = false) (hy : y.isNan = false) :
    x.lt y = true ↔ (Scalar.float x).place < (Scalar.float y).place := by
  cases x with
  | nan p => cases hx
  | infinite m =>
    cases y with
    | nan p => cases hy
    | infinite n => cases m <;> cases n <;> decide
    | finite n b => cases m <;> simp [lt, Scalar.place, Place.lt_def, Place.rank]
  | finite m a =>
    cases y with
    | nan p => cases hy
    | infinite n => cases n <;> simp [lt, Scalar.place, Place.lt_def, Place.rank]
    | finite n b => exact decide_eq_true_iff.trans (Place.finite_lt_finite ..).symm

theorem same_iff_place_eq {x y : Double} (hx : x.isNan = false) (hy : y.isNan = false) :
    x.same y = true ↔ (Scalar.float x).place = (Scalar.float y).place := by
  cases x <;> cases y <;> simp_all [same, isNan, Scalar.place]

end Double

namespace FieldType

theorem lt_iff {t : FieldType} {a b : Scalar} (ha : t.Admits a) (hb : t.Admits b) :
    a.lt b = true ↔ a.sortKey < b.sortKey := by
  cases ha with
  | text s =>
    cases hb with
    | text r =>
      refine Iff.trans ?_ (Place.codePoints_lt_codePoints ..).symm
      exact decide_eq_true_iff.trans (String.lt_iff.trans (map_toNat_lt_iff ..).symm)
    | codePoints h =>
      exact decide_eq_true_iff.trans (Place.codePoints_lt_codePoints ..).symm
  | codePoints h =>
    cases hb with
    | text r => exact decide_eq_true_iff.trans (Place.codePoints_lt_codePoints ..).symm
    | codePoints h' => exact decide_eq_true_iff.trans (Place.codePoints_lt_codePoints ..).symm
  | integer m =>
    cases hb
    exact decide_eq_true_iff.trans (Scalar.place_int_lt_iff ..).symm
  | double hx =>
    cases hb with
    | double hy => exact Double.lt_iff_place_lt hx hy
  | boolean c =>
    cases hb
    exact decide_eq_true_iff.trans (Scalar.place_int_lt_iff ..).symm

theorem same_iff {t : FieldType} {a b : Scalar} (ha : t.Admits a) (hb : t.Admits b) :
    a.same b = true ↔ a.sortKey = b.sortKey := by
  cases ha with
  | text s =>
    cases hb with
    | text r => simp [Scalar.same, Scalar.ordered?, Ordered.same, Scalar.sortKey, map_toNat_inj,
        String.toList_inj]
    | codePoints h =>
      simp [Scalar.same, Scalar.ordered?, Ordered.same, Scalar.sortKey, Scalar.place, map_toNat_ne h]
  | codePoints h =>
    cases hb with
    | text r =>
      simp [Scalar.same, Scalar.ordered?, Ordered.same, Scalar.sortKey, Scalar.place,
        (map_toNat_ne h r.toList).symm]
    | codePoints h' =>
      simp [Scalar.same, Scalar.ordered?, Ordered.same, Scalar.sortKey, Scalar.place]
  | integer m =>
    cases hb
    exact beq_iff_eq.trans Scalar.place_int_inj.symm
  | double hx =>
    cases hb with
    | double hy => exact Double.same_iff_place_eq hx hy
  | boolean c =>
    cases hb
    exact beq_iff_eq.trans Scalar.place_int_inj.symm

/-- A text is converted from its code points, if it is no string, or written out. -/
theorem convert_text_eq_ok {v w : Scalar} (h : text.convert v = .ok w) :
    (∃ ns, v = .codePoints ns ∧ w = .codePoints ns) ∨ ∃ s, v.written = .ok s ∧ w = .text s := by
  have hplain : v.written.map Scalar.text = .ok w → ∃ s, v.written = .ok s ∧ w = .text s := by
    intro h
    obtain ⟨s, hs, rfl⟩ := map_eq_ok.1 h
    exact ⟨s, hs, rfl⟩
  cases v with
  | codePoints ns =>
    cases h
    exact .inl ⟨ns, rfl, rfl⟩
  | _ => exact .inr (hplain h)

theorem isNan_of_convert {t : FieldType} {v w : Scalar} (h : t.convert v = .ok w)
    (ht : t ≠ .double) : w.isNan = false := by
  cases t with
  | double => exact absurd rfl ht
  | text => rcases convert_text_eq_ok h with ⟨ns, -, rfl⟩ | ⟨s, -, rfl⟩ <;> rfl
  | integer =>
    obtain ⟨n, -, rfl⟩ := map_eq_ok.1 h
    rfl
  | boolean =>
    obtain ⟨b, -, rfl⟩ := map_eq_ok.1 h
    rfl

/-- A converted value is one of the type, unless it is no number. -/
theorem admits_of_convert {t : FieldType} {v w : Scalar} (hv : v.IsProper)
    (h : t.convert v = .ok w) (hw : w.isNan = false) : t.Admits w := by
  cases t with
  | text =>
    rcases convert_text_eq_ok h with ⟨ns, rfl, rfl⟩ | ⟨s, -, rfl⟩
    · exact .codePoints hv
    · exact .text s
  | integer =>
    obtain ⟨n, -, rfl⟩ := map_eq_ok.1 h
    exact .integer n
  | double =>
    obtain ⟨x, -, rfl⟩ := map_eq_ok.1 h
    exact .double hw
  | boolean =>
    obtain ⟨b, -, rfl⟩ := map_eq_ok.1 h
    exact .boolean b

end FieldType

end TripleIndex
