import TripleIndex.Proofs.Numbers.Digits
import TripleIndex.Proofs.Numbers.Shortest

/-!
The shortest text of a number is read as the number. Each of the three layouts writes the significant
digits at their places, so that what is read is a decimal that holds in the neighbourhood of the magnitude.
-/

namespace TripleIndex

namespace Double

variable {cs whole fraction tail digits : List Char} {leading : Int}

/-! ## Decimals -/

/-- The point and the digits after it, if there are any. -/
def pointed (fraction : List Char) : List Char := if fraction.isEmpty then [] else '.' :: fraction

theorem readMagnitude?_eq (negative : Bool) {e : Int} (hwhole : ∀ c ∈ whole, c.isDigit = true)
    (hsome : whole ≠ []) (hfraction : ∀ c ∈ fraction, c.isDigit = true) (htail : EndsDigits tail)
    (hpoint : tail.head? ≠ some '.') (he : readExponent? tail = some e) :
    readMagnitude? negative (whole ++ pointed fraction ++ tail) =
      some (ofDecimal negative (ofDigits (digitValues (whole ++ fraction)))
        (Nat.toDigits 10 (ofDigits (digitValues (whole ++ fraction)))).length (e - fraction.length)) := by
  have hlength : (digitValues fraction).length = fraction.length := List.length_map _
  have hdigits : (digitValues (whole ++ fraction)).isEmpty = false := by
    rw [isEmpty_digitValues, List.isEmpty_eq_false_iff]
    exact List.append_ne_nil_of_left_ne_nil hsome fraction
  have hread : digitRun false (whole ++ pointed fraction ++ tail) = (digitValues whole, pointed fraction ++ tail) ∧
      readFraction (pointed fraction ++ tail) = (digitValues fraction, tail) := by
    rw [List.append_assoc]
    cases fraction with
    | nil =>
      refine ⟨digitRun_append hwhole htail false, ?_⟩
      show readFraction tail = ([], tail)
      unfold readFraction
      split
      · exact absurd rfl hpoint
      · rfl
    | cons c fraction =>
      refine ⟨digitRun_append hwhole (endsDigits_cons (by decide) (by decide)) false, ?_⟩
      exact digitRun_append hfraction htail false
  unfold readMagnitude?
  rw [hread.1]
  dsimp only
  rw [hread.2]
  dsimp only
  rw [← digitValues_append, hdigits, he, hlength]
  rfl

/-! ## The three layouts -/

theorem ofDigits_append_zeros (cs : List Char) (zeros : Nat) :
    ofDigits (digitValues (cs ++ List.replicate zeros '0')) = ofDigits (digitValues cs) * 10 ^ zeros := by
  rw [ofDigits_digitValues, ofDigits_digitValues, Nat.ofDigitChars_append, Nat.ofDigitChars_replicate_zero,
    Nat.mul_comm]

theorem ofDigits_zeros_append (zeros : Nat) (cs : List Char) :
    ofDigits (digitValues (List.replicate zeros '0' ++ cs)) = ofDigits (digitValues cs) := by
  rw [ofDigits_digitValues, ofDigits_digitValues, Nat.ofDigitChars_append, Nat.ofDigitChars_replicate_zero,
    Nat.mul_zero]

theorem isDigit_zeros {zeros : Nat} {c : Char} (h : c ∈ List.replicate zeros '0') : c.isDigit = true := by
  rw [List.eq_of_mem_replicate h]
  decide

theorem isDigit_zero : ∀ c ∈ ['0'], c.isDigit = true := List.all_eq_true.1 rfl

def exponentText (leading : Int) : List Char :=
  'e' :: (if leading < 0 then '-' else '+') :: padLeft layout.exponentDigits (Nat.toDigits 10 leading.natAbs)

theorem isDigit_padLeft {width n : Nat} {c : Char} (h : c ∈ padLeft width (Nat.toDigits 10 n)) :
    c.isDigit = true := by
  rcases List.mem_append.1 h with hzero | hdigit
  · exact isDigit_zeros hzero
  · exact isDigit_toDigits hdigit

theorem readExponent?_exponentText (leading : Int) : readExponent? (exponentText leading) = some leading := by
  have hdigits : ∀ c ∈ padLeft layout.exponentDigits (Nat.toDigits 10 leading.natAbs), c.isDigit = true :=
    fun c => isDigit_padLeft
  have hvalue : ofDigits (digitValues (padLeft layout.exponentDigits (Nat.toDigits 10 leading.natAbs))) =
      leading.natAbs := by
    rw [padLeft, ofDigits_zeros_append, ofDigits_toDigits]
  have hsome : (digitValues (padLeft layout.exponentDigits (Nat.toDigits 10 leading.natAbs))).isEmpty = false := by
    rw [isEmpty_digitValues, List.isEmpty_eq_false_iff]
    exact List.append_ne_nil_of_right_ne_nil _ Nat.toDigits_ne_nil
  have hsign : readSign ((if leading < 0 then '-' else '+') ::
      padLeft layout.exponentDigits (Nat.toDigits 10 leading.natAbs)) =
      (decide (leading < 0), padLeft layout.exponentDigits (Nat.toDigits 10 leading.natAbs)) := by
    by_cases hneg : leading < 0
    · rw [if_pos hneg, decide_eq_true hneg]
      rfl
    · rw [if_neg hneg, decide_eq_false hneg]
      rfl
  rw [exponentText, readExponent?, if_pos (by decide), hsign]
  simp only [digitRun_all hdigits, hsome, hvalue, List.isEmpty_nil, Bool.not_true, Bool.or_self,
    Bool.false_eq_true, decide_eq_true_eq, if_false]
  congr 1
  split <;> omega

theorem endsDigits_exponentText (leading : Int) : EndsDigits (exponentText leading) :=
  endsDigits_cons (by decide) (by decide)

/-- What a layout makes of significant digits, the first of which stands at the place `leading`: digits with
a point among them and an exponent, perhaps with more zeros. -/
inductive Lays (digits : List Char) (leading : Int) : List Char → Prop
  | intro (zeros : Nat) {whole fraction tail : List Char} {e : Int} (hwhole : ∀ c ∈ whole, c.isDigit = true)
      (hsome : whole ≠ []) (hfraction : ∀ c ∈ fraction, c.isDigit = true)
      (htail : tail = [] ∧ e = 0 ∨ tail = exponentText leading ∧ e = leading)
      (hvalue : ofDigits (digitValues (whole ++ fraction)) = ofDigits (digitValues digits) * 10 ^ zeros)
      (hplace : e - fraction.length = leading + 1 - digits.length - zeros) :
      Lays digits leading (whole ++ pointed fraction ++ tail)

theorem lays_scientific {d : Char} {rest : List Char} (hdigits : ∀ c ∈ d :: rest, c.isDigit = true) :
    Lays (d :: rest) leading ([d] ++ pointed rest ++ exponentText leading) := by
  refine .intro 0 (fun c hc => ?_) (List.cons_ne_nil d []) (fun c hc => ?_)
    (.inr ⟨rfl, rfl⟩) ?_ ?_
  · exact hdigits c (List.mem_singleton.1 hc ▸ List.mem_cons_self)
  · exact hdigits c (List.mem_cons_of_mem d hc)
  · rw [Nat.pow_zero, Nat.mul_one]
    rfl
  · rw [List.length_cons]
    omega

theorem lays_small (hdigits : ∀ c ∈ digits, c.isDigit = true) (hsome : digits ≠ []) (hneg : leading < 0) :
    Lays digits leading ('0' :: '.' :: List.replicate (leading.natAbs - 1) '0' ++ digits) := by
  have hfraction : pointed (List.replicate (leading.natAbs - 1) '0' ++ digits) =
      '.' :: (List.replicate (leading.natAbs - 1) '0' ++ digits) := by
    rw [pointed, if_neg]
    simpa using fun _ => hsome
  have hlays : Lays digits leading
      (['0'] ++ pointed (List.replicate (leading.natAbs - 1) '0' ++ digits) ++ []) := by
    refine .intro 0 isDigit_zero (List.cons_ne_nil _ _) (fun c hc => ?_) (.inl ⟨rfl, rfl⟩) ?_ ?_
    · rcases List.mem_append.1 hc with hzero | hdigit
      · exact isDigit_zeros hzero
      · exact hdigits c hdigit
    · have hzeros : ['0'] ++ (List.replicate (leading.natAbs - 1) '0' ++ digits) =
          List.replicate (leading.natAbs - 1 + 1) '0' ++ digits := rfl
      rw [hzeros, ofDigits_zeros_append, Nat.pow_zero, Nat.mul_one]
    · rw [List.length_append, List.length_replicate]
      omega
  rw [hfraction, List.append_nil] at hlays
  exact hlays

theorem lays_large (hdigits : ∀ c ∈ digits, c.isDigit = true) (hsome : digits ≠ []) (hpos : 0 ≤ leading) :
    Lays digits leading (digits.take (leading.toNat + 1) ++
      List.replicate (leading.toNat + 1 - digits.length) '0' ++
      '.' :: (if (digits.drop (leading.toNat + 1)).isEmpty then ['0'] else digits.drop (leading.toNat + 1))) := by
  rcases Nat.lt_or_ge (leading.toNat + 1) digits.length with hlt | hge
  · have hfraction : digits.drop (leading.toNat + 1) ≠ [] := by
      rw [Ne, List.drop_eq_nil_iff]
      omega
    have hpointed : pointed (digits.drop (leading.toNat + 1)) = '.' :: digits.drop (leading.toNat + 1) :=
      if_neg (by simpa using hlt)
    have hnone : leading.toNat + 1 - digits.length = 0 := by omega
    rw [hnone, List.replicate_zero, List.append_nil, if_neg (by simpa using hlt), ← hpointed,
      ← List.append_nil (_ ++ _)]
    refine .intro 0 (fun c hc => hdigits c (List.mem_of_mem_take hc)) ?_
      (fun c hc => hdigits c (List.mem_of_mem_drop hc)) (.inl ⟨rfl, rfl⟩) ?_ ?_
    · simpa using hsome
    · rw [List.take_append_drop, Nat.pow_zero, Nat.mul_one]
    · rw [List.length_drop]
      omega
  · have hnone : digits.drop (leading.toNat + 1) = [] := List.drop_eq_nil_of_le hge
    rw [hnone, List.take_of_length_le hge, if_pos List.isEmpty_nil]
    have hlays : Lays digits leading
        (digits ++ List.replicate (leading.toNat + 1 - digits.length) '0' ++ pointed ['0'] ++ []) := by
      refine .intro (leading.toNat + 1 - digits.length + 1) (fun c hc => ?_) ?_ isDigit_zero
        (.inl ⟨rfl, rfl⟩) ?_ ?_
      · rcases List.mem_append.1 hc with hdigit | hzero
        · exact hdigits c hdigit
        · exact isDigit_zeros hzero
      · exact List.append_ne_nil_of_left_ne_nil hsome _
      · rw [List.append_assoc, ← List.replicate_succ', ofDigits_append_zeros]
      · rw [List.length_singleton]
        omega
    rw [List.append_nil] at hlays
    exact hlays

theorem lays_write (hdigits : ∀ c ∈ digits, c.isDigit = true) (hsome : digits ≠ []) :
    Lays digits leading (layout.write digits leading) := by
  unfold DecimalLayout.write
  split
  · obtain ⟨d, rest, rfl⟩ := List.exists_cons_of_ne_nil hsome
    have hlays : Lays (d :: rest) leading ([d] ++ pointed rest ++ exponentText leading) :=
      lays_scientific hdigits
    cases rest <;> exact hlays
  split
  · next hneg => exact lays_small hdigits hsome hneg
  · next hneg => exact lays_large hdigits hsome (Int.not_lt.1 hneg)

/-! ## Characters of a layout -/

theorem Lays.eq_cons {cs : List Char} (h : Lays digits leading cs) : ∃ d rest, cs = d :: rest ∧ d.isDigit = true := by
  obtain ⟨zeros, hwhole, hsome, -, -, -, -⟩ := h
  obtain ⟨d, rest, rfl⟩ := List.exists_cons_of_ne_nil hsome
  exact ⟨d, _, rfl, hwhole d List.mem_cons_self⟩

theorem isBlankAroundNumber_pointed {c : Char} (hfraction : ∀ c ∈ fraction, c.isDigit = true)
    (hc : c ∈ pointed fraction) : isBlankAroundNumber c = false := by
  unfold pointed at hc
  split at hc
  · cases hc
  · rcases List.mem_cons.1 hc with rfl | hdigit
    · decide
    · exact isBlankAroundNumber_of_isDigit (hfraction c hdigit)

theorem isBlankAroundNumber_exponentText {c : Char} (hc : c ∈ exponentText leading) :
    isBlankAroundNumber c = false := by
  rcases List.mem_cons.1 hc with rfl | hc
  · decide
  rcases List.mem_cons.1 hc with rfl | hdigit
  · split <;> decide
  · exact isBlankAroundNumber_of_isDigit (isDigit_padLeft hdigit)

theorem Lays.isBlankAroundNumber_eq {cs : List Char} (h : Lays digits leading cs) :
    ∀ c ∈ cs, isBlankAroundNumber c = false := by
  obtain ⟨zeros, hwhole, hsome, hfraction, htail, -, -⟩ := h
  intro c hc
  rcases List.mem_append.1 hc with hc | hexponent
  · rcases List.mem_append.1 hc with hdigit | hc
    · exact isBlankAroundNumber_of_isDigit (hwhole c hdigit)
    · exact isBlankAroundNumber_pointed hfraction hc
  · rcases htail with ⟨rfl, -⟩ | ⟨rfl, -⟩
    · cases hexponent
    · exact isBlankAroundNumber_exponentText hexponent

/-! ## What is read of a layout -/

theorem Lays.readMagnitude?_eq {cs : List Char} (h : Lays digits leading cs) (negative : Bool) :
    ∃ zeros : Nat, readMagnitude? negative cs =
      some (ofDecimal negative (ofDigits (digitValues digits) * 10 ^ zeros)
        (Nat.toDigits 10 (ofDigits (digitValues digits) * 10 ^ zeros)).length
        (leading + 1 - digits.length - zeros)) := by
  obtain ⟨zeros, hwhole, hsome, hfraction, htail, hvalue, hplace⟩ := h
  refine ⟨zeros, ?_⟩
  rw [← hvalue, ← hplace]
  rcases htail with ⟨rfl, rfl⟩ | ⟨rfl, rfl⟩
  · exact Double.readMagnitude?_eq negative hwhole hsome hfraction endsDigits_nil (by decide) rfl
  · exact Double.readMagnitude?_eq negative hwhole hsome hfraction (endsDigits_exponentText _)
      (by simp [exponentText]) (readExponent?_exponentText _)

theorem exists_eq_significant (cs : List Char) : ∃ zeros, cs = significant cs ++ List.replicate zeros '0' := by
  obtain ⟨tail, htail, hzeros⟩ := exists_eq_trimEndWhere_append (· == '0') cs
  refine ⟨tail.length, htail.trans ?_⟩
  congr 1
  exact List.eq_replicate_of_mem fun c hc => beq_iff_eq.1 (hzeros c hc)

/-- The text of a magnitude is laid out from digits that are read as the magnitude. -/
theorem lays_magnitudeText {units : Nat} (hunits : IsMagnitude units) :
    ∃ digits leading, Lays digits leading (magnitudeText units) ∧ ∀ (negative : Bool) (zeros : Nat),
      ofDecimal negative (ofDigits (digitValues digits) * 10 ^ zeros)
        (Nat.toDigits 10 (ofDigits (digitValues digits) * 10 ^ zeros)).length
        (leading + 1 - digits.length - zeros) = finite negative units := by
  rcases Nat.eq_zero_or_pos units with rfl | hpos
  · refine ⟨['0'], 0, lays_large isDigit_zero (List.cons_ne_nil _ _) (Int.le_refl 0), fun negative zeros => ?_⟩
    rw [show ofDigits (digitValues ['0']) = 0 from rfl, Nat.zero_mul]
    rfl
  · obtain ⟨decimal, exponent, hholds, hfewest⟩ := fewestDigits_eq hunits hpos
    obtain ⟨extra, hextra⟩ := exists_eq_significant (Nat.toDigits 10 decimal)
    have htext : magnitudeText units = layout.write (significant (Nat.toDigits 10 decimal))
        (exponent + (Nat.toDigits 10 decimal).length - 1) := by
      rw [magnitudeText, if_neg (Nat.ne_of_gt hpos), hfewest]
    have hdigits : ∀ c ∈ significant (Nat.toDigits 10 decimal), c.isDigit = true := by
      intro c hc
      refine isDigit_toDigits (n := decimal) ?_
      rw [hextra]
      exact List.mem_append_left _ hc
    have hlength : (Nat.toDigits 10 decimal).length = (significant (Nat.toDigits 10 decimal)).length + extra := by
      have := congrArg List.length hextra
      rwa [List.length_append, List.length_replicate] at this
    have hvalue : decimal = ofDigits (digitValues (significant (Nat.toDigits 10 decimal))) * 10 ^ extra := by
      rw [← ofDigits_append_zeros, ← hextra, ofDigits_toDigits]
    rw [hlength] at htext
    generalize significant (Nat.toDigits 10 decimal) = digits at *
    have hsome : digits ≠ [] := by
      rintro rfl
      refine ne_zero_of_holds hunits hpos hholds ?_
      rw [hvalue]
      exact Nat.zero_mul _
    refine ⟨digits, _, htext ▸ lays_write hdigits hsome, fun negative zeros => ?_⟩
    refine ofDecimal_of_holds negative hunits hpos ?_
    have hplace : exponent + ((digits.length + extra : Nat) : Int) - 1 + 1 - digits.length = exponent + extra := by
      omega
    have hshift := holds_shift units (ofDigits (digitValues digits)) (exponent + extra) extra
    rw [← hvalue, Int.add_sub_cancel, hholds] at hshift
    rw [hplace, holds_shift, ← hshift]

/-! ## Numbers with their signs -/

theorem readSign_magnitudeText {d : Char} {rest : List Char} (negative : Bool) (hd : d.isDigit = true) :
    readSign (signText negative ++ d :: rest) = (negative, d :: rest) := by
  cases negative with
  | true => rfl
  | false =>
    show readSign (d :: rest) = (false, d :: rest)
    unfold readSign
    split
    · next h => exact absurd (List.cons.inj h).1 (by rintro rfl; cases hd)
    · next h => exact absurd (List.cons.inj h).1 (by rintro rfl; cases hd)
    · rfl

theorem toLower_of_isDigit {c : Char} (h : c.isDigit = true) : c.toLower = c := by
  have hupper : ¬ (65 ≤ c.val ∧ c.val ≤ 90) := by
    simp only [Char.isDigit, Bool.and_eq_true, decide_eq_true_eq] at h
    intro hupper
    exact absurd (UInt32.le_trans hupper.1 h.2) (by decide)
  unfold Char.toLower
  exact dif_neg hupper

theorem isBlankAroundNumber_of_any {cs : List Char} (h : cs.any isBlankAroundNumber = false) :
    ∀ c ∈ cs, isBlankAroundNumber c = false := fun c hc => Bool.eq_false_iff.2 (List.any_eq_false.1 h c hc)

theorem isBlankAroundNumber_text {x : Double} (h : x.IsRounded) :
    ∀ c ∈ x.text.toList, isBlankAroundNumber c = false := by
  have hsign : ∀ negative, ∀ c ∈ signText negative, isBlankAroundNumber c = false := by
    intro negative
    cases negative <;> exact isBlankAroundNumber_of_any rfl
  cases h with
  | nan payload => exact isBlankAroundNumber_of_any (show "nan".toList.any isBlankAroundNumber = false by decide)
  | infinite negative => cases negative <;> exact isBlankAroundNumber_of_any (by decide)
  | @finite negative units hunits =>
    obtain ⟨digits, leading, hlays, -⟩ := lays_magnitudeText hunits
    intro c hc
    rw [text, String.toList_ofList] at hc
    rcases List.mem_append.1 hc with hc | hc
    · exact hsign negative c hc
    · exact hlays.isBlankAroundNumber_eq c hc

/-- A number of the format is read back from its text. -/
theorem readDouble?_text {x : Double} (h : x.IsRounded) (hnan : x.isNan = false) :
    readDouble? x.text = some x := by
  have htrim : trimNumber x.text.toList = x.text.toList := trimWhere_of_forall (isBlankAroundNumber_text h)
  cases h with
  | nan payload => cases hnan
  | infinite negative => cases negative <;> decide
  | @finite negative units hunits =>
    obtain ⟨digits, leading, hlays, hvalue⟩ := lays_magnitudeText hunits
    obtain ⟨zeros, hread⟩ := hlays.readMagnitude?_eq negative
    rw [hvalue] at hread
    obtain ⟨d, rest, htext, hd⟩ := hlays.eq_cons
    have hword : ∀ c word, c.isDigit = false → lowerAscii (d :: rest) ≠ c :: word := by
      intro c word hc heq
      rw [lowerAscii, List.map_cons, toLower_of_isDigit hd] at heq
      rw [(List.cons.inj heq).1, hc] at hd
      cases hd
    rw [htext] at hread
    have hsign : readSign (text (finite negative units)).toList = (negative, d :: rest) := by
      rw [text, htext, String.toList_ofList]
      exact readSign_magnitudeText negative hd
    unfold readDouble?
    rw [htrim, hsign]
    simp only [hword _ _ (show 'i'.isDigit = false by decide), hword _ _ (show 'n'.isDigit = false by decide),
      hread, decide_false, Bool.or_self, Bool.false_eq_true, if_false]

end Double

end TripleIndex
