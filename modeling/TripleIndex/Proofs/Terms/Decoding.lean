import TripleIndex.Proofs.Terms.Quotes

/-!
Decoding what was written. Where two backslashes are left for every backslash a text is decoded to its
own characters. Where one or three are left it is decoded to fewer characters or not at all, because the
single backslash goes with its quote and the third one begins a hexadecimal escape. So it is the length
that tells the two cases apart.
-/

namespace TripleIndex

/-- No backslash stands before an `x`, and between three quotes none stands before a bare quote. -/
def KeepsBackslashes (wide : Bool) (cs : List Char) : Prop :=
  ∀ rest, '\\' :: rest <:+ cs → ¬ ['x'] <+: rest ∧ (wide = true → ['"'] <+: rest → threeQuotes <+: rest)

/-- What is decoded where a text stands between quotes. -/
def decodedText (wide : Bool) (cs : List Char) : List Char := widened (spelledWith (countDecoded wide) cs)

variable {wide : Bool} {c : Char} {cs : List Char} {ns : List Nat}

theorem singleton_prefix_iff : [c] <+: cs ↔ cs.head? = some c := by
  cases cs <;> simp [List.cons_prefix_cons, eq_comm]

theorem countDecoded_eq_two_iff {rest : List Char} : countDecoded wide rest = 2 ↔
    ¬ ['x'] <+: rest ∧ (wide = true → ['"'] <+: rest → threeQuotes <+: rest) := by
  simp only [singleton_prefix_iff, ← @List.isPrefixOf_iff_prefix _ _ _ threeQuotes]
  unfold countDecoded countUnquoted isBareQuote
  by_cases hx : rest.head? = some 'x'
  · simp [hx]
  · cases wide <;> by_cases hquote : rest.head? = some '"' <;> cases hthree : threeQuotes.isPrefixOf rest <;>
      simp_all

theorem keepsBackslashes_nil : KeepsBackslashes wide [] := by simp [KeepsBackslashes]

theorem keepsBackslashes_cons : KeepsBackslashes wide (c :: cs) ↔
    (c = '\\' → countDecoded wide cs = 2) ∧ KeepsBackslashes wide cs := by
  simp only [KeepsBackslashes, List.suffix_cons_iff, countDecoded_eq_two_iff]
  constructor
  · exact fun h => ⟨fun hc => h cs (.inl (by rw [hc])), fun rest hrest => h rest (.inr hrest)⟩
  · rintro ⟨hfirst, hlater⟩ rest (heq | hrest)
    · obtain ⟨rfl, rfl⟩ := List.cons.inj heq
      exact hfirst rfl
    · exact hlater rest hrest

/-! ## Pieces of the text -/

theorem decodedText_cons (hc : c ≠ '\\') :
    unescapeFrom .plain (decodedText wide (c :: cs)) =
      (unescapeFrom .plain (decodedText wide cs)).map (c.toNat :: ·) := by
  by_cases hreturn : c = '\r'
  · subst hreturn
    exact decodes_return _
  · rw [decodedText, spelledWith_cons hc hreturn]
    exact decodes_spellWide hc _

theorem decodedText_backslash (h : countDecoded wide cs = 2) :
    unescapeFrom .plain (decodedText wide ('\\' :: cs)) =
      (unescapeFrom .plain (decodedText wide cs)).map ('\\'.toNat :: ·) := by
  rw [decodedText, spelledWith_backslash, h]
  exact decodes_backslashes _

theorem decodedText_backslash_quote (h : countDecoded wide ('"' :: cs) = 1) :
    unescapeFrom .plain (decodedText wide ('\\' :: '"' :: cs)) =
      (unescapeFrom .plain (decodedText wide cs)).map ('"'.toNat :: ·) := by
  rw [decodedText, spelledWith_backslash, h, spelledWith_cons (by decide) (by decide)]
  exact decodes_quote _

theorem decodedText_backslash_x :
    unescapeFrom .plain (decodedText wide ('\\' :: 'x' :: cs)) =
      (unescapeFrom (.hex 2 0) (decodedText wide cs)).map ('\\'.toNat :: ·) := by
  have hcount : countDecoded wide ('x' :: cs) = 3 := rfl
  rw [decodedText, spelledWith_backslash, hcount, spelledWith_cons (by decide) (by decide)]
  exact decodes_backslashes ('\\' :: 'x' :: decodedText wide cs)

theorem unescapeFrom_hex_decodedText {left value : Nat}
    (h : unescapeFrom (.hex (left + 1) value) (decodedText wide cs) = some ns) :
    ∃ c rest d, cs = c :: rest ∧ unescapeFrom (.hex (left + 1) value) (c :: decodedText wide rest) = some ns ∧
      hexValue? c = some d := by
  -- A backslash is never a hexadecimal digit, so every character that is spelled with one ends the escape in failure.
  have hbackslash : ∀ rest, unescapeFrom (.hex (left + 1) value) ('\\' :: rest) = none := fun rest => rfl
  cases cs with
  | nil => cases h
  | cons c cs =>
    by_cases hc : c = '\\'
    · have hpos : ∃ n, countDecoded wide cs = n + 1 := by
        refine Nat.exists_eq_add_of_le' ?_
        unfold countDecoded
        split
        · decide
        · exact one_le_countUnquoted wide cs
      obtain ⟨n, hn⟩ := hpos
      subst hc
      rw [decodedText, spelledWith_backslash, hn, List.replicate_succ] at h
      exact absurd ((hbackslash _).symm.trans h) (by simp)
    · by_cases hreturn : c = '\r'
      · subst hreturn
        exact absurd ((hbackslash _).symm.trans h) (by simp)
      · rw [decodedText, spelledWith_cons hc hreturn] at h
        by_cases hnarrow : c.toNat ≤ 0xFF
        · have htext : widened (c :: spelledWith (countDecoded wide) cs) = c :: decodedText wide cs := by
            rw [widened, List.flatMap_cons, spellWide_of_le hnarrow]
            rfl
          rw [htext] at h
          cases hdigit : hexValue? c with
          | none =>
            rw [unescapeFrom, hdigit] at h
            cases h
          | some d => exact ⟨c, cs, d, rfl, h, hdigit⟩
        · have htext : ∃ rest, widened (c :: spelledWith (countDecoded wide) cs) = '\\' :: rest := by
            rw [widened, List.flatMap_cons, spellWide, if_neg hnarrow]
            split <;> exact ⟨_, rfl⟩
          obtain ⟨rest, htext⟩ := htext
          rw [htext] at h
          exact absurd ((hbackslash _).symm.trans h) (by simp)

theorem length_of_hex (h : unescapeFrom (.hex 2 0) (decodedText wide cs) = some ns) :
    ∃ rest n ms, ns = n :: ms ∧ unescapeFrom .plain (decodedText wide rest) = some ms ∧
      cs.length = rest.length + 2 := by
  obtain ⟨c, cs', d, rfl, h, hc⟩ := unescapeFrom_hex_decodedText h
  rw [unescapeFrom, hc] at h
  obtain ⟨c', rest, d', rfl, h, hc'⟩ := unescapeFrom_hex_decodedText h
  rw [unescapeFrom, hc'] at h
  simp only [if_true] at h
  split at h
  · obtain ⟨ms, hms, rfl⟩ := Option.map_eq_some_iff.1 h
    exact ⟨rest, _, ms, rfl, hms, rfl⟩
  · cases h

/-! ## Whole texts -/

theorem decode_of_keepsBackslashes (h : KeepsBackslashes wide cs) :
    unescapeFrom .plain (decodedText wide cs) = some (cs.map Char.toNat) := by
  induction cs with
  | nil => rfl
  | cons c cs ih =>
    obtain ⟨hfirst, hlater⟩ := keepsBackslashes_cons.1 h
    by_cases hc : c = '\\'
    · subst hc
      rw [decodedText_backslash (hfirst rfl), ih hlater]
      rfl
    · rw [decodedText_cons hc, ih hlater]
      rfl

/-- A text is decoded to no more characters than it has, and to fewer if it loses a backslash. -/
theorem length_of_decode (h : unescapeFrom .plain (decodedText wide cs) = some ns) :
    ns.length ≤ cs.length ∧ (ns.length = cs.length → KeepsBackslashes wide cs) := by
  -- an escape takes several characters for one, so the induction is on the length
  induction hlength : cs.length using Nat.strong_induction_on generalizing cs ns with
  | _ n ih =>
    subst hlength
    cases cs with
    | nil =>
      cases h
      exact ⟨Nat.le_refl _, fun _ => keepsBackslashes_nil⟩
    | cons c cs =>
      by_cases hkept : c = '\\' → countDecoded wide cs = 2
      · have hstep : unescapeFrom .plain (decodedText wide (c :: cs)) =
            (unescapeFrom .plain (decodedText wide cs)).map (c.toNat :: ·) := by
          by_cases hc : c = '\\'
          · subst hc
            exact decodedText_backslash (hkept rfl)
          · exact decodedText_cons hc
        rw [hstep] at h
        obtain ⟨ms, hms, rfl⟩ := Option.map_eq_some_iff.1 h
        obtain ⟨hle, hkeeps⟩ := ih cs.length (by simp) hms rfl
        refine ⟨Nat.succ_le_succ hle, fun heq => keepsBackslashes_cons.2 ⟨hkept, hkeeps ?_⟩⟩
        exact Nat.succ_inj.1 heq
      · -- the text begins with a backslash that is lost, so it is decoded to fewer characters
        obtain ⟨rfl, hcount⟩ := Classical.not_imp.1 hkept
        have hshort : ns.length < ('\\' :: cs).length := by
          by_cases hx : cs.head? = some 'x'
          · obtain ⟨rest, rfl⟩ := List.head?_eq_some_iff.1 hx
            rw [decodedText_backslash_x] at h
            obtain ⟨ms, hms, rfl⟩ := Option.map_eq_some_iff.1 h
            obtain ⟨later, n, ms, rfl, hms, hlength⟩ := length_of_hex hms
            have hle := (ih later.length (by simp [hlength]; omega) hms rfl).1
            simp only [List.length_cons, hlength]
            omega
          · have hbare : (wide && isBareQuote cs) = true := by
              rw [countDecoded, if_neg hx, countUnquoted] at hcount
              by_contra hnot
              exact hcount (if_neg hnot)
            have hquote : cs.head? = some '"' := by
              simp only [isBareQuote, Bool.and_eq_true, decide_eq_true_eq] at hbare
              exact hbare.2.1
            have hone : countDecoded wide cs = 1 := by
              rw [countDecoded, if_neg hx, countUnquoted, if_pos hbare]
            obtain ⟨rest, rfl⟩ := List.head?_eq_some_iff.1 hquote
            rw [decodedText_backslash_quote hone] at h
            obtain ⟨ms, hms, rfl⟩ := Option.map_eq_some_iff.1 h
            have hshort : rest.length < ('\\' :: '"' :: rest).length := Nat.lt_succ_of_lt (Nat.lt_succ_self _)
            have hle := (ih rest.length hshort hms rfl).1
            simp only [List.length_cons]
            omega
        exact ⟨Nat.le_of_lt hshort, fun heq => absurd heq (Nat.ne_of_lt hshort)⟩

end TripleIndex
