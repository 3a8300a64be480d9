import TripleIndex.Proofs.Terms.Unique

/-!
Terms are told apart by their forms. A form shows the replacement character in the place of each surrogate, and quoting
adds no replacement character, so the code points that a form stands for give back what each part of the term hides.
Main result: two terms with the same form are the same term.
-/

namespace TripleIndex

/-! ## What replacement characters stand for -/

section Replacements

variable {hidden hidden' : List Nat} {cs cs' : List Char}

theorem standIn_eq_replacement (n : Nat) :
    (standIn n == replacement) = (isSurrogate n || n == replacement.toNat) := by
  by_cases hsurrogate : isSurrogate n = true
  · simp [standIn, hsurrogate]
  · have hstandIn : standIn n = Char.ofNat n := if_neg hsurrogate
    rw [hstandIn, Bool.eq_false_iff.2 hsurrogate, Bool.false_or, Bool.eq_iff_iff, beq_iff_eq, beq_iff_eq]
    constructor
    · intro hn
      by_cases hvalid : n.isValidChar
      · rw [← hn, Char.ofNat, dif_pos hvalid]
        rfl
      · rw [Char.ofNat, dif_neg hvalid] at hn
        exact absurd hn (by decide)
    · rintro rfl
      exact Char.ofNat_toNat _

theorem count_map_standIn (ns : List Nat) : (ns.map standIn).count replacement = (replaced ns).length := by
  rw [List.count, List.countP_map, List.countP_eq_length_filter, replaced]
  congr 1
  exact List.filter_congr fun n _ => standIn_eq_replacement n

/-- Every replacement character is accounted for, once. -/
structure Accounts (hidden : List Nat) (cs : List Char) : Prop where
  length : cs.count replacement = hidden.length
  standIn : ∀ n ∈ hidden, standIn n = replacement

theorem accounts_map_standIn (ns : List Nat) : Accounts (replaced ns) (ns.map standIn) where
  length := count_map_standIn ns
  standIn n hn := by
    rw [← beq_iff_eq, standIn_eq_replacement]
    exact (List.mem_filter.1 hn).2

theorem Accounts.append (h : Accounts hidden cs) (h' : Accounts hidden' cs') :
    Accounts (hidden ++ hidden') (cs ++ cs') where
  length := by rw [List.count_append, List.length_append, h.length, h'.length]
  standIn n hn := (List.mem_append.1 hn).elim (h.standIn n) (h'.standIn n)

theorem Accounts.congr (h : Accounts hidden cs) (hcount : cs'.count replacement = cs.count replacement) :
    Accounts hidden cs' where
  length := hcount.trans h.length
  standIn := h.standIn

theorem Accounts.eq_replicate (h : Accounts hidden cs) (hnone : hidden.any isSurrogate = false) :
    hidden = List.replicate (cs.count replacement) replacement.toNat := by
  refine List.eq_replicate_iff.2 ⟨h.length.symm, fun n hn => ?_⟩
  have hstandIn : (isSurrogate n || n == replacement.toNat) = true := by
    rw [← standIn_eq_replacement, h.standIn n hn, beq_self_eq_true]
  simpa [Bool.eq_false_iff.2 (List.any_eq_false.1 hnone n hn)] using hstandIn

theorem replaced_restore (h : Accounts hidden cs) :
    replaced (restore hidden cs) = hidden ∧ (restore hidden cs).map standIn = cs := by
  -- each replacement character takes the first of what is still hidden
  induction cs generalizing hidden with
  | nil =>
    obtain rfl : hidden = [] := List.eq_nil_of_length_eq_zero h.length.symm
    exact ⟨rfl, rfl⟩
  | cons c cs ih =>
    by_cases hc : c = replacement
    · subst hc
      obtain ⟨n, ns, rfl⟩ : ∃ n ns, hidden = n :: ns :=
        List.exists_cons_of_length_eq_add_one (by rw [← h.length, List.count_cons_self])
      have hcount : cs.count replacement = ns.length := by simpa using h.length
      obtain ⟨hreplaced, hmap⟩ := ih ⟨hcount, fun m hm => h.standIn m (List.mem_cons_of_mem n hm)⟩
      have hn : standIn n = replacement := h.standIn n List.mem_cons_self
      have hkept : (isSurrogate n || n == replacement.toNat) = true := by
        rw [← standIn_eq_replacement, hn, beq_self_eq_true]
      rw [restore, if_pos rfl, List.map_cons, hn, hmap, replaced, List.filter_cons, if_pos hkept, ← replaced, hreplaced]
      exact ⟨rfl, rfl⟩
    · have hstep : restore hidden (c :: cs) = c.toNat :: restore hidden cs := by
        cases hidden with
        | nil => rfl
        | cons n ns => rw [restore, if_neg hc]
      have hkept : (isSurrogate c.toNat || c.toNat == replacement.toNat) = false := by
        rw [← standIn_eq_replacement, standIn_toNat]
        exact beq_false_of_ne hc
      obtain ⟨hreplaced, hmap⟩ := ih ⟨by rw [← h.length, List.count_cons_of_ne hc], h.standIn⟩
      rw [hstep, List.map_cons, standIn_toNat, hmap, replaced, List.filter_cons, hkept, if_neg Bool.false_ne_true,
        ← replaced, hreplaced]
      exact ⟨rfl, rfl⟩

end Replacements

/-! ## Strings -/

variable {v w : Scalar}

/-- A string: a text, or code points that are none because of their surrogates. -/
def Scalar.IsString : Scalar → Prop
  | .text _ => True
  | .codePoints ns => ns.any isSurrogate = true ∧ ∀ n ∈ ns, n < 0x110000
  | _ => False

theorem Scalar.points_text (s : String) : (Scalar.text s).points.map standIn = s.toList := by
  rw [points, List.map_map]
  exact (List.map_congr_left fun c _ => standIn_toNat c).trans (List.map_id _)

theorem Scalar.IsString.plain (hv : v.IsString) : v.plain.toList = v.points.map standIn := by
  cases v with
  | text s => exact (points_text s).symm
  | codePoints ns => exact String.toList_ofList
  | _ => exact hv.elim

theorem Scalar.IsString.formatted (hv : v.IsString) : v.formatted = v.plain := by
  cases v with
  | bool b => exact hv.elim
  | _ => rfl

theorem Scalar.eq_of_points (hv : v.IsString) (hw : w.IsString) (h : v.points = w.points) : v = w := by
  have hne : ∀ (s : String) {ns : List Nat}, ns.any isSurrogate = true → (text s).points ≠ ns := by
    rintro s _ hns rfl
    rw [any_isSurrogate_points_text] at hns
    cases hns
  match v, w, hv, hw with
  | .text s, .text s', _, _ =>
    have hchars := congrArg (List.map standIn) h
    rw [points_text, points_text, String.toList_inj] at hchars
    rw [hchars]
  | .text s, .codePoints ns, _, hw => exact absurd h (hne s hw.1)
  | .codePoints ns, .text s, hv, _ => exact absurd h.symm (hne s hv.1)
  | .codePoints ns, .codePoints ms, _, _ => exact congrArg codePoints h

/-- A string is known by what it shows and by what its replacement characters stand for. -/
theorem Scalar.IsString.restore (hv : v.IsString) : restore (replaced v.points) v.plain.toList = v.points := by
  rw [hv.plain]
  refine restore_replaced fun n hn => ?_
  cases v with
  | text s =>
    obtain ⟨c, -, rfl⟩ := List.mem_map.1 hn
    exact .inr c.valid
  | codePoints ns =>
    have hbound : n < 0x110000 := hv.2 n hn
    simp only [isSurrogate, isHighSurrogate, isLowSurrogate, Bool.or_eq_true, Bool.and_eq_true, decide_eq_true_eq,
      Nat.isValidChar]
    omega
  | _ => exact hv.elim

theorem Scalar.eq_of_plain (hv : v.IsString) (hw : w.IsString) (hplain : v.plain.toList = w.plain.toList)
    (hreplaced : replaced v.points = replaced w.points) : v = w := by
  refine eq_of_points hv hw ?_
  rw [← hv.restore, ← hw.restore, hplain, hreplaced]

theorem Scalar.IsString.accounts (hv : v.IsString) : Accounts (replaced v.points) v.plain.toList := by
  rw [hv.plain]
  exact accounts_map_standIn v.points

/-! ## Quoting -/

theorem count_escapeSingle (c : Char) : (escapeSingle c).count replacement = [c].count replacement := by
  unfold escapeSingle
  split
  · next hc => subst hc; rfl
  split
  · next hc => subst hc; rfl
  split
  · next hc => subst hc; rfl
  · rfl

theorem count_flatMap_escapeSingle (cs : List Char) :
    (cs.flatMap escapeSingle).count replacement = cs.count replacement := by
  induction cs with
  | nil => rfl
  | cons c cs ih =>
    rw [List.flatMap_cons, List.count_append, count_escapeSingle, ih, ← List.count_append, List.singleton_append]

theorem count_escapeReturn (c : Char) : (escapeReturn c).count replacement = [c].count replacement := by
  unfold escapeReturn
  split
  · next hc => subst hc; rfl
  · rfl

theorem count_guarded (cs : List Char) : (guarded cs).count replacement = cs.count replacement := by
  induction cs using guarded_induction with
  | nil => rfl
  | quotes cs ih =>
    rw [guarded_threeQuotes, List.count_append, List.count_append, ih]
    rfl
  | backslash cs ih =>
    rw [guarded_backslash, List.count_cons_of_ne (by decide), List.count_cons_of_ne (by decide), ih,
      List.count_cons_of_ne (by decide)]
  | char c cs hc hfront ih =>
    rw [guarded_cons hc hfront, List.count_append, count_escapeReturn, ih, ← List.count_append, List.singleton_append]

theorem count_escapeLastQuote (cs : List Char) :
    (escapeLastQuote cs).count replacement = cs.count replacement := by
  by_cases hlast : cs.getLast? = some '"'
  · obtain ⟨front, rfl⟩ := List.getLast?_eq_some_iff.1 hlast
    rw [escapeLastQuote_append_quote]
    split
    · rfl
    · rw [List.count_append, List.count_append]
      rfl
  · rw [escapeLastQuote_of_getLast? hlast]

theorem count_quotedForm (cs : List Char) : (quotedForm cs).count replacement = cs.count replacement := by
  unfold quotedForm
  split
  · dsimp only
    rw [flatMap_escapeLastQuote, ← guarded, List.count_append, List.count_append, count_escapeLastQuote, count_guarded]
    exact Nat.zero_add _
  · rw [List.count_append, List.count_cons_of_ne (by decide), count_flatMap_escapeSingle]
    rfl

/-! ## Literals -/

/-- A literal that its form shows in full. It is made of strings, and its tag or its datatype is not empty. The
datatype leaves white space alone, and if it has special values, the codec of numbers takes the literal. -/
structure Literal.IsFaithful (l : Literal) : Prop where
  value : l.value.IsString
  language : ∀ v ∈ l.language, v.IsString ∧ v ≠ .text ""
  datatype : ∀ v ∈ l.datatype, v.IsString ∧ v ≠ .text "" ∧ v ≠ .text (xsd "normalizedString") ∧ v ≠ .text (xsd "token")
  single : l.language = none ∨ l.datatype = none
  number : ∀ name, l.datatype = some (.text name) → hasSpecialValues name = true →
    ∃ fields, CodecFamily.numeric.encode l = .ok fields

theorem Scalar.IsString.isSet (hv : v.IsString) (hne : v ≠ .text "") : v.isSet = true := by
  cases v with
  | text s => exact decide_eq_true fun hs => hne (congrArg text hs)
  | codePoints ns => rfl
  | _ => exact hv.elim

theorem nonEmpty?_of_isSet {x : Option Scalar} (h : ∀ v ∈ x, v.isSet = true) : nonEmpty? x = x := by
  cases x with
  | none => rfl
  | some v => exact if_pos (h v rfl)

namespace Literal

variable {a b l : Literal}

theorem IsFaithful.language?_eq (hl : l.IsFaithful) : l.language? = l.language :=
  nonEmpty?_of_isSet fun v hv => (hl.language v hv).1.isSet (hl.language v hv).2

theorem IsFaithful.datatype?_eq (hl : l.IsFaithful) : l.datatype? = l.datatype :=
  nonEmpty?_of_isSet fun v hv => (hl.datatype v hv).1.isSet (hl.datatype v hv).2.1

theorem IsFaithful.single? (hl : l.IsFaithful) : l.language? = none ∨ l.datatype? = none := by
  rw [hl.language?_eq, hl.datatype?_eq]
  exact hl.single

theorem IsFaithful.normalizeLexical_eq (hl : l.IsFaithful) (cs : List Char) :
    normalizeLexical l.datatype? cs = cs := by
  have hne : ∀ name, (∀ v ∈ l.datatype, v ≠ .text name) → l.datatype? ≠ some (.text name) := by
    intro name h heq
    rw [hl.datatype?_eq] at heq
    exact h _ heq rfl
  rw [normalizeLexical, if_neg (hne _ fun v hv => (hl.datatype v hv).2.2.1),
    if_neg (hne _ fun v hv => (hl.datatype v hv).2.2.2)]

/-- A name with surrogates shows a replacement character, which no name in the vocabulary has. -/
theorem IsFaithful.keepsSpelling (hl : l.IsFaithful) : l.KeepsSpelling := by
  intro dt hdt hspecial
  rw [hl.datatype?_eq] at hdt
  cases dt with
  | text name =>
    obtain ⟨fields, hfields⟩ := hl.number name hdt hspecial
    exact notMem_of_encode hfields (by decide) (by decide) (by decide)
  | codePoints ns =>
    obtain ⟨n, hn, hsurrogate⟩ := List.any_eq_true.1 (hl.datatype _ hdt).1.1
    have hmem : replacement ∈ (Scalar.codePoints ns).plain.toList := by
      rw [(hl.datatype _ hdt).1.plain]
      exact List.mem_map.2 ⟨n, hn, if_pos hsurrogate⟩
    simp only [hasSpecialValues, Bool.or_eq_true, decide_eq_true_eq] at hspecial
    rcases hspecial with (heq | heq) | heq <;> rw [heq] at hmem <;> exact absurd hmem (by decide)
  | _ => exact ((hl.datatype _ hdt).1).elim

/-- The text, the tag and the datatype of a literal as a form shows them. -/
def shownChars (l : Literal) : List Char := quotedForm l.lexical.toList ++ l.tail

theorem formChars_of_isFaithful (hl : l.IsFaithful) {chars : List Char} (h : l.formChars = .ok chars) :
    chars = l.shownChars := by
  rw [formChars_eq hl.keepsSpelling h, hl.normalizeLexical_eq, shownChars]

theorem accounts_tail (hl : l.IsFaithful) (htag : l.HasLanguageTag) :
    Accounts (replaced ((l.datatype?.map Scalar.points).getD [])) l.tail := by
  unfold tail
  cases hlanguage : l.language? with
  | some v =>
    obtain ⟨tag, rfl, htag⟩ := htag v hlanguage
    have hdatatype : l.datatype? = none := hl.single?.resolve_left (by simp [hlanguage])
    have hnone : replacement ∉ tag.toList := fun hmem =>
      absurd (isTagChar_of_isLanguageTag htag hmem) (by decide)
    rw [hdatatype]
    exact ⟨List.count_eq_zero.2 (by simpa [Scalar.plain] using ⟨by decide, hnone⟩), by simp [replaced]⟩
  | none =>
    cases hdatatype : l.datatype? with
    | none => exact ⟨rfl, by simp [replaced]⟩
    | some dt =>
      have hstring : dt.IsString := (hl.datatype dt (hl.datatype?_eq.symm.trans hdatatype)).1
      refine hstring.accounts.congr ?_
      dsimp only
      rw [List.count_cons_of_ne (by decide), List.count_cons_of_ne (by decide), List.count_append,
        List.count_cons_of_ne (by decide)]
      rfl

theorem accounts_shownChars (hl : l.IsFaithful) (htag : l.HasLanguageTag) : Accounts l.hidden l.shownChars := by
  have hvalue : Accounts (replaced l.value.points) (quotedForm l.lexical.toList) := by
    refine hl.value.accounts.congr ?_
    rw [count_quotedForm, lexical, hl.value.formatted]
  exact hvalue.append (accounts_tail hl htag)

/-- What a literal shows and what it hides make it up. -/
theorem eq_of_shownChars (ha : a.IsFaithful) (hb : b.IsFaithful) (htag : a.HasLanguageTag) (htag' : b.HasLanguageTag)
    (hhidden : a.hidden = b.hidden) (hchars : a.shownChars = b.shownChars) : a = b := by
  obtain ⟨hlexical, htail⟩ := quotedForm_append_inj a.head?_tail b.head?_tail hchars
  rw [lexical, lexical, ha.value.formatted, hb.value.formatted] at hlexical
  have hlength : (replaced a.value.points).length = (replaced b.value.points).length := by
    rw [← ha.value.accounts.length, ← hb.value.accounts.length, hlexical]
  obtain ⟨hvalues, hdatatypes⟩ := List.append_inj hhidden hlength
  obtain ⟨hlanguage, hdatatype⟩ := tail_inj ha.single? hb.single? htail
  have hvalue : a.value = b.value := Scalar.eq_of_plain ha.value hb.value hlexical hvalues
  have hlanguage : a.language = b.language := by
    rw [← ha.language?_eq, ← hb.language?_eq]
    exact eq_of_map_plain htag.text htag'.text hlanguage
  have hdatatype : a.datatype = b.datatype := by
    rw [ha.datatype?_eq, hb.datatype?_eq] at hdatatypes hdatatype
    cases hd : a.datatype with
    | none => simpa [hd, eq_comm] using hdatatype
    | some v =>
      obtain ⟨w, hw, hplain⟩ : ∃ w, b.datatype = some w ∧ w.plain = v.plain := by simpa [hd, eq_comm] using hdatatype
      rw [hd, hw] at hdatatypes
      rw [hw, Scalar.eq_of_plain (ha.datatype v hd).1 (hb.datatype w hw).1 (by rw [hplain]) hdatatypes]
  cases a
  cases b
  rw [mk.injEq]
  exact ⟨hvalue, hlanguage, hdatatype⟩

end Literal

/-! ## Terms -/

namespace Term

variable {a b t : Term}

/-- A term that its form shows in full. -/
def IsFaithful : Term → Prop
  | literal l => l.IsFaithful
  | iri _ | blank _ => True
  | iriOfValue v => v.IsString
  | _ => False

/-- The characters of the form. -/
def shownChars : Term → List Char
  | iri value => '<' :: value.toList ++ ['>']
  | iriOfValue v => '<' :: v.plain.toList ++ ['>']
  | blank label => '_' :: ':' :: label.toList
  | literal l => l.shownChars
  | _ => []

/-- What the replacement characters in the form stand for. -/
def hidden : Term → List Nat
  | iri value => replaced (Scalar.text value).points
  | iriOfValue v => replaced v.points
  | blank label => replaced (Scalar.text label).points
  | literal l => l.hidden
  | _ => []

/-- A form shows the characters of the term, and its replacement characters stand for what the term hides. -/
theorem shows_of_encodable (haccounts : Accounts t.hidden t.shownChars)
    (hform : t.form = encodable t.hidden t.shownChars) (h : t.formValue = .ok v) :
    v.plain.toList = t.shownChars ∧ replaced v.points = t.hidden := by
  obtain ⟨hreplaced, hchars⟩ := replaced_restore haccounts
  unfold formValue at h
  rw [hform, encodable] at h
  by_cases hsurrogate : t.hidden.any isSurrogate = true
  · rw [if_pos hsurrogate] at h
    cases h
    exact ⟨String.toList_ofList.trans hchars, hreplaced⟩
  · rw [if_neg hsurrogate] at h
    cases h
    refine ⟨String.toList_ofList, ?_⟩
    have htext : Accounts (replaced (Scalar.text (String.ofList t.shownChars)).points) t.shownChars := by
      simpa [Scalar.plain] using
        (show Scalar.IsString (.text (String.ofList t.shownChars)) from trivial).accounts
    rw [htext.eq_replicate (any_isSurrogate_replaced_text _), haccounts.eq_replicate (Bool.eq_false_iff.2 hsurrogate)]

theorem form_of_formValue (h : t.formValue = .ok v) :
    (∃ form, t.form = .ok form) ∨ ∃ ns, t.form = .error (.unencodable ns) := by
  unfold formValue at h
  split at h
  · next form hform => exact .inl ⟨form, hform⟩
  · next ns hform => exact .inr ⟨ns, hform⟩
  · cases h

theorem form_eq_encodable_literal {l : Literal} (hl : l.IsFaithful) (h : (literal l).formValue = .ok v) :
    l.HasLanguageTag ∧ (literal l).form = encodable l.hidden l.shownChars := by
  have hform := form_of_formValue h
  change (∃ form, l.form = .ok form) ∨ ∃ ns, l.form = .error (.unencodable ns) at hform
  show l.HasLanguageTag ∧ l.form = _
  unfold Literal.form at hform ⊢
  split at hform
  · simp at hform
  next htext =>
  split at hform
  · simp at hform
  next hwritable =>
  rw [if_neg htext, if_neg hwritable]
  cases hchars : l.formChars with
  | ok chars =>
    refine ⟨Literal.hasLanguageTag_of_formChars hchars, ?_⟩
    rw [← Literal.formChars_of_isFaithful hl hchars]
    rfl
  | error f =>
    rw [hchars] at hform
    obtain ⟨form, hform⟩ | ⟨ns, hform⟩ := hform
    · cases hform
    · obtain rfl : f = .unencodable ns := Except.error.inj hform
      unfold Literal.formChars at hchars
      dsimp only at hchars
      split at hchars
      · split at hchars <;> cases hchars
      · cases hchars
      · cases hchars
      · cases hchars

theorem encodable_replaced_text (s : String) (cs : List Char) :
    encodable (replaced (Scalar.text s).points) cs = .ok (String.ofList cs) := by
  rw [encodable, any_isSurrogate_replaced_text, if_neg Bool.false_ne_true]

theorem form_eq_encodable (ht : t.IsFaithful) (h : t.formValue = .ok v) :
    t.form = encodable t.hidden t.shownChars := by
  cases t with
  | iri value =>
    rw [hidden, encodable_replaced_text, form, shownChars]
    by_cases hlegal : isLegalIri value.toList = true
    · rw [if_pos hlegal]
      simp [String.ext_iff]
    · rw [formValue, form, if_neg hlegal] at h
      cases h
  | iriOfValue w =>
    cases w with
    | codePoints ns =>
      have hplain : (Scalar.codePoints ns).plain.toList = ns.map standIn := String.toList_ofList
      rw [form, formOfIri, shownChars, hplain]
      by_cases hlegal : isLegalIri (ns.map standIn) = true
      · exact if_pos hlegal
      · rw [formValue, form, formOfIri, if_neg hlegal] at h
        cases h
    | _ => cases h
  | blank label =>
    rw [hidden, encodable_replaced_text, form, shownChars]
    simp [String.ext_iff]
  | literal l => exact (form_eq_encodable_literal ht h).2
  | _ => exact ht.elim

/-- Every replacement character in a form stands for one code point that the term hides. -/
theorem accounts_shownChars (ht : t.IsFaithful) (h : t.formValue = .ok v) : Accounts t.hidden t.shownChars := by
  have hbrackets : ∀ cs, ('<' :: cs ++ ['>']).count replacement = cs.count replacement := by
    intro cs
    rw [List.count_append, List.count_cons_of_ne (by decide)]
    rfl
  cases t with
  | iri value =>
    have hvalue : Scalar.IsString (.text value) := trivial
    exact hvalue.accounts.congr (hbrackets _)
  | iriOfValue w =>
    have hvalue : w.IsString := ht
    exact hvalue.accounts.congr (hbrackets _)
  | blank label =>
    have hlabel : Scalar.IsString (.text label) := trivial
    refine hlabel.accounts.congr ?_
    rw [shownChars, List.count_cons_of_ne (by decide), List.count_cons_of_ne (by decide)]
    rfl
  | literal l => exact l.accounts_shownChars ht (form_eq_encodable_literal ht h).1
  | _ => exact ht.elim

theorem head?_shownChars (ht : t.IsFaithful) : t.shownChars.head? = some (match t with
    | literal _ => '"'
    | blank _ => '_'
    | _ => '<') := by
  cases t with
  | literal l =>
    have hquoted : (quotedForm l.lexical.toList).head? = some '"' := by
      unfold quotedForm
      split <;> rfl
    obtain ⟨cs, hcs⟩ := List.head?_eq_some_iff.1 hquoted
    rw [shownChars, Literal.shownChars, hcs]
    rfl
  | var name => exact ht.elim
  | bare s => exact ht.elim
  | _ => rfl

/-- Terms with one form are the same. -/
theorem eq_of_formValue (ha : a.IsFaithful) (hb : b.IsFaithful) (h : a.formValue = .ok v) (h' : b.formValue = .ok v) :
    a = b := by
  obtain ⟨hchars, hhidden⟩ := shows_of_encodable (accounts_shownChars ha h) (form_eq_encodable ha h) h
  obtain ⟨hchars', hhidden'⟩ := shows_of_encodable (accounts_shownChars hb h') (form_eq_encodable hb h') h'
  rw [hchars] at hchars'
  rw [hhidden] at hhidden'
  -- The first character tells the kinds apart. Within a kind the shown and the replaced text give the value.
  have hlead := (head?_shownChars ha).symm.trans ((congrArg List.head? hchars').trans (head?_shownChars hb))
  have hiri : ∀ {x y : Scalar}, x.IsString → y.IsString →
      '<' :: x.plain.toList ++ ['>'] = '<' :: y.plain.toList ++ ['>'] → replaced x.points = replaced y.points →
      x = y := by
    intro x y hx hy hsame hreplaced
    exact Scalar.eq_of_plain hx hy (List.append_cancel_right (List.cons.inj hsame).2) hreplaced
  match a, b with
  | literal l, literal m =>
    obtain ⟨htag, -⟩ := form_eq_encodable_literal ha h
    obtain ⟨htag', -⟩ := form_eq_encodable_literal hb h'
    rw [Literal.eq_of_shownChars ha hb htag htag' hhidden' hchars']
  | blank label, blank label' =>
    have hlabel : label.toList = label'.toList := (List.cons.inj (List.cons.inj hchars').2).2
    rw [String.toList_inj.1 hlabel]
  | iri value, iri value' =>
    have hvalue : Scalar.text value = .text value' := hiri trivial trivial hchars' hhidden'
    rw [Scalar.text.inj hvalue]
  | iri value, iriOfValue w =>
    have hvalue : Scalar.text value = w := hiri trivial hb hchars' hhidden'
    subst hvalue
    cases h'
  | iriOfValue w, iri value =>
    have hvalue : w = .text value := hiri ha trivial hchars' hhidden'
    subst hvalue
    cases h
  | iriOfValue v, iriOfValue w =>
    have hvalue : v = w := hiri ha hb hchars' hhidden'
    rw [hvalue]
  | literal _, blank _ | literal _, iri _ | literal _, iriOfValue _ | blank _, literal _ | blank _, iri _
  | blank _, iriOfValue _ | iri _, literal _ | iri _, blank _ | iriOfValue _, literal _ | iriOfValue _, blank _ =>
    cases hlead
  | var _, _ | bare _, _ => exact ha.elim
  | _, var _ | _, bare _ => exact hb.elim

/-- Half of a pair, the replacement character, and a quote after a backslash at the end of the second line. -/
def torn : Literal := ⟨.codePoints [0xD83D, 0xFFFD, 10, 92, 34], none, some (.text (xsd "string"))⟩

theorem eq_of_formValue_torn : (literal torn).IsFaithful ∧ ∃ form,
    (literal torn).formValue = .ok form ∧
    (literal ⟨.ofCodePoints torn.value.points, none, torn.datatype⟩).formValue = .ok form ∧
    literal torn = literal ⟨.ofCodePoints torn.value.points, none, torn.datatype⟩ := by
  have hfaithful : (literal torn).IsFaithful := by
    refine ⟨⟨by decide, by decide⟩, by simp [torn], ?_, .inl rfl, ?_⟩
    · rintro v hv
      cases hv
      exact ⟨trivial, by decide⟩
    · rintro name hname hspecial
      cases hname
      exact absurd hspecial (by decide)
  exact ⟨hfaithful, _, rfl, rfl, eq_of_formValue hfaithful hfaithful rfl rfl⟩

end Term

end TripleIndex
