import Calculator.Number.Reading

/-!
# Plain decimals

The numbers of an expression are written with ASCII digits and at most one
point among them.  This file says which texts these are and shows that every
one of them is read as a double: no sign, word, low line or exponent comes in
the way, and the blanks around a number leave it alone.

The point cuts a plain decimal into two rows of digits, one of which may be
empty; `isPlainDecimal_cases` is that cut, and `digitRun_append` reads a row up
to the point or the end.
-/

namespace Calculator.Number

open Calculator.Text

/-- Whether a text is digits with at most one point among them, at least one
digit. -/
def isPlainDecimal (text : List Char) : Bool :=
  text.all (fun c => isAsciiDigit c || c = '.') && text.count '.' ≤ 1 && text.any isAsciiDigit

/-! ### The characters -/

theorem isAsciiDigit_iff {c : Char} : isAsciiDigit c = true ↔ 48 ≤ c.toNat ∧ c.toNat ≤ 57 := by
  simp only [isAsciiDigit, Bool.and_eq_true, decide_eq_true_eq, Char.le_def,
    UInt32.le_iff_toNat_le]
  exact Iff.rfl

@[simp] theorem isAsciiDigit_point : isAsciiDigit '.' = false := by decide

theorem digitValue?_of_isAsciiDigit {c : Char} (h : isAsciiDigit c = true) :
    digitValue? c = some (c.toNat - 48) := by
  obtain ⟨hlow, hhigh⟩ := isAsciiDigit_iff.1 h
  have hfound : digitZeros.find? (fun first => first ≤ c.toNat && c.toNat ≤ first + 9) =
      some 48 := by
    unfold digitZeros
    rw [List.find?_cons_of_pos]
    simp [hlow, hhigh]
  rw [digitValue?, hfound]
  rfl

theorem not_isBlank_of_isAsciiDigit {c : Char} (h : isAsciiDigit c = true) :
    isBlank c = false := by
  obtain ⟨hlow, hhigh⟩ := isAsciiDigit_iff.1 h
  simp only [isBlank, blankRanges, List.any_cons, List.any_nil, Bool.or_false,
    Bool.or_eq_false_iff, Bool.and_eq_false_iff, decide_eq_false_iff_not]
  omega

theorem toLower_of_isAsciiDigit {c : Char} (h : isAsciiDigit c = true) : c.toLower = c := by
  obtain ⟨hlow, hhigh⟩ := isAsciiDigit_iff.1 h
  unfold Char.toLower
  rw [dif_neg]
  intro hupper
  have hle : 65 ≤ c.toNat := UInt32.le_iff_toNat_le.1 hupper.1
  omega

/-- A property of the point and of all digits is one of every character of a
plain decimal. -/
theorem forall_of_isPlainDecimal {p : Char → Prop} (hdigit : ∀ c, isAsciiDigit c = true → p c)
    (hpoint : p '.') {text : List Char} (h : isPlainDecimal text = true) : ∀ c ∈ text, p c := by
  intro c hc
  simp only [isPlainDecimal, Bool.and_eq_true, List.all_eq_true] at h
  rcases Bool.or_eq_true_iff.1 (h.1.1 c hc) with hd | hp
  · exact hdigit c hd
  · exact of_decide_eq_true hp ▸ hpoint

theorem notMem_of_isPlainDecimal {c : Char} (hdigit : isAsciiDigit c = false) (hpoint : c ≠ '.')
    {text : List Char} (h : isPlainDecimal text = true) : c ∉ text := by
  intro hc
  simp only [isPlainDecimal, Bool.and_eq_true, List.all_eq_true] at h
  rcases Bool.or_eq_true_iff.1 (h.1.1 c hc) with hd | hp
  · exact Bool.false_ne_true (hdigit.symm.trans hd)
  · exact hpoint (of_decide_eq_true hp)

theorem ne_nil_of_isPlainDecimal {text : List Char} (h : isPlainDecimal text = true) :
    text ≠ [] := by
  rintro rfl
  exact absurd h (by decide)

/-! ### The cut at the point -/

theorem all_digits_of_count {text : List Char}
    (hall : ∀ c ∈ text, (isAsciiDigit c || decide (c = '.')) = true) (hcount : text.count '.' = 0) :
    ∀ c ∈ text, isAsciiDigit c = true := by
  intro c hc
  rcases Bool.or_eq_true_iff.1 (hall c hc) with hd | hp
  · exact hd
  · have heq : c = '.' := of_decide_eq_true hp
    exact absurd (heq ▸ hc) (List.count_eq_zero.1 hcount)

/-- A plain decimal is a row of digits, or two rows around a point. -/
theorem isPlainDecimal_cases {text : List Char} (h : isPlainDecimal text = true) :
    (text ≠ [] ∧ ∀ c ∈ text, isAsciiDigit c = true) ∨
      ∃ whole fraction, text = whole ++ '.' :: fraction ∧
        (∀ c ∈ whole, isAsciiDigit c = true) ∧ (∀ c ∈ fraction, isAsciiDigit c = true) ∧
        (whole ≠ [] ∨ fraction ≠ []) := by
  have hne := ne_nil_of_isPlainDecimal h
  simp only [isPlainDecimal, Bool.and_eq_true, List.all_eq_true, decide_eq_true_eq] at h
  obtain ⟨⟨hall, hcount⟩, hany⟩ := h
  by_cases hpoint : '.' ∈ text
  · obtain ⟨whole, fraction, rfl⟩ := List.append_of_mem hpoint
    simp only [List.count_append, List.count_cons_self] at hcount
    refine Or.inr ⟨whole, fraction, rfl, ?_, ?_, ?_⟩
    · exact all_digits_of_count (fun c hc => hall c (by simp [hc])) (by omega)
    · exact all_digits_of_count (fun c hc => hall c (by simp [hc])) (by omega)
    · refine Decidable.not_and_iff_not_or_not.1 ?_
      rintro ⟨rfl, rfl⟩
      exact absurd hany (by decide)
  · exact Or.inl ⟨hne, all_digits_of_count hall (List.count_eq_zero.2 hpoint)⟩

/-! ### Reading -/

/-- A row of digits is read up to the point or the end. -/
theorem digitRun_append {row : List Char} (hrow : ∀ c ∈ row, isAsciiDigit c = true)
    (rest : List Char) (hrest : ∀ c ∈ rest.head?, c = '.') (after : Bool) :
    digitRun after (row ++ rest) = (row.map (·.toNat - 48), rest) := by
  induction row generalizing after with
  | nil =>
      cases rest with
      | nil => rfl
      | cons c rest =>
          obtain rfl : c = '.' := hrest c rfl
          have hpoint : digitValue? '.' = none := by decide
          simp [digitRun, hpoint]
  | cons c row ih =>
      have hvalue := digitValue?_of_isAsciiDigit (hrow c (List.mem_cons_self ..))
      simp only [List.cons_append, digitRun, hvalue, List.map_cons]
      rw [ih fun d hd => hrow d (List.mem_cons_of_mem _ hd)]

theorem decimal?_isSome {text : List Char} (h : isPlainDecimal text = true) :
    (decimal? text).isSome = true := by
  rcases isPlainDecimal_cases h with ⟨hne, hrow⟩ | ⟨whole, fraction, rfl, hwhole, hfraction, hne⟩
  · have hrun := digitRun_append hrow [] (by simp) false
    rw [List.append_nil] at hrun
    simp [decimal?, hrun, exponentPart?, hne]
  · have hrun := digitRun_append hwhole ('.' :: fraction) (by simp) false
    have hrun' := digitRun_append hfraction [] (by simp) false
    rw [List.append_nil] at hrun'
    have hdigits : ¬ (whole = [] ∧ fraction = []) := fun hnil => hne.elim (· hnil.1) (· hnil.2)
    simp [decimal?, hrun, hrun', exponentPart?, hdigits]

/-- The words for infinity and undefined are no plain decimals. -/
theorem magnitude?_of_isPlainDecimal {text : List Char} (h : isPlainDecimal text = true) :
    magnitude? text = decimal? text := by
  have hlower : text.map Char.toLower = text := by
    rw [List.map_congr_left (g := id)
      (forall_of_isPlainDecimal (fun _ => toLower_of_isAsciiDigit) (by decide) h), List.map_id]
  have hword : ∀ word : List Char, isPlainDecimal word = false → text ≠ word :=
    fun word hword heq => by rw [heq, hword] at h; exact Bool.false_ne_true h
  unfold magnitude?
  simp only [hlower, decide_eq_false (hword "inf".toList (by decide)),
    decide_eq_false (hword "infinity".toList (by decide)),
    if_neg (hword "nan".toList (by decide)), Bool.or_self, Bool.false_eq_true, if_false]

theorem strip_eq_self {p : Char → Bool} {text : List Char} (h : ∀ c ∈ text, p c = false) :
    strip p text = text := by
  have hdrop : ∀ {row : List Char}, (∀ c ∈ row, p c = false) → row.dropWhile p = row := by
    intro row hrow
    cases row with
    | nil => rfl
    | cons c row => simp [hrow c (List.mem_cons_self ..)]
  rw [strip, hdrop h, hdrop (by simpa using h), List.reverse_reverse]

theorem signed_of_isPlainDecimal {text : List Char} (h : isPlainDecimal text = true) :
    signed text = (false, text) := by
  have hplus : '+' ∉ text := notMem_of_isPlainDecimal (by decide) (by decide) h
  have hminus : '-' ∉ text := notMem_of_isPlainDecimal (by decide) (by decide) h
  unfold signed
  split
  · exact absurd (List.mem_cons_self ..) hplus
  · exact absurd (List.mem_cons_self ..) hminus
  · rfl

/-- **Every plain decimal is read as a double.** -/
theorem ofText?_isSome {text : String} (h : isPlainDecimal text.toList = true) :
    (ofText? text).isSome = true := by
  have hblank : ∀ c ∈ text.toList, isNumberBlank c = false :=
    forall_of_isPlainDecimal (fun c hd => by simp [isNumberBlank, not_isBlank_of_isAsciiDigit hd])
      (by decide) h
  rw [ofText?, strip_eq_self hblank, signed_of_isPlainDecimal h]
  simpa [magnitude?_of_isPlainDecimal h] using decimal?_isSome h

end Calculator.Number
