import Calculator.Proofs.Lexing.Spelling

/-!
# Texts put together

The scan of one text after another finds the lexemes of both, unless the second
starts with a character that the last lexeme of the first goes on with.  Only
numbers and the constant `e` go on at all, so blanks, parentheses, bars and
operators keep any two texts apart (`Scans.append`).

The blanks that cleaning takes off the ends of a text are passed over by the
scan anyway.  So the lexemes of an expression are those that its text without
commas is a row of (`lexemes_eq_ok_iff`), and nothing later needs to look at
what cleaning does.
-/

namespace Calculator.Lexeme

open Calculator.Text Calculator.Number

variable {token : Token} {tokens : List Token} {text blanks : List Char}

/-- No lexeme goes on with the character. -/
def Parts (c : Char) : Prop :=
  isAsciiDigit c = false ∧ c ≠ '.' ∧ c ≠ 'x'

theorem parts_of_isBlank {c : Char} (h : isBlank c = true) : Parts c := by
  refine ⟨Bool.eq_false_iff.2 fun hdigit => ?_, ?_, ?_⟩
  · rw [not_isBlank_of_isAsciiDigit hdigit] at h
    exact Bool.false_ne_true h
  · rintro rfl
    exact absurd h (by decide)
  · rintro rfl
    exact absurd h (by decide)

/-! ### Where a lexeme ends -/

theorem ends_of_parts (hlexeme : token.isLexeme = true) (h : ∀ c ∈ text.head?, Parts c) :
    Ends token text := by
  rcases Token.isLexeme_cases hlexeme with ⟨literal, rfl, -⟩ | ⟨constant, rfl⟩ | ⟨f, rfl⟩ |
    ⟨operation, rfl⟩ | rfl | rfl | rfl
  · exact fun c hc => ⟨(h c hc).1, fun heq => absurd heq (h c hc).2.1⟩
  · cases constant with
    | pi => exact function?_eq_none_of_head (fun f => by cases f <;> decide) text
    | e => exact function?_e fun c hc => (h c hc).2.2
  all_goals trivial

theorem head_of_scans (h : Scans tokens text) : ∀ c ∈ text.head?, c ≠ 'x' := by
  intro c hc
  cases h with
  | nil hblanks =>
      rintro rfl
      exact absurd (hblanks 'x' (List.mem_of_mem_head? hc)) (by decide)
  | @cons blanks rest token tokens hblanks hlexeme hends hrest =>
      cases blanks with
      | nil =>
          obtain ⟨d, ds, hchars, -⟩ := exists_cons_of_isLexeme hlexeme
          rw [hchars] at hc
          obtain rfl : d = c := Option.some.inj hc
          exact (head_of_isLexeme hlexeme hchars).1
      | cons d blanks =>
          obtain rfl : d = c := Option.some.inj hc
          rintro rfl
          exact absurd (hblanks 'x' (List.mem_cons_self ..)) (by decide)

/-- A lexeme that ends in front of a row still does when another text follows. -/
theorem ends_append {rest : List Char} (hlexeme : token.isLexeme = true)
    (hends : Ends token text) (hrow : Scans tokens text) (hparts : ∀ c ∈ rest.head?, Parts c) :
    Ends token (text ++ rest) := by
  cases text with
  | nil => exact ends_of_parts hlexeme hparts
  | cons c text =>
      have hx : ∀ d ∈ (c :: text).head?, d ≠ 'x' := head_of_scans hrow
      rcases Token.isLexeme_cases hlexeme with ⟨literal, rfl, -⟩ | ⟨constant, rfl⟩ | ⟨f, rfl⟩ |
        ⟨operation, rfl⟩ | rfl | rfl | rfl
      · exact hends
      · cases constant with
        | pi => exact function?_eq_none_of_head (fun f => by cases f <;> decide) _
        | e => exact function?_e hx
      all_goals trivial

theorem ends_of_append {rest : List Char} (h : Ends token (text ++ rest)) : Ends token text := by
  unfold Ends at h ⊢
  split at h
  · next hkind =>
      intro c hc
      exact h c (by rw [List.head?_append, hc, Option.some_or]; rfl)
  · next hkind =>
      cases hfound : function? (token.text.toList ++ text) with
      | none => rfl
      | some f =>
          -- a name at the front of the shorter text is there in the longer one
          obtain ⟨more, hmore⟩ := prefix_of_function? hfound
          rw [← List.append_assoc, hmore, List.append_assoc, function?_append] at h
          cases h
  all_goals trivial

/-! ### One text after another -/

theorem scans_blanks (hblanks : ∀ c ∈ blanks, isBlank c = true) :
    Scans tokens (blanks ++ text) ↔ Scans tokens text := by
  rw [← @readFrom_eq_ok_iff 0, readFrom_blanks hblanks, readFrom_eq_ok_iff]

/-- **Two rows, one after the other,** if the second starts with a character that
keeps them apart. -/
theorem Scans.append {left right : List Token} {rest : List Char} (hleft : Scans left text)
    (hright : Scans right rest) (hparts : ∀ c ∈ rest.head?, Parts c) :
    Scans (left ++ right) (text ++ rest) := by
  induction hleft with
  | nil hblanks => exact (scans_blanks hblanks).2 hright
  | cons hblanks hlexeme hends hrow ih =>
      rw [List.append_assoc]
      exact .cons hblanks hlexeme (ends_append hlexeme hends hrow hparts) ih

/-- A lexeme in front of a row, if the row starts with a character that keeps it
apart. -/
theorem Scans.lexeme (hlexeme : token.isLexeme = true) (hrow : Scans tokens text)
    (hparts : ∀ c ∈ text.head?, Parts c) : Scans (token :: tokens) (token.text.toList ++ text) :=
  @Scans.cons [] _ _ _ (List.forall_mem_nil _) hlexeme (ends_of_parts hlexeme hparts) hrow

/-- A row that starts with the characters of its first lexeme. -/
theorem scans_lexeme_iff : Scans (token :: tokens) (token.text.toList ++ text) ↔
    token.isLexeme = true ∧ Ends token text ∧ Scans tokens text := by
  constructor
  · intro h
    generalize hwhole : token.text.toList ++ text = whole at h
    cases h with
    | @cons blanks rest _ _ hblanks hlexeme hends hrest =>
        obtain ⟨c, cs, hchars, hc⟩ := exists_cons_of_isLexeme hlexeme
        cases blanks with
        | nil =>
            obtain rfl : text = rest := List.append_cancel_left hwhole
            exact ⟨hlexeme, hends, hrest⟩
        | cons d blanks =>
            rw [hchars] at hwhole
            obtain rfl : c = d := (List.cons.inj hwhole).1
            rw [hblanks c (List.mem_cons_self ..)] at hc
            cases hc
  · rintro ⟨hlexeme, hends, hrest⟩
    exact @Scans.cons [] _ _ _ (List.forall_mem_nil _) hlexeme hends hrest

/-- **A row parted between two of its lexemes** is two rows. -/
theorem Scans.parted {before after : List Token} {front rest : List Char}
    (h : Scans (before ++ after) (front ++ rest)) (hbefore : Spelled before front) :
    Scans before front ∧ Scans after rest := by
  induction hbefore with
  | nil hblanks => exact ⟨.nil hblanks, (scans_blanks hblanks).1 h⟩
  | @cons blanks front token before hblanks _ ih =>
      rw [List.append_assoc, List.append_assoc] at h
      obtain ⟨hlexeme, hends, hmore⟩ := scans_lexeme_iff.1 ((scans_blanks hblanks).1 h)
      obtain ⟨hfront, hrest⟩ := ih hmore
      exact ⟨.cons hblanks hlexeme (ends_of_append hends) hfront, hrest⟩

/-- A lexeme does not reach into the blanks at the end. -/
theorem eq_append_of_append_blanks {front rest : List Char} (hlexeme : token.isLexeme = true)
    (hblanks : ∀ c ∈ blanks, isBlank c = true)
    (h : text ++ blanks = front ++ token.text.toList ++ rest) :
    ∃ more, text = front ++ token.text.toList ++ more ∧ rest = more ++ blanks := by
  rcases List.append_eq_append_iff.1 h with ⟨reach, hreach, hrest⟩ | hmore
  · rcases List.eq_nil_or_concat reach with rfl | ⟨init, c, rfl⟩
    · exact ⟨[], by simpa using hreach.symm, by simpa using hrest.symm⟩
    · have hblank : isBlank c = true := hblanks c (by simp [hrest])
      -- the last character of the lexeme is the last one of what it reaches into
      obtain ⟨d, ds, hchars, -⟩ := exists_cons_of_isLexeme hlexeme
      have hlast := congrArg List.getLast? hreach
      rw [List.getLast?_append_of_ne_nil _ (by simp [hchars]), List.concat_eq_append,
        ← List.append_assoc, List.getLast?_concat] at hlast
      have hnot := (not_isBlank_of_isLexeme hlexeme c (List.mem_of_getLast? hlast)).1
      rw [hblank] at hnot
      exact absurd hnot (by decide)
  · exact hmore

/-- Blanks at the end of a row belong to no lexeme. -/
theorem scans_of_append_blanks (hblanks : ∀ c ∈ blanks, isBlank c = true)
    (h : Scans tokens (text ++ blanks)) : Scans tokens text := by
  generalize hwhole : text ++ blanks = whole at h
  induction h generalizing text with
  | nil hall => exact .nil fun c hc => hall c (hwhole ▸ List.mem_append_left _ hc)
  | @cons front rest token tokens hfront hlexeme hends hrow ih =>
      obtain ⟨more, rfl, rfl⟩ := eq_append_of_append_blanks hlexeme hblanks hwhole
      exact .cons hfront hlexeme (ends_of_append hends) (ih rfl)

/-! ### Cleaning -/

/-- What is stripped behind. -/
theorem exists_dropWhile_eq_strip (p : Char → Bool) (text : List Char) :
    ∃ back, text.dropWhile p = strip p text ++ back ∧ ∀ c ∈ back, p c = true := by
  refine ⟨((text.dropWhile p).reverse.takeWhile p).reverse, ?_,
    fun c hc => List.mem_takeWhile_imp (List.mem_reverse.1 hc)⟩
  rw [strip, ← List.reverse_append, List.takeWhile_append_dropWhile, List.reverse_reverse]

theorem exists_blanks_around (p : Char → Bool) (text : List Char) :
    ∃ front back, text = front ++ (strip p text ++ back) ∧ (∀ c ∈ front, p c = true) ∧
      ∀ c ∈ back, p c = true := by
  obtain ⟨back, hback, hall⟩ := exists_dropWhile_eq_strip p text
  refine ⟨text.takeWhile p, back, ?_, fun c hc => List.mem_takeWhile_imp hc, hall⟩
  rw [← hback, List.takeWhile_append_dropWhile]

theorem scans_strip : Scans tokens (strip isBlank text) ↔ Scans tokens text := by
  obtain ⟨front, back, htext, hfront, hback⟩ := exists_blanks_around isBlank text
  have hparts : ∀ c ∈ back.head?, Parts c :=
    fun c hc => parts_of_isBlank (hback c (List.mem_of_mem_head? hc))
  constructor
  · intro h
    have hrow := h.append (.nil hback) hparts
    rw [List.append_nil] at hrow
    rw [htext]
    exact (scans_blanks hfront).2 hrow
  · intro h
    rw [htext] at h
    exact scans_of_append_blanks hback ((scans_blanks hfront).1 h)

/-- **The lexemes of an expression** are those that its text without commas is a
row of. -/
theorem lexemes_eq_ok_iff {text : String} :
    lexemes (some text) = .ok tokens ↔ Scans tokens (text.toList.filter (· != ',')) := by
  rw [lexemes, readFrom_eq_ok_iff, sanitize, String.toList_ofList, scans_strip]

theorem spelled_of_scans (h : Scans tokens text) : Spelled tokens text := by
  induction h with
  | nil hblanks => exact .nil hblanks
  | cons hblanks hlexeme hends hrest ih => exact .cons hblanks ih

theorem lexemes_of_scans {text : String} (h : Scans tokens text.toList) :
    lexemes (some text) = .ok tokens := by
  have hcomma := filter_comma_of_spelled (spelled_of_scans h) (isLexeme_of_scans h)
  rwa [lexemes_eq_ok_iff, hcomma]

end Calculator.Lexeme
