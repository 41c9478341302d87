import Calculator.Proofs.Lexing.Scanning
import Mathlib.Data.List.Chain
import Mathlib.Data.List.TakeWhile

/-!
# Rows of lexemes written out

`Spelled tokens text` says no more than that a text has the texts of the tokens
in order, with any blanks or none before, between and after them.  Written
without a blank, two numbers would run together, and they are the only two
lexemes that do: a name starts with a letter that no other lexeme can end in
front of, and no lexeme starts with the `x` that would turn an `e` into a name.
So a row in which no two numbers are neighbours is found again by the scan,
whatever the blanks (`lexemes_of_spelled`).

Cleaning the text beforehand takes blanks off its ends and no more, since there
is no comma in it.
-/

namespace Calculator.Lexeme

open Calculator.Text Calculator.Number

/-- A text has the texts of the tokens in order and otherwise blanks. -/
inductive Spelled : List Token → List Char → Prop
  | nil {blanks : List Char} (hblanks : ∀ c ∈ blanks, isBlank c = true) : Spelled [] blanks
  | cons {blanks text : List Char} {token : Token} {tokens : List Token}
      (hblanks : ∀ c ∈ blanks, isBlank c = true) (hrest : Spelled tokens text) :
      Spelled (token :: tokens) (blanks ++ token.text.toList ++ text)

/-- Two tokens that do not run together. -/
def Apart (left right : Token) : Prop :=
  ¬ (left.kind = .number ∧ right.kind = .number)

/-! ### First characters -/

theorem head_of_isLexeme {token : Token} {c : Char} {rest : List Char}
    (h : token.isLexeme = true) (hchars : token.text.toList = c :: rest) :
    c ≠ 'x' ∧ (token.kind ≠ .number → isAsciiDigit c = false ∧ c ≠ '.') := by
  have key : ∀ {text : List Char}, text = c :: rest →
      (text.head?.all fun c => c != 'x' && !isAsciiDigit c && c != '.') = true →
      c ≠ 'x' ∧ isAsciiDigit c = false ∧ c ≠ '.' := by
    rintro _ rfl hall
    simpa [and_assoc] using hall
  rcases Token.isLexeme_cases h with ⟨text, rfl, htext⟩ | ⟨constant, rfl⟩ | ⟨f, rfl⟩ |
    ⟨operation, rfl⟩ | rfl | rfl | rfl
  · have hx : 'x' ∉ c :: rest := by
      rw [← hchars]
      exact notMem_of_isPlainDecimal (by decide) (by decide) htext
    refine ⟨?_, fun hkind => absurd rfl hkind⟩
    rintro rfl
    exact hx (List.mem_cons_self ..)
  · exact (key hchars (by cases constant <;> decide)).imp_right fun h _ => h
  · exact (key hchars (by cases f <;> decide)).imp_right fun h _ => h
  · exact (key hchars (by cases operation <;> decide)).imp_right fun h _ => h
  all_goals exact (key hchars (by decide)).imp_right fun h _ => h

/-- A row starts with a blank or with its first lexeme. -/
theorem head_of_spelled {tokens : List Token} {text : List Char} (h : Spelled tokens text)
    (hlexeme : ∀ token ∈ tokens, token.isLexeme = true) :
    ∀ c ∈ text.head?, isBlank c = true ∨
      ∃ token rest, token ∈ tokens.head? ∧ token.text.toList = c :: rest := by
  intro c hc
  cases h with
  | nil hblanks => exact Or.inl (hblanks c (List.mem_of_mem_head? hc))
  | @cons blanks rest token tokens hblanks hrest =>
      cases blanks with
      | nil =>
          obtain ⟨d, ds, hchars, -⟩ := exists_cons_of_isLexeme (hlexeme token (by simp))
          rw [hchars] at hc
          obtain rfl : d = c := Option.some.inj hc
          exact Or.inr ⟨token, ds, rfl, hchars⟩
      | cons d blanks =>
          obtain rfl : d = c := Option.some.inj hc
          exact Or.inl (hblanks d (List.mem_cons_self ..))

/-- A lexeme ends in front of a row whose first lexeme does not run together
with it. -/
theorem ends_of_spelled {token : Token} {tokens : List Token} {text : List Char}
    (htoken : token.isLexeme = true) (h : Spelled tokens text)
    (hlexeme : ∀ token ∈ tokens, token.isLexeme = true)
    (hapart : ∀ next ∈ tokens.head?, Apart token next) : Ends token text := by
  have hhead := head_of_spelled h hlexeme
  rcases Token.isLexeme_cases htoken with ⟨literal, rfl, -⟩ | ⟨constant, rfl⟩ | ⟨f, rfl⟩ |
    ⟨operation, rfl⟩ | rfl | rfl | rfl
  · intro c hc
    rcases hhead c hc with hblank | ⟨next, rest, hnext, hchars⟩
    · have hdigit : isAsciiDigit c = false := Bool.eq_false_iff.2 fun hdigit =>
        absurd hblank (by simp [not_isBlank_of_isAsciiDigit hdigit])
      exact ⟨hdigit, by rintro rfl; exact absurd hblank (by decide)⟩
    · have hfirst := head_of_isLexeme (hlexeme next (List.mem_of_mem_head? hnext)) hchars
      obtain ⟨hdigit, hpoint⟩ := hfirst.2 fun hkind => hapart next hnext ⟨rfl, hkind⟩
      exact ⟨hdigit, fun heq => absurd heq hpoint⟩
  · have hx : ∀ c ∈ text.head?, c ≠ 'x' := by
      intro c hc
      rcases hhead c hc with hblank | ⟨next, rest, hnext, hchars⟩
      · rintro rfl
        exact absurd hblank (by decide)
      · exact (head_of_isLexeme (hlexeme next (List.mem_of_mem_head? hnext)) hchars).1
    cases constant with
    | pi => exact function?_eq_none_of_head (fun f => by cases f <;> decide) text
    | e => exact function?_e hx
  all_goals trivial

theorem scans_of_spelled {tokens : List Token} {text : List Char} (h : Spelled tokens text)
    (hlexeme : ∀ token ∈ tokens, token.isLexeme = true) (hapart : tokens.IsChain Apart) :
    Scans tokens text := by
  induction h with
  | nil hblanks => exact .nil hblanks
  | @cons blanks text token tokens hblanks hrest ih =>
      have htail : ∀ next ∈ tokens, next.isLexeme = true :=
        fun next hnext => hlexeme next (List.mem_cons_of_mem _ hnext)
      obtain ⟨hnext, hchain⟩ := List.isChain_cons.1 hapart
      have htoken := hlexeme token (List.mem_cons_self ..)
      exact .cons hblanks htoken (ends_of_spelled htoken hrest htail hnext) (ih htail hchain)

/-! ### Cleaning -/

theorem dropWhile_append_of_head {p : Char → Bool} {left right : List Char}
    (h : ∀ c ∈ right.head?, p c = false) :
    (left ++ right).dropWhile p = left.dropWhile p ++ right := by
  induction left with
  | nil =>
      cases right with
      | nil => rfl
      | cons c right => simp [h c rfl]
  | cons c left ih =>
      by_cases hc : p c = true
      · simp [hc, ih]
      · simp [hc]

theorem spelled_strip {tokens : List Token} {text : List Char} (h : Spelled tokens text)
    (hlexeme : ∀ token ∈ tokens, token.isLexeme = true) :
    Spelled tokens (strip isBlank text) := by
  -- blanks at the front belong to the first lexeme alone, those at the end to the last
  have hfront : Spelled tokens (text.dropWhile isBlank) := by
    cases h with
    | nil hblanks =>
        rw [List.dropWhile_eq_nil_iff.2 hblanks]
        exact .nil (by simp)
    | @cons blanks text token tokens hblanks hrest =>
        obtain ⟨c, cs, hchars, hc⟩ := exists_cons_of_isLexeme (hlexeme token (by simp))
        rw [List.append_assoc, List.dropWhile_append_of_pos hblanks, hchars, List.cons_append,
          List.dropWhile_cons_of_neg (by simp [hc]), ← List.cons_append, ← hchars]
        exact @Spelled.cons [] _ _ _ (by simp) hrest
  unfold strip
  generalize text.dropWhile isBlank = rest at hfront
  clear h
  induction hfront with
  | nil hblanks =>
      rw [List.dropWhile_eq_nil_iff.2 (by simpa using hblanks)]
      exact .nil (by simp)
  | @cons blanks text token tokens hblanks hrest ih =>
      have hlast : ∀ c ∈ (blanks ++ token.text.toList).reverse.head?, isBlank c = false := by
        intro c hc
        obtain ⟨d, ds, hchars, -⟩ := exists_cons_of_isLexeme (hlexeme token (by simp))
        refine (not_isBlank_of_isLexeme (hlexeme token (by simp)) c ?_).1
        rw [List.head?_reverse, List.getLast?_append_of_ne_nil _ (by simp [hchars])] at hc
        exact List.mem_of_getLast? hc
      rw [List.reverse_append, dropWhile_append_of_head hlast, List.reverse_append,
        List.reverse_reverse]
      exact .cons hblanks (ih fun next hnext => hlexeme next (List.mem_cons_of_mem _ hnext))

theorem comma_notMem_of_spelled {tokens : List Token} {text : List Char} (h : Spelled tokens text)
    (hlexeme : ∀ token ∈ tokens, token.isLexeme = true) : ',' ∉ text := by
  have hblank : ∀ {blanks : List Char}, (∀ c ∈ blanks, isBlank c = true) → ',' ∉ blanks :=
    fun hblanks hmem => absurd (hblanks ',' hmem) (by decide)
  induction h with
  | nil hblanks => exact hblank hblanks
  | @cons blanks text token tokens hblanks hrest ih =>
      simp only [List.mem_append, not_or]
      refine ⟨⟨hblank hblanks, fun hmem => ?_⟩, ih fun next hnext => hlexeme next (by simp [hnext])⟩
      exact (not_isBlank_of_isLexeme (hlexeme token (by simp)) ',' hmem).2 rfl

/-- A row of lexemes has no comma to be left out. -/
theorem filter_comma_of_spelled {tokens : List Token} {text : List Char} (h : Spelled tokens text)
    (hlexeme : ∀ token ∈ tokens, token.isLexeme = true) : text.filter (· != ',') = text := by
  rw [List.filter_eq_self]
  intro c hc
  exact bne_iff_ne.2 fun heq => comma_notMem_of_spelled h hlexeme (heq ▸ hc)

theorem spelled_sanitize {tokens : List Token} {text : String} (h : Spelled tokens text.toList)
    (hlexeme : ∀ token ∈ tokens, token.isLexeme = true) :
    Spelled tokens (sanitize (some text)).toList := by
  rw [sanitize, filter_comma_of_spelled h hlexeme, String.toList_ofList]
  exact spelled_strip h hlexeme

/-- **A row of lexemes written out is found again,** if no two numbers are
neighbours in it. -/
theorem lexemes_of_spelled {tokens : List Token} {text : String} (h : Spelled tokens text.toList)
    (hlexeme : ∀ token ∈ tokens, token.isLexeme = true) (hapart : tokens.IsChain Apart) :
    lexemes (some text) = .ok tokens :=
  readFrom_eq_ok_iff.2 (scans_of_spelled (spelled_sanitize h hlexeme) hlexeme hapart)

end Calculator.Lexeme
