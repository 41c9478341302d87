import Calculator.Proofs.Lexing.Unreadable

/-!
# Characters that are in no lexeme

No lexeme goes over a character that is foreign to all of them.  So the lexemes in front of
such a character are the longest ones whatever stands behind it, the scan comes to it as it
would come to the end (`Reached.append`), and a character that it is stuck at in front of it
is still there (`Stuck.append`).

If the foreign character is no separator either, the scan goes no further.  What a text
comes to is settled by what stands in front of its first such character
(`lexemes_append_foreign`).  All characters outside of ASCII are foreign but one, the symbol
of a constant.
-/

namespace Calculator

open Calculator.Text Calculator.Lexeme

variable {token : Token} {text front rest : List Char} {position : Nat} {c d : Char}

/-! ### Stripping -/

namespace Text

variable {p : Char → Bool}

/-- A character that is not stripped keeps what stands in front of it. -/
theorem exists_strip_append (front rest : List Char) (hc : p c = false) :
    ∃ more, strip p (front ++ c :: rest) = front.dropWhile p ++ c :: more := by
  have hfront : (front ++ c :: rest).dropWhile p = front.dropWhile p ++ c :: rest := by
    rw [List.dropWhile_append, List.dropWhile_cons_of_neg (by simp [hc])]
    split
    · next hnil => rw [List.isEmpty_iff.1 hnil, List.nil_append]
    · rfl
  refine ⟨(rest.reverse.dropWhile p).reverse, ?_⟩
  rw [strip, hfront, List.reverse_append, List.reverse_cons, List.append_assoc,
    List.dropWhile_append]
  split
  · next hnil => simp [List.isEmpty_iff.1 hnil, hc]
  · simp

end Text

/-! ### The scan up to a foreign character -/

namespace Lexeme

/-- The character is in no lexeme. -/
def Foreign (c : Char) : Prop :=
  ∀ token : Token, token.isLexeme = true → c ∉ token.text.toList

theorem foreign_of_isBlank (h : isBlank c = true) : Foreign c := by
  intro token hlexeme hmem
  rw [(not_isBlank_of_isLexeme hlexeme c hmem).1] at h
  cases h

/-- Lexemes are written in ASCII, but for one constant. -/
theorem ascii_of_isLexeme (h : token.isLexeme = true) :
    ∀ d ∈ token.text.toList, d.toNat < 0x80 ∨ d = 'π' := by
  have hall : token.text.toList.all (fun d => decide (d.toNat < 0x80 ∨ d = 'π')) = true := by
    rcases Token.isLexeme_cases h with ⟨literal, rfl, hliteral⟩ | ⟨constant, rfl⟩ |
      ⟨f, rfl⟩ | ⟨operation, rfl⟩ | rfl | rfl | rfl
    · rw [List.all_eq_true]
      refine Number.forall_of_isPlainDecimal (fun d hd => ?_) (by decide) hliteral
      have hrange := Number.isAsciiDigit_iff.1 hd
      exact decide_eq_true (Or.inl (by omega))
    · cases constant <;> decide
    · cases f <;> decide
    · cases operation <;> decide
    · decide
    · decide
    · decide
  exact fun d hd => of_decide_eq_true (List.all_eq_true.1 hall d hd)

theorem foreign_of_not_ascii (h : 0x80 ≤ c.toNat) (hpi : c ≠ 'π') : Foreign c := by
  intro token hlexeme hmem
  rcases ascii_of_isLexeme hlexeme c hmem with hascii | rfl
  · exact absurd h (Nat.not_le.2 hascii)
  · exact hpi rfl

theorem Foreign.ne_point (h : Foreign c) : c ≠ '.' := by
  rintro rfl
  exact h ⟨.number, "1."⟩ (by decide) (by decide)

theorem starts_append_iff (hforeign : Foreign c) :
    Starts token (text ++ c :: rest) ↔ Starts token text := by
  constructor
  · rintro ⟨hlexeme, hfront⟩
    refine ⟨hlexeme, ?_⟩
    rcases List.prefix_or_prefix_of_prefix hfront (List.prefix_append text (c :: rest)) with
      hwithin | ⟨more, hmore⟩
    · exact hwithin
    · -- a lexeme that went further would go over the character
      rw [← hmore, List.prefix_append_right_inj] at hfront
      rcases List.prefix_cons_iff.1 hfront with rfl | ⟨tail, rfl, -⟩
      · rw [List.append_nil] at hmore
        exact hmore ▸ List.prefix_rfl
      · exact absurd (hmore ▸ List.mem_append_right _ (List.mem_cons_self ..))
          (hforeign token hlexeme)
  · rintro ⟨hlexeme, hfront⟩
    exact ⟨hlexeme, hfront.trans (List.prefix_append _ _)⟩

theorem Longest.append (h : Longest token text) (hforeign : Foreign c) :
    Longest token (text ++ c :: rest) :=
  ⟨(starts_append_iff hforeign).2 h.toStarts,
    fun other hother => h.most other ((starts_append_iff hforeign).1 hother)⟩

/-- **A position is reached whatever stands behind a foreign character.** -/
theorem Reached.append (h : Reached text position) (hforeign : Foreign c) :
    Reached (text ++ c :: rest) position := by
  induction h with
  | start => exact .start
  | @blank position d h hd hblank ih =>
      obtain ⟨hposition, -⟩ := List.getElem?_eq_some_iff.1 hd
      refine ih.blank ?_ hblank
      rw [List.getElem?_append_left hposition, hd]
  | @lexeme position token h hlongest ih =>
      have hle := hlongest.toStarts.le_length
      refine ih.lexeme ?_
      rw [List.drop_append_of_le_length (by omega)]
      exact hlongest.append hforeign

theorem Stuck.append (h : Stuck text position d) (hforeign : Foreign c) :
    Stuck (text ++ c :: rest) position d := by
  have hlt := h.lt_length
  refine ⟨?_, h.blank, fun token hstarts => h.lexeme token ?_⟩
  · rw [List.getElem?_append_left hlt, h.here]
  · rw [List.drop_append_of_le_length hlt.le] at hstarts
    exact (starts_append_iff hforeign).1 hstarts

/-- The scan goes over blanks. -/
theorem Reached.blanks {blanks : List Char} (h : Reached (front ++ blanks ++ rest) front.length)
    (hblanks : ∀ c ∈ blanks, isBlank c = true) :
    Reached (front ++ blanks ++ rest) (front ++ blanks).length := by
  induction blanks generalizing front with
  | nil => simpa using h
  | cons c blanks ih =>
      obtain ⟨hc, hmore⟩ := List.forall_mem_cons.1 hblanks
      have hhere : (front ++ c :: blanks ++ rest)[front.length]? = some c := by simp
      have hnext := h.blank hhere hc
      rw [List.append_cons] at hnext ⊢
      exact ih (by simpa using hnext) hmore

/-- Where a foreign character stands that is no blank, the scan is stuck. -/
theorem stuck_foreign (hforeign : Foreign c) (hblank : isBlank c = false) :
    Stuck (front ++ c :: rest) front.length c := by
  refine ⟨by simp, hblank, fun token hstarts => ?_⟩
  rw [List.drop_left, ← List.nil_append (c :: rest)] at hstarts
  have hnil := (starts_append_iff hforeign).1 hstarts
  obtain ⟨d, more, hchars, -⟩ := exists_cons_of_isLexeme hnil.lexeme
  have hnone := List.prefix_nil.1 hnil.front
  rw [hchars] at hnone
  cases hnone

/-- **The scan up to a foreign character** is that of what stands in front of it, but for
blanks. -/
theorem readFrom_append_foreign {blanks : List Char} (hforeign : Foreign c)
    (hblank : isBlank c = false) (hblanks : ∀ d ∈ blanks, isBlank d = true) (start : Nat) :
    readFrom start (front ++ blanks ++ c :: rest) =
      (readFrom start front).bind fun _ =>
        .error (.fault (.invalidCharacter c (start + (front ++ blanks).length))) := by
  -- what comes right behind the front is foreign too, be it a blank or the character
  have hnext : ∃ d more, Foreign d ∧ front ++ blanks ++ c :: rest = front ++ d :: more := by
    cases blanks with
    | nil => exact ⟨c, rest, hforeign, by simp⟩
    | cons d blanks =>
        have hd := foreign_of_isBlank (hblanks d (List.mem_cons_self ..))
        exact ⟨d, blanks ++ c :: rest, hd, by simp⟩
  obtain ⟨d, more, hd, htext⟩ := hnext
  rcases readFrom_cases start front with
    ⟨hreached, tokens, htokens⟩ | ⟨position, e, hreached, hstuck, hfault⟩
  · have hfront : Reached (front ++ blanks ++ c :: rest) front.length := by
      rw [htext]
      exact hreached.append hd
    have hfails := readFrom_of_stuck (hfront.blanks hblanks) (stuck_foreign hforeign hblank) start
    rw [unreadable, if_neg hforeign.ne_point] at hfails
    rw [hfails, htokens]
    rfl
  · rw [htext, readFrom_of_stuck (hreached.append hd) (hstuck.append hd) start, hfault]
    rfl

end Lexeme

/-- **A foreign character stops the scan of an expression,** unless something in front of it
does.  Its position is that in the cleaned text. -/
theorem lexemes_append_foreign (hforeign : Foreign c) (hblank : isBlank c = false)
    (hcomma : c ≠ ',') (front rest : List Char) :
    lexemes (some (String.ofList (front ++ c :: rest))) =
      (lexemes (some (String.ofList front))).bind fun _ =>
        .error (.fault
          (.invalidCharacter c ((front.filter (· != ',')).dropWhile isBlank).length)) := by
  have hfilter : (front ++ c :: rest).filter (· != ',') =
      front.filter (· != ',') ++ c :: rest.filter (· != ',') := by
    rw [List.filter_append, List.filter_cons_of_pos (by simpa using hcomma)]
  obtain ⟨more, hmore⟩ :=
    exists_strip_append (front.filter (· != ',')) (rest.filter (· != ',')) hblank
  obtain ⟨blanks, hfront, hblanks⟩ :=
    exists_dropWhile_eq_strip isBlank (front.filter (· != ','))
  simp only [lexemes, sanitize, String.toList_ofList]
  rw [hfilter, hmore, hfront, readFrom_append_foreign hforeign hblank hblanks, Nat.zero_add]

end Calculator
