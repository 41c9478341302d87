import Calculator.Proofs.Lexing.Cleaning
import Calculator.Proofs.Outcome

/-!
# Where the scan stops

The scan takes the longest lexeme everywhere (`first?_eq_some_iff_longest`), so the
positions that it comes to can be told without it: `Reached` starts at the front and goes on
over blanks and longest lexemes.  The last position reached is the end of the text, or one
where neither a blank nor a lexeme stands (`exists_last`).  In the first case there are
tokens, in the second a fault that tells the position.

The text in front of that position is read again when it stands alone, and then it ends
where it did not end before.  This does not matter: a lexeme in front of the cut was the
longest of all that started at its place, so it still is among those that the cut has left
(`Longest.take`), and every position is reached as before (`Reached.take`).
-/

namespace Calculator

open Calculator.Text Calculator.Number Calculator.Lexeme

namespace Lexeme

variable {token other : Token} {text rest : List Char} {position : Nat} {c : Char}

/-- A lexeme starts at the front of a text. -/
structure Starts (token : Token) (text : List Char) : Prop where
  lexeme : token.isLexeme = true
  front : token.text.toList <+: text

/-- A lexeme starts at the front of a text, and no longer one does. -/
structure Longest (token : Token) (text : List Char) : Prop extends Starts token text where
  most : ∀ other, Starts other text → other.text.length ≤ token.text.length

/-- The positions of a text that one comes to by passing over blanks and taking the longest
lexeme everywhere else. -/
inductive Reached (text : List Char) : Nat → Prop
  | start : Reached text 0
  | blank {position : Nat} {c : Char} (h : Reached text position)
      (hc : text[position]? = some c) (hblank : isBlank c = true) : Reached text (position + 1)
  | lexeme {position : Nat} {token : Token} (h : Reached text position)
      (hlongest : Longest token (text.drop position)) :
      Reached text (position + token.text.length)

/-- The character at a position is no blank, and no lexeme starts with it. -/
structure Stuck (text : List Char) (position : Nat) (c : Char) : Prop where
  here : text[position]? = some c
  blank : isBlank c = false
  lexeme : ∀ token, ¬ Starts token (text.drop position)

/-! ### The longest lexeme -/

/-- The scan of a number goes over every plain decimal that it starts with. -/
theorem prefix_digits (pointed : Bool) {literal : List Char}
    (hall : ∀ d ∈ literal, (isAsciiDigit d || decide (d = '.')) = true)
    (hcount : literal.count '.' + pointed.toNat ≤ 1) :
    literal <+: digits pointed (literal ++ rest) := by
  induction literal generalizing pointed with
  | nil => exact List.nil_prefix
  | cons d literal ih =>
      obtain ⟨hfirst, hmore⟩ := List.forall_mem_cons.1 hall
      by_cases hpoint : d = '.'
      · subst hpoint
        rw [List.count_cons_self] at hcount
        obtain rfl : pointed = false := by
          cases pointed with
          | false => rfl
          | true => simp only [Bool.toNat_true] at hcount; omega
        have htail : literal <+: digits true (literal ++ rest) := by
          apply ih true hmore
          simp only [Bool.toNat_true]
          omega
        simpa [digits] using htail
      · have hdigit : isAsciiDigit d = true := by simpa [hpoint] using hfirst
        rw [List.count_cons_of_ne hpoint] at hcount
        simpa [digits, hdigit] using ih pointed hmore hcount

theorem exists_first?_of_number {literal : String} (h : isPlainDecimal literal.toList = true)
    (hfront : literal.toList <+: text) :
    ∃ found, first? text = some found ∧ literal.length ≤ found.text.length := by
  obtain ⟨rest, rfl⟩ := hfront
  have hall := forall_of_isPlainDecimal (p := fun d => (isAsciiDigit d || decide (d = '.')) = true)
    (fun d hd => by rw [hd]; rfl) (by decide) h
  have hcount : literal.toList.count '.' ≤ 1 := by
    simp only [isPlainDecimal, Bool.and_eq_true, decide_eq_true_eq] at h
    exact h.1.2
  have hdigits : literal.toList <+: digits false (literal.toList ++ rest) := by
    apply prefix_digits false hall
    simpa using hcount
  -- nothing but a point on its own is refused, and a decimal has a digit
  have hpoint : digits false (literal.toList ++ rest) ≠ ['.'] := by
    intro heq
    rw [heq] at hdigits
    rcases List.prefix_cons_iff.1 hdigits with hnil | ⟨more, hmore, hprefix⟩
    · exact ne_nil_of_isPlainDecimal h hnil
    · rw [hmore, List.prefix_nil.1 hprefix] at h
      exact absurd h (by decide)
  have hlength := hdigits.length_le
  cases hchars : literal.toList with
  | nil => exact absurd hchars (ne_nil_of_isPlainDecimal h)
  | cons d ds =>
      rw [hchars] at hall hpoint hlength
      refine ⟨⟨.number, String.ofList (digits false (d :: ds ++ rest))⟩, ?_, ?_⟩
      · rw [List.cons_append, first?_of_number (hall d (List.mem_cons_self ..)),
          ← List.cons_append, if_neg hpoint]
      · rw [← String.length_toList, hchars, ← String.length_toList, String.toList_ofList]
        exact hlength

/-- Where a lexeme starts the scan finds one, and none that is shorter. -/
theorem exists_first?_of_starts (h : Starts token text) :
    ∃ found, first? text = some found ∧ token.text.length ≤ found.text.length := by
  obtain ⟨hlexeme, hfront⟩ := h
  rcases Token.isLexeme_cases hlexeme with ⟨literal, rfl, hliteral⟩ | ⟨constant, rfl⟩ | hother
  · exact exists_first?_of_number hliteral hfront
  · obtain ⟨rest, rfl⟩ := hfront
    cases hname : function? (constant.symbol.toList ++ rest) with
    | none => exact ⟨_, first?_append hlexeme hname, le_rfl⟩
    | some f =>
        obtain ⟨more, hmore⟩ := prefix_of_function? hname
        refine ⟨⟨.function, f.name⟩, ?_, ?_⟩
        · show first? (constant.symbol.toList ++ rest) = _
          rw [hmore]
          exact first?_append_of_function f more
        · have hsymbol : constant.symbol.length = 1 := by cases constant <;> rfl
          have hlength : 1 ≤ f.name.length := by cases f <;> decide
          exact hsymbol.le.trans hlength
  · obtain ⟨rest, rfl⟩ := hfront
    have hends : Ends token rest := by
      rcases hother with ⟨f, rfl⟩ | ⟨operation, rfl⟩ | rfl | rfl | rfl <;> trivial
    exact ⟨token, first?_append hlexeme hends, le_rfl⟩

theorem longest_of_first? (h : first? text = some token) : Longest token text := by
  obtain ⟨hlexeme, rest, htext, -⟩ := first?_eq_some_iff.1 h
  refine ⟨⟨hlexeme, rest, htext.symm⟩, fun other hother => ?_⟩
  obtain ⟨found, hfound, hlength⟩ := exists_first?_of_starts hother
  obtain rfl : token = found := Option.some.inj (h.symm.trans hfound)
  exact hlength

/-- No two lexemes are written alike. -/
theorem eq_of_text_eq (h : token.isLexeme = true) (hother : other.isLexeme = true)
    (htext : token.text = other.text) : token = other := by
  have hends : ∀ {token : Token}, token.isLexeme = true → Ends token [] :=
    fun hlexeme => ends_of_parts hlexeme fun c hc => nomatch hc
  have hfirst := first?_append h (hends h)
  rw [htext, first?_append hother (hends hother)] at hfirst
  exact (Option.some.inj hfirst).symm

/-- **The scan takes the longest lexeme.** -/
theorem first?_eq_some_iff_longest : first? text = some token ↔ Longest token text := by
  refine ⟨longest_of_first?, fun h => ?_⟩
  obtain ⟨found, hfound, hlength⟩ := exists_first?_of_starts h.toStarts
  have hlongest := longest_of_first? hfound
  have hsame : token.text.toList.length = found.text.toList.length := by
    rw [String.length_toList, String.length_toList]
    exact le_antisymm hlength (h.most found hlongest.toStarts)
  have hfront : token.text.toList <+: found.text.toList :=
    List.prefix_of_prefix_length_le h.front hlongest.front hsame.le
  have htext : token.text = found.text := String.toList_inj.1 (hfront.eq_of_length hsame)
  rw [hfound, eq_of_text_eq h.lexeme hlongest.lexeme htext]

theorem first?_eq_none_iff : first? text = none ↔ ∀ token, ¬ Starts token text := by
  constructor
  · intro h token hstarts
    obtain ⟨found, hfound, -⟩ := exists_first?_of_starts hstarts
    rw [h] at hfound
    cases hfound
  · intro h
    cases hfound : first? text with
    | none => rfl
    | some token => exact absurd (longest_of_first? hfound).toStarts (h token)

/-! ### Positions reached -/

theorem drop_of_getElem? (hc : text[position]? = some c) :
    text.drop position = c :: text.drop (position + 1) := by
  obtain ⟨hposition, rfl⟩ := List.getElem?_eq_some_iff.1 hc
  exact List.drop_eq_getElem_cons hposition

theorem length_pos_of_isLexeme (h : token.isLexeme = true) : 0 < token.text.length := by
  obtain ⟨c, rest, hchars, -⟩ := exists_cons_of_isLexeme h
  rw [← String.length_toList, hchars]
  exact Nat.succ_pos _

/-- What is left behind a lexeme. -/
theorem Starts.drop_eq (h : Starts token (text.drop position)) :
    text.drop position = token.text.toList ++ text.drop (position + token.text.length) := by
  obtain ⟨rest, hrest⟩ := h.front
  have hdrop : rest = text.drop (position + token.text.length) := by
    rw [← List.drop_drop, ← hrest, ← String.length_toList, List.drop_left]
  rw [← hdrop, hrest]

theorem Starts.le_length (h : Starts token (text.drop position)) :
    position + token.text.length ≤ text.length := by
  have hlength := h.front.length_le
  have hpos := length_pos_of_isLexeme h.lexeme
  rw [String.length_toList, List.length_drop] at hlength
  omega

/-- **The scan goes on from any position reached,** with the lexemes up to there found. -/
theorem exists_readFrom_of_reached (h : Reached text position) (start : Nat) :
    ∃ tokens, readFrom start text =
      (readFrom (start + position) (text.drop position)).map (tokens ++ ·) := by
  induction h with
  | start =>
      refine ⟨[], ?_⟩
      rw [Nat.add_zero, List.drop_zero]
      cases readFrom start text <;> rfl
  | @blank position c h hc hblank ih =>
      obtain ⟨tokens, htokens⟩ := ih
      refine ⟨tokens, ?_⟩
      rw [htokens, drop_of_getElem? hc, readFrom, if_pos hblank, Nat.add_assoc]
  | @lexeme position token h hlongest ih =>
      obtain ⟨tokens, htokens⟩ := ih
      have hdrop := hlongest.toStarts.drop_eq
      obtain ⟨-, rest, hrest, hends⟩ :=
        first?_eq_some_iff.1 (first?_eq_some_iff_longest.2 hlongest)
      obtain rfl := List.append_cancel_left (hrest.symm.trans hdrop)
      refine ⟨tokens ++ [token], ?_⟩
      rw [htokens, hdrop, readFrom_lexeme hlongest.lexeme hends, Nat.add_assoc]
      cases readFrom (start + (position + token.text.length))
          (text.drop (position + token.text.length)) with
      | error failure => rfl
      | ok more => simp [Except.map]

theorem readFrom_of_stuck (h : Reached text position) (hstuck : Stuck text position c)
    (start : Nat) :
    readFrom start text = .error (.fault (unreadable c (start + position))) := by
  obtain ⟨tokens, htokens⟩ := exists_readFrom_of_reached h start
  have hnone := first?_eq_none_iff.2 hstuck.lexeme
  rw [drop_of_getElem? hstuck.here] at htokens hnone
  rw [htokens, readFrom, if_neg (by simp [hstuck.blank]), hnone]
  rfl

theorem exists_readFrom_of_reached_end (h : Reached text position) (hend : position = text.length)
    (start : Nat) : ∃ tokens, readFrom start text = .ok tokens := by
  obtain ⟨tokens, htokens⟩ := exists_readFrom_of_reached h start
  rw [hend, List.drop_length, readFrom] at htokens
  exact ⟨tokens ++ [], htokens⟩

/-- **The scan comes to an end:** there is a last position, with nothing behind it or with a
character that it is stuck at. -/
theorem exists_last (h : Reached text position) (hle : position ≤ text.length) :
    ∃ last, Reached text last ∧ (last = text.length ∨ ∃ c, Stuck text last c) := by
  induction hleft : text.length - position using Nat.strong_induction_on generalizing position with
  | h left ih =>
      rcases hle.eq_or_lt with hend | hlt
      · exact ⟨position, h, Or.inl hend⟩
      have hc : text[position]? = some text[position] := List.getElem?_eq_getElem hlt
      cases hblank : isBlank text[position] with
      | true => exact ih _ (by omega) (h.blank hc hblank) (by omega) rfl
      | false =>
          cases hfirst : first? (text.drop position) with
          | none => exact ⟨position, h, Or.inr ⟨_, hc, hblank, first?_eq_none_iff.1 hfirst⟩⟩
          | some token =>
              have hlongest := longest_of_first? hfirst
              have hpos := length_pos_of_isLexeme hlongest.lexeme
              have hmore := hlongest.toStarts.le_length
              exact ih _ (by omega) (h.lexeme hlongest) hmore rfl

/-- A text is read to its end, or up to a character that the scan is stuck at. -/
theorem readFrom_cases (start : Nat) (text : List Char) :
    (Reached text text.length ∧ ∃ tokens, readFrom start text = .ok tokens) ∨
      ∃ position c, Reached text position ∧ Stuck text position c ∧
        readFrom start text = .error (.fault (unreadable c (start + position))) := by
  have hstart : Reached text 0 := .start
  obtain ⟨last, hlast, rfl | ⟨c, hstuck⟩⟩ := exists_last hstart (Nat.zero_le _)
  · exact Or.inl ⟨hlast, exists_readFrom_of_reached_end hlast rfl start⟩
  · exact Or.inr ⟨last, c, hlast, hstuck, readFrom_of_stuck hlast hstuck start⟩

/-! ### Texts cut off -/

/-- A lexeme that ends in front of a cut is the longest one on either side of it. -/
theorem Longest.take {count : Nat} (h : Longest token text) (hle : token.text.length ≤ count) :
    Longest token (text.take count) := by
  refine ⟨⟨h.lexeme, ?_⟩, fun other hother => ?_⟩
  · rw [List.prefix_take_iff, String.length_toList]
    exact ⟨h.front, hle⟩
  · exact h.most other ⟨hother.lexeme, hother.front.trans (List.take_prefix count text)⟩

/-- **A position is reached whatever stands behind it.** -/
theorem Reached.take {count : Nat} (h : Reached text position) (hle : position ≤ count) :
    Reached (text.take count) position := by
  induction h with
  | start => exact .start
  | @blank position c h hc hblank ih =>
      have hfront : (text.take count)[position]? = some c := by
        rw [List.getElem?_take_of_lt (by omega), hc]
      exact (ih (by omega)).blank hfront hblank
  | @lexeme position token h hlongest ih =>
      have hfront : Longest token ((text.take count).drop position) := by
        rw [List.drop_take]
        exact hlongest.take (by omega)
      exact (ih (by omega)).lexeme hfront

/-- The text in front of a position that is reached has lexemes only. -/
theorem exists_readFrom_take (h : Reached text position) (hle : position ≤ text.length)
    (start : Nat) : ∃ tokens, readFrom start (text.take position) = .ok tokens := by
  have hlength : position = (text.take position).length := (List.length_take_of_le hle).symm
  exact exists_readFrom_of_reached_end (h.take le_rfl) hlength start

theorem Stuck.lt_length (h : Stuck text position c) : position < text.length :=
  (List.getElem?_eq_some_iff.1 h.here).1

end Lexeme

/-! ### Tokens -/

variable {expression : Option String} {position : Nat} {c : Char} {failure : Failure}

theorem tokenize_eq_error_iff :
    tokenize expression = .error failure ↔ lexemes expression = .error failure := by
  unfold tokenize
  rw [bind_eq_error_iff]
  refine or_iff_left ?_
  rintro ⟨found, -, hok⟩
  cases hok

theorem exists_tokenize_iff :
    (∃ tokens, tokenize expression = .ok tokens) ↔ ∃ found, lexemes expression = .ok found := by
  constructor
  · rintro ⟨tokens, htokens⟩
    obtain ⟨found, hfound, -⟩ := bind_eq_ok_iff.1 htokens
    exact ⟨found, hfound⟩
  · rintro ⟨found, hfound⟩
    exact ⟨writeProducts none found, bind_eq_ok_iff.2 ⟨found, hfound, rfl⟩⟩

/-- The text in front of a position that is reached can be split into tokens. -/
theorem exists_tokenize_take (h : Reached (sanitize expression).toList position)
    (hle : position ≤ (sanitize expression).toList.length) :
    ∃ tokens,
      tokenize (some (String.ofList ((sanitize expression).toList.take position))) = .ok tokens := by
  obtain ⟨found, hfound⟩ := exists_readFrom_take h hle 0
  have hscans : Scans found
      (String.ofList ((sanitize expression).toList.take position)).toList := by
    rw [String.toList_ofList]
    exact readFrom_eq_ok_iff.1 hfound
  exact exists_tokenize_iff.2 ⟨found, lexemes_of_scans hscans⟩

/-- What a fault tells of the character at a position that cannot be read. -/
structure Fault.Locates (fault : Fault) (position : Nat) (c : Char) : Prop where
  position_detail : fault.details.get? "position" = some (.whole position)
  point : c = '.' → fault.reason = .invalidNumber
  other : c ≠ '.' → fault.reason = .invalidCharacter ∧
    fault.details.get? "character" = some (.text (String.ofList [c]))

theorem locates_unreadable (c : Char) (position : Nat) :
    (unreadable c position).Locates position c := by
  unfold unreadable
  by_cases hpoint : c = '.'
  · rw [if_pos hpoint]
    exact ⟨rfl, fun _ => rfl, fun hother => absurd hpoint hother⟩
  · rw [if_neg hpoint]
    exact ⟨rfl, fun heq => absurd heq hpoint, fun _ => ⟨rfl, rfl⟩⟩

/-- **The first character that cannot be read** is where splitting a text fails, and it fails
nowhere else.

* What it fails with tells a position that the scan comes to, where neither a blank nor a
  lexeme stands; the text in front of it can be split.
* At any such position splitting fails, and tells it.
* There are tokens just if the scan comes to the end of the text.
* The scan comes either there or to a position where it is stuck. -/
theorem tokenize_fails_where_stuck (expression : Option String) :
    let text := (sanitize expression).toList
    (∀ failure, tokenize expression = .error failure →
      ∃ fault position c, failure = .fault fault ∧ fault.Locates position c ∧
        position < text.length ∧ Reached text position ∧ Stuck text position c ∧
        ∃ tokens, tokenize (some (String.ofList (text.take position))) = .ok tokens) ∧
    (∀ position c, Reached text position → Stuck text position c →
      ∃ fault, tokenize expression = .error (.fault fault) ∧ fault.Locates position c) ∧
    ((∃ tokens, tokenize expression = .ok tokens) ↔ Reached text text.length) ∧
    ∃ last, Reached text last ∧ (last = text.length ∨ ∃ c, Stuck text last c) := by
  intro text
  have hlexemes : lexemes expression = readFrom 0 text := rfl
  refine ⟨fun failure hfailure => ?_, fun position c hreached hstuck => ?_,
    ⟨?_, fun hreached => ?_⟩, exists_last .start (Nat.zero_le _)⟩
  · rw [tokenize_eq_error_iff, hlexemes] at hfailure
    rcases readFrom_cases 0 text with ⟨-, found, hfound⟩ | ⟨position, c, hreached, hstuck, hfault⟩
    · rw [hfound] at hfailure
      cases hfailure
    · rw [hfault, Nat.zero_add] at hfailure
      have hlt := hstuck.lt_length
      exact ⟨_, position, c, (Except.error.inj hfailure).symm, locates_unreadable c position, hlt,
        hreached, hstuck, exists_tokenize_take hreached hlt.le⟩
  · have hfault := readFrom_of_stuck hreached hstuck 0
    rw [Nat.zero_add] at hfault
    exact ⟨_, tokenize_eq_error_iff.2 hfault, locates_unreadable c position⟩
  · rw [exists_tokenize_iff, hlexemes]
    rintro ⟨found, hfound⟩
    rcases readFrom_cases 0 text with ⟨hreached, -⟩ | ⟨position, c, -, -, hfault⟩
    · exact hreached
    · rw [hfound] at hfault
      cases hfault
  · exact exists_tokenize_iff.2 (exists_readFrom_of_reached_end hreached rfl 0)

/-- A second point ends a number and starts none. -/
theorem tokenize_second_point :
    Reached "1.2.e".toList 3 ∧ Stuck "1.2.e".toList 3 '.' ∧
      ∃ fault, tokenize (some " 1,.2.e") = .error (.fault fault) ∧ fault.Locates 3 '.' := by
  have hcleaned : (sanitize (some " 1,.2.e")).toList = "1.2.e".toList := by decide
  have hnumber : first? "1.2.e".toList = some ⟨.number, "1.2"⟩ := by decide
  have hnone : first? ("1.2.e".toList.drop 3) = none := by decide
  have hreached : Reached "1.2.e".toList 3 :=
    Reached.start.lexeme (first?_eq_some_iff_longest.1 hnumber)
  have hstuck : Stuck "1.2.e".toList 3 '.' :=
    ⟨by decide, by decide, first?_eq_none_iff.1 hnone⟩
  obtain ⟨-, hfails, -⟩ := tokenize_fails_where_stuck (some " 1,.2.e")
  rw [hcleaned] at hfails
  exact ⟨hreached, hstuck, hfails 3 '.' hreached hstuck⟩

end Calculator
