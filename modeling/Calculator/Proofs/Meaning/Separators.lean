import Calculator.Proofs.Lexing.Cleaning
import Calculator.Proofs.Meaning.Stages

/-!
# Separators and blanks are invisible

All that an expression comes to, a fault and its position among it, is decided by what its
text is split into (`alike_of_tokenize`).  So two texts that are split alike cannot be told
apart by anything but themselves.

* Commas and outer blanks are gone once the text is cleaned, and positions are counted in
  the cleaned text.  A trace cleans the text and splits what is left, and splitting cleans
  again, which changes nothing.
* Blanks between lexemes stay in the cleaned text.  At the boundary of two lexemes the text
  parts into two rows, and a blank keeps any two rows apart, so the same lexemes are found
  when one is put there (`scans_of_spaced`).  What stands behind it has moved, so
  nothing is said of texts that cannot be split.
-/

namespace Calculator

open Calculator.Text Calculator.Lexeme

variable {text other : String} {found : List Token}

/-! ### Texts that come to the same -/

/-- Two texts are split into the same tokens, put in the same order and have the same
value, or they fail alike.  A trace tells the texts themselves as well. -/
structure Alike (text other : String) : Prop where
  tokens : tokenize (some other) = tokenize (some text)
  trace : ∀ unit, Trace.ofExpression (some other) unit =
    (Trace.ofExpression (some text) unit).map fun trace =>
      { trace with expression := other, sanitized := sanitize (some other) }
  value : ∀ unit, evaluate (some other) unit = evaluate (some text) unit

/-- **Nothing but the tokens counts.** -/
theorem alike_of_tokenize (h : tokenize (some other) = tokenize (some text)) :
    Alike text other := by
  have hread : Trace.read (some other) = Trace.read (some text) := by
    rw [Trace.read, Trace.read, tokenize_sanitize, tokenize_sanitize, h]
  refine ⟨h, fun unit => ?_, fun unit => ?_⟩
  · rw [Trace.ofExpression_eq, Trace.ofExpression_eq, hread]
    cases Trace.read (some text) with
    | error failure => rfl
    | ok stages =>
        simp only [Except.bind]
        cases Postfix.evaluate unit stages.2 <;> rfl
  · rw [evaluate_eq_read, evaluate_eq_read, hread]

theorem alike_of_sanitize (h : sanitize (some other) = sanitize (some text)) :
    Alike text other := by
  refine alike_of_tokenize ?_
  rw [← tokenize_sanitize (some other), ← tokenize_sanitize (some text), h]

theorem alike_of_lexemes (h : lexemes (some other) = lexemes (some text)) :
    Alike text other := by
  refine alike_of_tokenize ?_
  rw [tokenize, tokenize, h]

/-! ### Blanks between lexemes -/

/-- A text with blanks put in between the lexemes that are found in it: each where some
first ones of them end and the others are still to come. -/
inductive Spaced (found : List Token) (text : List Char) : List Char → Prop
  | refl : Spaced found text text
  | blank {before : List Token} {front rest : List Char} {c : Char} (hfound : before <+: found)
      (hbefore : Spelled before front) (hc : isBlank c = true)
      (h : Spaced found text (front ++ rest)) : Spaced found text (front ++ c :: rest)

/-- **A text keeps its lexemes** when blanks are put between them. -/
theorem scans_of_spaced {chars more : List Char} (h : Scans found chars)
    (hspaced : Spaced found chars more) : Scans found more := by
  induction hspaced with
  | refl => exact h
  | @blank before front rest c hfound hbefore hc _ ih =>
      obtain ⟨after, hafter⟩ := hfound
      rw [← hafter] at ih ⊢
      obtain ⟨hfront, hrest⟩ := ih.parted hbefore
      refine hfront.append (scans_blank hc hrest) fun d hd => ?_
      obtain rfl : c = d := Option.some.inj hd
      exact parts_of_isBlank hc

theorem lexemes_of_spaced (h : lexemes (some text) = .ok found)
    (hspaced : Spaced found (sanitize (some text)).toList other.toList) :
    lexemes (some other) = .ok found :=
  lexemes_of_scans (scans_of_spaced (readFrom_eq_ok_iff.1 h) hspaced)

/-! ### Separators -/

/-- Nothing is left to clean. -/
structure Clean (text : String) : Prop where
  idle : sanitize (some text) = text
  comma : ',' ∉ text.toList
  head : ∀ c ∈ text.toList.head?, isBlank c = false
  last : ∀ c ∈ text.toList.getLast?, isBlank c = false

theorem clean_sanitize (expression : Option String) : Clean (sanitize expression) := by
  obtain ⟨hhead, hlast⟩ := sanitize_ends expression
  exact ⟨sanitize_sanitize expression, comma_notMem_sanitize expression, hhead, hlast⟩

/-- **Separators and blanks are invisible.**

* Once a text is cleaned, nothing is left to clean, and it still comes to the same.
* So does a text that has commas in it anywhere and blanks at its ends.  What is left of
  it is the same as well, so positions in faults are.
* So does a text that has blanks put between its lexemes, if it can be split. -/
theorem separators_invisible (text : String) :
    Clean (sanitize (some text)) ∧ Alike text (sanitize (some text)) ∧
    (∀ other : String, Padded text.toList other.toList →
      sanitize (some other) = sanitize (some text) ∧ Alike text other) ∧
    ∀ tokens, tokenize (some text) = .ok tokens →
      ∃ found, lexemes (some text) = .ok found ∧
        ∀ other : String, Spaced found (sanitize (some text)).toList other.toList →
          Alike text other := by
  refine ⟨clean_sanitize (some text), alike_of_sanitize (sanitize_sanitize (some text)),
    fun other hpadded => ?_, fun tokens htokens => ?_⟩
  · have hcleaned := sanitize_of_padded hpadded
    exact ⟨hcleaned, alike_of_sanitize hcleaned⟩
  · obtain ⟨found, hfound, -⟩ := bind_eq_ok_iff.1 htokens
    refine ⟨found, hfound, fun other hspaced => alike_of_lexemes ?_⟩
    rw [lexemes_of_spaced hfound hspaced, hfound]

/-- A comma inside a number and a blank at the end; a blank in front of a constant. -/
theorem evaluate_separated :
    (∀ unit, evaluate (some "2,5π ") unit = evaluate (some "25π") unit) ∧
    ∀ unit, evaluate (some "25 π") unit = evaluate (some "25π") unit := by
  obtain ⟨-, -, hpadded, hspaced⟩ := separators_invisible "25π"
  have hnone : ∀ c ∈ [], isBlank c = true := List.forall_mem_nil _
  constructor
  · have hcomma : Padded "25π".toList "2,5π ".toList :=
      @Padded.behind _ ' ' _ (by decide) (@Padded.comma _ ['2'] ['5', 'π'] .refl)
    exact (hpadded _ hcomma).2.value
  · have hspelled : Spelled [⟨.number, "25"⟩, ⟨.constant, "π"⟩] "25π".toList :=
      .cons hnone (.cons hnone (.nil hnone))
    have hlexemes : lexemes (some "25π") = .ok [⟨.number, "25"⟩, ⟨.constant, "π"⟩] :=
      lexemes_of_spelled hspelled (by decide) (by simp [Apart])
    obtain ⟨found, hfound, halike⟩ := hspaced _ (bind_eq_ok_iff.2 ⟨_, hlexemes, rfl⟩)
    cases hlexemes.symm.trans hfound
    have hnumber : Spelled [⟨.number, "25"⟩] ['2', '5'] := .cons hnone (.nil hnone)
    have hblank : Spaced [⟨.number, "25"⟩, ⟨.constant, "π"⟩] (sanitize (some "25π")).toList
        "25 π".toList :=
      @Spaced.blank _ _ _ ['2', '5'] ['π'] ' ' (List.prefix_append _ _) hnumber (by decide) .refl
    exact (halike _ hblank).value

end Calculator
