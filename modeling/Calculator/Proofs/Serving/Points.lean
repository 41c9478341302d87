import Calculator.Proofs.Lexing.Foreign
import Calculator.Proofs.Meaning.Classified
import Calculator.Proofs.Serving.Requests

/-!
# Expressions in points

An expression without halves is evaluated like the text that it is
(`evaluatePoints_points`).  One with halves has no value.  If the text in front of its first
half cannot be split, it has the fault of that; else it stops at the half, and only there
(`exists_evaluatePoints_eq_half_iff`).  In this a half is like any character outside of ASCII
that is in no lexeme (`Stop.behind_of_not_ascii`).

The tool for expressions in points finds the unit first, and then comes to what the
expression comes to under it.
-/

namespace Calculator

open Calculator.Text

variable {expression : List Point} {unit : AngleUnit} {stop : Stop} {x : Float}

/-- The first half of an expression comes behind a text that can be split into tokens. -/
def StopsAtHalf (expression : List Point) : Prop :=
  ∃ (front : List Char) (half : Half) (rest : List Point) (tokens : List Token),
    expression = front.map .char ++ .half half :: rest ∧
      tokenize (some (String.ofList front)) = .ok tokens

@[simp] theorem evaluatePoints_points (text : String) (unit : AngleUnit) :
    evaluatePoints (points text) unit = (evaluate (some text) unit).mapError .failure := by
  simp only [evaluatePoints, splitHalf_points, String.ofList_toList]

theorem evaluatePoints_half (front : List Char) (half : Half) (rest : List Point)
    (unit : AngleUnit) :
    evaluatePoints (front.map .char ++ .half half :: rest) unit = .error (.behind front half) := by
  simp only [evaluatePoints, splitHalf_append_half]

/-- An expression is a text, or it has a first half. -/
theorem Text.points_cases (expression : List Point) :
    (∃ text, expression = points text) ∨
      ∃ (front : List Char) (half : Half) (rest : List Point),
        expression = front.map .char ++ .half half :: rest := by
  rcases splitHalf_cases expression with ⟨characters, rfl⟩ | hhalf
  · exact Or.inl ⟨String.ofList characters, (points_ofList characters).symm⟩
  · exact Or.inr hhalf

/-- Only texts have values. -/
theorem exists_text_of_evaluatePoints (h : evaluatePoints expression unit = .ok x) :
    ∃ text, expression = points text ∧ evaluate (some text) unit = .ok x := by
  rcases points_cases expression with ⟨text, rfl⟩ | ⟨front, half, rest, rfl⟩
  · exact ⟨text, rfl, by simpa using h⟩
  · rw [evaluatePoints_half] at h
    cases h

/-! ### Where an expression stops -/

theorem Stop.behind_cases (front : List Char) (half : Half) :
    (∃ fault, lexemes (some (String.ofList front)) = .error (.fault fault) ∧
        behind front half = .failure (.fault fault)) ∨
      ∃ found position, lexemes (some (String.ofList front)) = .ok found ∧
        behind front half = .half half position := by
  unfold behind
  cases hfront : lexemes (some (String.ofList front)) with
  | error failure =>
      obtain ⟨fault, rfl, -⟩ := failsOnly_tokenize _ failure (tokenize_eq_error_iff.2 hfront)
      exact Or.inl ⟨fault, rfl, rfl⟩
  | ok found => exact Or.inr ⟨found, _, rfl, rfl⟩

/-- **A half stops an expression where any character outside of ASCII does** that is in no
lexeme, or both come too late. -/
theorem Stop.behind_of_not_ascii {c : Char} (hc : 0x80 ≤ c.toNat) (hpi : c ≠ 'π')
    (hblank : isBlank c = false) (front rest : List Char) (half : Half) :
    (∃ fault, tokenize (some (String.ofList (front ++ c :: rest))) = .error (.fault fault) ∧
        behind front half = .failure (.fault fault)) ∨
      ∃ position,
        tokenize (some (String.ofList (front ++ c :: rest))) =
            .error (.fault (.invalidCharacter c position)) ∧
          behind front half = .half half position := by
  have hcomma : c ≠ ',' := by
    rintro rfl
    exact absurd hc (by decide)
  have hscan := lexemes_append_foreign (Lexeme.foreign_of_not_ascii hc hpi) hblank hcomma front rest
  rcases Stop.behind_cases front half with ⟨fault, hfault, hbehind⟩ | ⟨found, -, hfound, -⟩
  · rw [hfault] at hscan
    exact Or.inl ⟨fault, tokenize_eq_error_iff.2 hscan, hbehind⟩
  · rw [hfound] at hscan
    refine Or.inr ⟨_, tokenize_eq_error_iff.2 hscan, ?_⟩
    rw [behind, hfound]

/-- An expression without a value has a fault, or it stops at a half. -/
theorem evaluatePoints_error_cases (h : evaluatePoints expression unit = .error stop) :
    (∃ fault, stop = .failure (.fault fault)) ∨ ∃ half position, stop = .half half position := by
  rcases points_cases expression with ⟨text, rfl⟩ | ⟨front, half, rest, rfl⟩
  · rw [evaluatePoints_points, mapError_eq_error_iff] at h
    obtain ⟨failure, hfailure, rfl⟩ := h
    obtain ⟨fault, rfl, -⟩ := failsOnly_evaluate _ _ failure hfailure
    exact Or.inl ⟨fault, rfl⟩
  · rw [evaluatePoints_half] at h
    obtain rfl := Except.error.inj h
    rcases Stop.behind_cases front half with ⟨fault, -, hfault⟩ | ⟨found, position, -, hhalf⟩
    · exact Or.inl ⟨fault, hfault⟩
    · exact Or.inr ⟨half, position, hhalf⟩

/-- **An expression stops at a half** exactly if the text in front of the first one can be
split. -/
theorem exists_evaluatePoints_eq_half_iff :
    (∃ half position, evaluatePoints expression unit = .error (.half half position)) ↔
      StopsAtHalf expression := by
  constructor
  · rintro ⟨half, position, h⟩
    rcases points_cases expression with ⟨text, rfl⟩ | ⟨front, first, rest, rfl⟩
    · rw [evaluatePoints_points, mapError_eq_error_iff] at h
      obtain ⟨failure, -, hhalf⟩ := h
      cases hhalf
    · rw [evaluatePoints_half] at h
      rcases Stop.behind_cases front first with ⟨fault, -, hfault⟩ | ⟨found, -, hfound, -⟩
      · rw [hfault] at h
        cases h
      · obtain ⟨tokens, htokens⟩ := exists_tokenize_iff.2 ⟨found, hfound⟩
        exact ⟨front, first, rest, tokens, rfl, htokens⟩
  · rintro ⟨front, half, rest, tokens, rfl, htokens⟩
    rw [evaluatePoints_half]
    rcases Stop.behind_cases front half with ⟨fault, hfault, -⟩ | ⟨found, position, -, hhalf⟩
    · rw [tokenize_eq_error_iff.2 hfault] at htokens
      cases htokens
    · exact ⟨half, position, congrArg Except.error hhalf⟩

/-! ### The tool -/

namespace ExpressionTools

variable {settings : Except Failure Settings} {given : Value}

@[simp] theorem evaluatePoints_points (settings : Except Failure Settings) (text : String)
    (given : Value) :
    evaluatePoints settings (points text) given =
      (evaluate settings (some text) given).mapError .failure := by
  simp only [evaluatePoints, splitHalf_points, String.ofList_toList]

theorem evaluatePoints_of_not_resolved {failure : Failure}
    (hunit : AngleUnit.resolve settings given = .error failure) (expression : List Point) :
    evaluatePoints settings expression given = .error (.failure failure) := by
  rcases points_cases expression with ⟨text, rfl⟩ | ⟨front, half, rest, rfl⟩
  · rw [evaluatePoints_points, evaluate_of_not_resolved hunit]
    rfl
  · simp only [evaluatePoints, splitHalf_append_half, hunit]
    rfl

/-- With the unit found, the tool stops where the expression does. -/
theorem evaluatePoints_of_stop (hunit : AngleUnit.resolve settings given = .ok unit)
    (h : Calculator.evaluatePoints expression unit = .error stop) :
    evaluatePoints settings expression given = .error stop := by
  rcases points_cases expression with ⟨text, rfl⟩ | ⟨front, half, rest, rfl⟩
  · rw [Calculator.evaluatePoints_points, mapError_eq_error_iff] at h
    obtain ⟨failure, hfailure, rfl⟩ := h
    rw [evaluatePoints_points, evaluate_of_fault hunit hfailure]
    rfl
  · obtain rfl := Except.error.inj ((evaluatePoints_half front half rest unit).symm.trans h)
    simp only [evaluatePoints, splitHalf_append_half, hunit]
    rfl

/-- The tool has outcomes for texts only. -/
theorem exists_text_of_evaluatePoints {outcome : Outcome}
    (h : evaluatePoints settings expression given = .ok outcome) :
    ∃ text, expression = points text ∧ evaluate settings (some text) given = .ok outcome := by
  rcases points_cases expression with ⟨text, rfl⟩ | ⟨front, half, rest, rfl⟩
  · rw [evaluatePoints_points] at h
    exact ⟨text, rfl, mapError_eq_ok_iff.1 h⟩
  · simp only [evaluatePoints, splitHalf_append_half] at h
    cases hunit : AngleUnit.resolve settings given with
    | ok unit =>
        rw [hunit] at h
        cases h
    | error failure =>
        rw [hunit] at h
        cases h

/-- With the unit found, the tool has an outcome where the expression has a value. -/
theorem exists_outcome_of_evaluatePoints (hunit : AngleUnit.resolve settings given = .ok unit)
    (h : Calculator.evaluatePoints expression unit = .ok x) :
    ∃ outcome, evaluatePoints settings expression given = .ok outcome := by
  obtain ⟨text, rfl, hvalue⟩ := Calculator.exists_text_of_evaluatePoints h
  obtain ⟨tokens, ordered, hread, hx⟩ := exists_read_of_evaluate hvalue
  rw [evaluatePoints_points]
  exact ⟨_, mapError_eq_ok_iff.2 (evaluate_of_resolve hunit hread hx)⟩

end ExpressionTools

end Calculator
