import Calculator.Proofs.Lexing.Cleaning
import Calculator.Proofs.Outcome
import Calculator.Trace

/-!
# The stages of an evaluation

Text, tokens, order, value: the first three are found without a unit of angles, and
what they come to is `Trace.read`.  A trace, and so a value, is what was read with the
value of the order under the unit (`Trace.ofExpression_eq`, `evaluate_eq_read`).
-/

namespace Calculator

variable {expression : Option String} {text : String} {tokens ordered : List Token}
  {unit : AngleUnit}

/-- The stages before the evaluation: the tokens of an expression and their
order. -/
def Trace.read (expression : Option String) : Except Failure (List Token × List Token) := do
  let tokens ← tokenize (some (sanitize expression))
  let ordered ← Postfix.ofInfix .standard tokens
  return (tokens, ordered)

theorem Trace.read_eq_ok_iff :
    Trace.read expression = .ok (tokens, ordered) ↔
      tokenize (some (sanitize expression)) = .ok tokens ∧
        Postfix.ofInfix .standard tokens = .ok ordered := by
  unfold Trace.read
  rw [bind_eq_ok_iff]
  constructor
  · rintro ⟨found, htokens, hrest⟩
    obtain ⟨order, hordered, hok⟩ := bind_eq_ok_iff.1 hrest
    cases hok
    exact ⟨htokens, hordered⟩
  · rintro ⟨htokens, hordered⟩
    exact ⟨tokens, htokens, bind_eq_ok_iff.2 ⟨ordered, hordered, rfl⟩⟩

/-- A trace is what was read, with the value of the order under the unit. -/
theorem Trace.ofExpression_eq (expression : Option String) (unit : AngleUnit) :
    Trace.ofExpression expression unit =
      (Trace.read expression).bind fun (tokens, ordered) =>
        (Postfix.evaluate unit ordered).map fun result =>
          { expression := expression.getD "", sanitized := sanitize expression, unit, tokens,
            ordered, result } := by
  simp only [Trace.ofExpression, Trace.read, bind, Except.bind]
  generalize tokenize (some (sanitize expression)) = scanned
  cases scanned with
  | error failure => rfl
  | ok tokens =>
      cases hordered : Postfix.ofInfix .standard tokens with
      | error failure => simp only [hordered]
      | ok ordered =>
          simp only [hordered, pure, Except.pure]
          cases Postfix.evaluate unit ordered <;> rfl

theorem evaluate_eq_read (expression : Option String) (unit : AngleUnit) :
    evaluate expression unit =
      (Trace.read expression).bind fun (_, ordered) => Postfix.evaluate unit ordered := by
  unfold evaluate
  rw [Trace.ofExpression_eq]
  cases Trace.read expression with
  | error failure => rfl
  | ok stages =>
      simp only [bind, Except.bind]
      cases Postfix.evaluate unit stages.2 <;> rfl

/-- Of a text only what is left of it once it is cleaned counts. -/
theorem evaluate_of_sanitize_eq {other : Option String} (h : sanitize expression = sanitize other)
    (unit : AngleUnit) : evaluate expression unit = evaluate other unit := by
  rw [evaluate_eq_read, evaluate_eq_read, Trace.read, Trace.read, h]

/-- What a text is split into does not change when the text is cleaned first. -/
theorem tokenize_of_read (h : tokenize (some (sanitize expression)) = .ok tokens) :
    tokenize expression = .ok tokens :=
  (tokenize_sanitize expression).symm.trans h

/-- What a text comes to once its order is known. -/
theorem evaluate_of_ordered (htokens : tokenize (some text) = .ok tokens)
    (hordered : Postfix.ofInfix .standard tokens = .ok ordered) (unit : AngleUnit) :
    evaluate (some text) unit = Postfix.evaluate unit ordered := by
  have hcleaned := (tokenize_sanitize (some text)).trans htokens
  rw [evaluate_eq_read, Trace.read_eq_ok_iff.2 ⟨hcleaned, hordered⟩]
  rfl

theorem exists_read_of_evaluate {x : Float} (h : evaluate expression unit = .ok x) :
    ∃ tokens ordered, Trace.read expression = .ok (tokens, ordered) ∧
      Postfix.evaluate unit ordered = .ok x := by
  rw [evaluate_eq_read] at h
  obtain ⟨⟨tokens, ordered⟩, hread, hvalue⟩ := bind_eq_ok_iff.1 h
  exact ⟨tokens, ordered, hread, hvalue⟩

/-- A text with a value has passed all stages. -/
theorem exists_ordered_of_evaluate {x : Float} (h : evaluate (some text) unit = .ok x) :
    ∃ tokens ordered, tokenize (some text) = .ok tokens ∧
      Postfix.ofInfix .standard tokens = .ok ordered ∧ Postfix.evaluate unit ordered = .ok x := by
  obtain ⟨tokens, ordered, hread, hvalue⟩ := exists_read_of_evaluate h
  obtain ⟨htokens, hordered⟩ := Trace.read_eq_ok_iff.1 hread
  exact ⟨tokens, ordered, tokenize_of_read htokens, hordered, hvalue⟩

end Calculator
