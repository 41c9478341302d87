import Calculator.Proofs.Lexing.RoundTrip
import Calculator.Proofs.Meaning.Stages
import Calculator.Proofs.Ordering.Moves

/-!
# Where the unit of angles matters

The unit of angles is read at one place only: where a function is applied.  The
tokens of an expression, their order and whatever keeps it from having one are found
without a unit (`Trace.read`), so two runs under two units can part no earlier than
in the evaluation.

There they go hand in hand as long as no function is angle sensitive.  One token
leaves both with the same stack or the same failure (`evaluateStep_congr`), and so do
all tokens in turn.  The order of an expression holds no function that the expression
does not hold, but for the absolute value, which a pair of bars stands for; so it is
enough that the expression itself holds no angle sensitive function.
-/

namespace Calculator

/-! ### Functions -/

namespace NamedFunction

/-- The functions that are not marked compute the same under all units. -/
theorem value_congr {f : NamedFunction} (h : f.angleSensitive = false) (unit unit' : AngleUnit)
    (x : Float) : f.value unit x = f.value unit' x := by
  cases f with
  | sin | cos | tan | asin | acos | atan => cases h
  | log | ln | sqrt | abs | exp => rfl

theorem apply_congr {f : NamedFunction} (h : f.angleSensitive = false) (unit unit' : AngleUnit)
    (x : Float) : f.apply unit x = f.apply unit' x := by
  unfold apply
  rw [value_congr h unit unit']

end NamedFunction

/-- Whether a token is a function for which the unit of angles matters. -/
def Token.isAngular (token : Token) : Bool :=
  token.kind = .function && (NamedFunction.ofName? token.text).any NamedFunction.angleSensitive

theorem Token.isAngular_of_isDelimiter {token : Token} (h : token.isDelimiter = true) :
    token.isAngular = false := by
  obtain ⟨kind, text⟩ := token
  cases kind with
  | leftParen | rightParen | bar => rfl
  | number | constant | operator | function => cases h

/-- A name that is not registered is not found under any unit. -/
theorem NamedFunction.applyNamed_congr {name : String}
    (h : Token.isAngular ⟨.function, name⟩ = false) (unit unit' : AngleUnit) (x : Float) :
    applyNamed name unit x = applyNamed name unit' x := by
  unfold applyNamed
  cases hname : ofName? name with
  | none => rfl
  | some f =>
      have hf : f.angleSensitive = false := by simpa [Token.isAngular, hname] using h
      exact apply_congr hf unit unit' x

/-! ### Two evaluations side by side -/

namespace Postfix

variable {token : Token} {tokens : List Token}

/-- **One token** leaves two evaluations with the same stack, or with the same
failure. -/
theorem evaluateStep_congr (h : token.isAngular = false) (unit unit' : AngleUnit)
    (stack : List Float) : evaluateStep unit stack token = evaluateStep unit' stack token := by
  obtain ⟨kind, text⟩ := token
  cases kind with
  | function =>
      cases stack with
      | nil => rfl
      | cons x below =>
          simp only [evaluateStep]
          rw [NamedFunction.applyNamed_congr h unit unit']
  | number | constant | operator | leftParen | rightParen | bar => rfl

/-- **All tokens** in turn: the same of a run. -/
theorem evaluateFrom_congr (h : ∀ token ∈ tokens, token.isAngular = false)
    (unit unit' : AngleUnit) (stack : List Float) :
    evaluateFrom unit stack tokens = evaluateFrom unit' stack tokens := by
  induction tokens generalizing stack with
  | nil => rfl
  | cons token rest ih =>
      obtain ⟨htoken, hrest⟩ := List.forall_mem_cons.1 h
      rw [evaluateFrom, evaluateFrom, evaluateStep_congr htoken unit unit']
      exact congrArg _ (funext fun below => ih hrest below)

theorem evaluate_congr (h : ∀ token ∈ tokens, token.isAngular = false)
    (unit unit' : AngleUnit) : evaluate unit tokens = evaluate unit' tokens := by
  rw [evaluate, evaluate, evaluateFrom_congr h unit unit']

/-- The order of an expression holds only the functions of its tokens, but for the
absolute value. -/
theorem not_isAngular_of_ofInfix {table : OperatorTable} {ordered : List Token}
    (htokens : ∀ token ∈ tokens, token.isAngular = false)
    (h : ofInfix table tokens = .ok ordered) : ∀ token ∈ ordered, token.isAngular = false := by
  obtain ⟨prepared, hprepare, hordered⟩ := bind_eq_ok_iff.1 h
  have hprepared : ∀ token ∈ prepared, token.isAngular = false :=
    Infix.forall_mem_prepare (p := (·.isAngular = false)) rfl rfl rfl rfl htokens hprepare
  have hnone : prepared.countP Token.isAngular = 0 := by
    rw [List.countP_eq_zero]
    intro token htoken
    rw [hprepared token htoken]
    decide
  have hcount : ordered.countP Token.isAngular = 0 := by
    rw [countP_of_ofPrepared (fun token => Token.isAngular_of_isDelimiter) hordered, hnone]
  intro token htoken
  simpa using List.countP_eq_zero.1 hcount token htoken

end Postfix

/-! ### Expressions -/

/-- **The unit of angles matters only through angle sensitive functions.** Tokens,
order and the failures before the evaluation are those of `Trace.read`, which knows no
unit; and both units give the same outcome where no angle sensitive function is among
the tokens of an expression, or of an order of any tokens. -/
theorem evaluate_eq_of_not_angular :
    (∀ (expression : Option String) (unit : AngleUnit),
      Trace.ofExpression expression unit =
        (Trace.read expression).bind fun (tokens, ordered) =>
          (Postfix.evaluate unit ordered).map fun result =>
            { expression := expression.getD "", sanitized := sanitize expression, unit, tokens,
              ordered, result }) ∧
    (∀ expression : Option String,
      (∀ tokens, tokenize expression = .ok tokens → ∀ token ∈ tokens, token.isAngular = false) →
        evaluate expression .degrees = evaluate expression .radians) ∧
    ∀ ordered : List Token, (∀ token ∈ ordered, token.isAngular = false) →
      Postfix.evaluate .degrees ordered = Postfix.evaluate .radians ordered := by
  refine ⟨Trace.ofExpression_eq, fun expression hangular => ?_, fun ordered hordered => ?_⟩
  · rw [evaluate_eq_read, evaluate_eq_read]
    cases hread : Trace.read expression with
    | error failure => rfl
    | ok stages =>
        obtain ⟨tokens, ordered⟩ := stages
        obtain ⟨htokens, hordered⟩ := Trace.read_eq_ok_iff.1 hread
        have hplain := hangular tokens (tokenize_of_read htokens)
        have horder := Postfix.not_isAngular_of_ofInfix hplain hordered
        exact Postfix.evaluate_congr horder .degrees .radians
  · exact Postfix.evaluate_congr hordered .degrees .radians

/-- A logarithm and a pair of bars, and an order that calls a function that is not
registered. -/
theorem evaluate_eq_of_logarithm :
    (∀ tokens, tokenize (some "ln | e - π |") = .ok tokens →
      ∀ token ∈ tokens, token.isAngular = false) ∧
    evaluate (some "ln | e - π |") .degrees = evaluate (some "ln | e - π |") .radians ∧
    (∀ token ∈ [⟨.constant, "e"⟩, ⟨.function, "sinh"⟩], Token.isAngular token = false) ∧
    Postfix.evaluate .degrees [⟨.constant, "e"⟩, ⟨.function, "sinh"⟩] =
      Postfix.evaluate .radians [⟨.constant, "e"⟩, ⟨.function, "sinh"⟩] := by
  obtain ⟨-, hexpression, hordered⟩ := evaluate_eq_of_not_angular
  have hline : tokenize (some (Token.line
      [⟨.function, "ln"⟩, .bar, ⟨.constant, "e"⟩, ⟨.operator, "-"⟩, ⟨.constant, "π"⟩, .bar])) = .ok
      [⟨.function, "ln"⟩, .bar, ⟨.constant, "e"⟩, ⟨.operator, "-"⟩, ⟨.constant, "π"⟩, .bar] :=
    tokenize_line (by decide) (by decide)
  have hplain : ∀ token ∈ [⟨.function, "ln"⟩, .bar, ⟨.constant, "e"⟩, ⟨.operator, "-"⟩,
      ⟨.constant, "π"⟩, .bar], Token.isAngular token = false := by decide
  have htokens : ∀ tokens, tokenize (some "ln | e - π |") = .ok tokens →
      ∀ token ∈ tokens, token.isAngular = false := by
    intro tokens htokens
    obtain rfl := Except.ok.inj (hline.symm.trans htokens)
    exact hplain
  have hunknown : ∀ token ∈ [⟨.constant, "e"⟩, ⟨.function, "sinh"⟩],
      Token.isAngular token = false := by decide
  have hsame := hexpression (some "ln | e - π |") htokens
  have hsame' := hordered [⟨.constant, "e"⟩, ⟨.function, "sinh"⟩] hunknown
  exact ⟨htokens, hsame, hunknown, hsame'⟩

end Calculator
