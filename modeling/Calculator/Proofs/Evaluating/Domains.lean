import Calculator.Proofs.Evaluating.Listing
import Calculator.Trace

/-!
# Operations stay inside their domains

A quotient, a remainder, a root, a logarithm or an inverse of sine or cosine is computed
only of operands that it is defined at (`Admits`).  Any other operand ends the
evaluation, with a fault that tells it (`Refuses`).  The operands are whatever the
arithmetic before has come to, so all that counts is the comparison that is made.

* Zeros of both signs are equal, so both are refused as divisors.
* What is undefined compares with nothing.  A divisor is refused if it equals zero, so
  an undefined one passes; an operand of a function is refused unless it lies in the
  domain, so an undefined one never passes.
* Of two operands the right one is on top of the stack, and it is the divisor.

This is said of one token at any place that the evaluation gets to.  An evaluation that
comes to a value gets to all of its tokens, so all operations of an expression that has
a value have stayed inside their domains (`evaluate_domains`).
-/

namespace Calculator

/-! ### Undefined doubles -/

section Undefined

variable {x y : Float}

theorem compare_of_isNaN_left (h : x.isNaN = true) :
    x.toModel.unpack.compare y.toModel.unpack = none := by
  simp only [Float.isNaN, Float.Model.isNaN] at h
  generalize x.toModel.unpack = parts at h
  cases parts with
  | notANumber => rfl
  | zero | infinity | finite => cases h

theorem compare_of_isNaN_right (h : x.isNaN = true) :
    y.toModel.unpack.compare x.toModel.unpack = none := by
  simp only [Float.isNaN, Float.Model.isNaN] at h
  generalize x.toModel.unpack = parts at h
  cases parts with
  | notANumber => cases y.toModel.unpack <;> rfl
  | zero | infinity | finite => cases h

theorem not_le_of_compare (h : x.toModel.unpack.compare y.toModel.unpack = none) : ¬ x ≤ y := by
  intro hle
  have hmodel : (x.toModel.unpack.compare y.toModel.unpack).any Ordering.isLE = true :=
    of_decide_eq_true hle
  rw [h] at hmodel
  cases hmodel

theorem not_lt_of_compare (h : x.toModel.unpack.compare y.toModel.unpack = none) : ¬ x < y := by
  intro hlt
  have hmodel : (x.toModel.unpack.compare y.toModel.unpack == some .lt) = true :=
    of_decide_eq_true hlt
  rw [h] at hmodel
  cases hmodel

theorem beq_of_compare (h : x.toModel.unpack.compare y.toModel.unpack = none) :
    (x == y) = false := by
  show (x.toModel.unpack.compare y.toModel.unpack == some .eq) = false
  rw [h]
  rfl

end Undefined

/-! ### Functions -/

namespace NamedFunction

variable {f : NamedFunction} {x : Float} {fault : Fault}

/-- The operands that a function is defined at. -/
def Admits (f : NamedFunction) (x : Float) : Prop :=
  match f with
  | sqrt => x ≥ 0.0
  | log | ln => x > 0.0
  | asin | acos => -1.0 ≤ x ∧ x ≤ 1.0
  | sin | cos | tan | atan | abs | exp => True

/-- The faults of functions at operands that they are not defined at. -/
inductive Refuses : NamedFunction → Float → Fault → Prop
  | sqrt {x : Float} (h : ¬ x ≥ 0.0) : Refuses .sqrt x (.negativeRoot x)
  | log {x : Float} (h : ¬ x > 0.0) : Refuses .log x (.nonPositiveLogarithm .log x)
  | ln {x : Float} (h : ¬ x > 0.0) : Refuses .ln x (.nonPositiveLogarithm .ln x)
  | asin {x : Float} (h : ¬ (-1.0 ≤ x ∧ x ≤ 1.0)) : Refuses .asin x (.outsideUnitInterval .asin x)
  | acos {x : Float} (h : ¬ (-1.0 ≤ x ∧ x ≤ 1.0)) : Refuses .acos x (.outsideUnitInterval .acos x)

theorem domainFault?_eq_none_iff : f.domainFault? x = none ↔ f.Admits x := by
  cases f <;> simp [domainFault?, Admits]

theorem refuses_of_domainFault? (h : f.domainFault? x = some fault) : f.Refuses x fault := by
  have hadmits : ¬ f.Admits x := by
    rw [← domainFault?_eq_none_iff, h]
    exact nofun
  cases f with
  | sqrt | log | ln | asin | acos =>
      simp only [domainFault?] at h
      split at h
      · cases h
      · cases h
        constructor
        exact hadmits
  | sin | cos | tan | atan | abs | exp => cases h

/-- A function has its value at an operand that it is defined at, and no other is
computed. -/
theorem applyNamed_cases (f : NamedFunction) (unit : AngleUnit) (x : Float) :
    (f.Admits x ∧ applyNamed f.name unit x = .ok (f.value unit x)) ∨
      ¬ f.Admits x ∧ ∃ fault, f.Refuses x fault ∧
        applyNamed f.name unit x = .error (.fault fault) := by
  rw [applyNamed, ofName?_name]
  show (_ ∧ f.apply unit x = _) ∨ _ ∧ ∃ fault, _ ∧ f.apply unit x = _
  rw [← domainFault?_eq_none_iff, apply]
  cases hdomain : f.domainFault? x with
  | none => exact Or.inl ⟨rfl, rfl⟩
  | some fault =>
      exact Or.inr ⟨Option.some_ne_none fault, fault, refuses_of_domainFault? hdomain, rfl⟩

/-- The functions that are not defined everywhere. -/
def restricted : List NamedFunction :=
  [sqrt, log, ln, asin, acos]

theorem not_admits_of_isNaN (hf : f ∈ restricted) (h : x.isNaN = true) : ¬ f.Admits x := by
  have hle : ∀ bound : Float, ¬ bound ≤ x := fun _ => not_le_of_compare (compare_of_isNaN_right h)
  have hlt : ∀ bound : Float, ¬ bound < x := fun _ => not_lt_of_compare (compare_of_isNaN_right h)
  cases f with
  | sqrt => exact hle 0.0
  | log | ln => exact hlt 0.0
  | asin | acos => exact fun hboth => hle (-1.0) hboth.1
  | sin | cos | tan | atan | abs | exp => simp [restricted] at hf

end NamedFunction

/-! ### Operations on two operands -/

namespace BinaryOperation

variable {right : Float}

/-- The right operands that an operation is defined at. -/
def Admits (operation : BinaryOperation) (right : Float) : Prop :=
  match operation with
  | divide | modulo => (right == 0.0) = false
  | add | subtract | multiply | power => True

theorem admits_iff (operation : BinaryOperation) (right : Float) :
    operation.Admits right ↔ (operation.divides && right == 0.0) = false := by
  cases operation <;> simp [Admits, divides]

theorem applySymbol_cases (operation : BinaryOperation) (left right : Float) :
    (operation.Admits right ∧
        applySymbol operation.symbol left right = .ok (operation.value left right)) ∨
      ¬ operation.Admits right ∧ applySymbol operation.symbol left right =
        .error (.fault (.zeroDivisor operation.symbol left)) := by
  rw [applySymbol, ofSymbol?_symbol]
  show (_ ∧ operation.apply left right = _) ∨ _ ∧ operation.apply left right = _
  rw [admits_iff, apply]
  cases operation.divides && right == 0.0 with
  | false => exact Or.inl ⟨rfl, rfl⟩
  | true => exact Or.inr ⟨fun hfalse => Bool.noConfusion hfalse, rfl⟩

/-- An undefined divisor passes. -/
theorem admits_of_isNaN (operation : BinaryOperation) (h : right.isNaN = true) :
    operation.Admits right := by
  rw [admits_iff, beq_of_compare (compare_of_isNaN_left h), Bool.and_false]

/-- Zeros of both signs are refused as divisors. -/
theorem not_admits_zero {operation : BinaryOperation} (hdivides : operation.divides = true)
    (hzero : right ∈ [0.0, -0.0]) : ¬ operation.Admits right := by
  have hequal : (right == 0.0) = true := by
    rcases List.mem_pair.1 hzero with rfl | rfl <;> decide
  rw [admits_iff, hdivides, hequal]
  exact nofun

end BinaryOperation

/-! ### Tokens -/

namespace Postfix

variable {unit : AngleUnit} {token : Token} {before after : List Token}
  {stack stack' final : List Float}

/-- The operation that a token stands for is defined at the operands on the stack. -/
structure Defined (token : Token) (stack : List Float) : Prop where
  operation : ∀ operation : BinaryOperation, token = ⟨.operator, operation.symbol⟩ →
    ∃ right left below, stack = right :: left :: below ∧ operation.Admits right
  function : ∀ f : NamedFunction, token = ⟨.function, f.name⟩ →
    ∃ x below, stack = x :: below ∧ f.Admits x

/-- What a token does with the operands on the stack: inside of the domain it puts the
value in their place, and outside of it the evaluation of any row ends here. -/
structure Confined (unit : AngleUnit) (before : List Token) (token : Token)
    (after : List Token) (stack : List Float) : Prop where
  operation : ∀ (operation : BinaryOperation) (right left : Float) (below : List Float),
    token = ⟨.operator, operation.symbol⟩ → stack = right :: left :: below →
      (operation.Admits right ∧
        evaluateStep unit stack token = .ok (operation.value left right :: below)) ∨
      ¬ operation.Admits right ∧ evaluate unit (before ++ token :: after) =
        .error (.fault (.zeroDivisor operation.symbol left))
  function : ∀ (f : NamedFunction) (x : Float) (below : List Float),
    token = ⟨.function, f.name⟩ → stack = x :: below →
      (f.Admits x ∧ evaluateStep unit stack token = .ok (f.value unit x :: below)) ∨
      ¬ f.Admits x ∧ ∃ fault, f.Refuses x fault ∧
        evaluate unit (before ++ token :: after) = .error (.fault fault)

/-- **One token**, wherever the evaluation gets to it. -/
theorem confined_of_evaluateFrom (h : evaluateFrom unit [] before = .ok stack) (token : Token)
    (after : List Token) : Confined unit before token after stack := by
  have hends : ∀ {failure : Failure}, evaluateStep unit stack token = .error failure →
      evaluate unit (before ++ token :: after) = .error failure := fun hstep =>
    evaluate_eq_error_iff.2 (Or.inl ⟨before, token, after, stack, rfl, h, hstep⟩)
  constructor
  · rintro operation right left below rfl rfl
    have hsymbol : operation.symbol ≠ Token.negation.text := by cases operation <;> decide
    rw [evaluateStep_binary hsymbol] at hends ⊢
    rcases operation.applySymbol_cases left right with ⟨hadmits, hvalue⟩ | ⟨hrefused, hfault⟩
    · exact Or.inl ⟨hadmits, by rw [hvalue]; rfl⟩
    · exact Or.inr ⟨hrefused, hends (by rw [hfault]; rfl)⟩
  · rintro f x below rfl rfl
    have hstep : evaluateStep unit (x :: below) ⟨.function, f.name⟩ =
        (NamedFunction.applyNamed f.name unit x).bind fun y => .ok (y :: below) := rfl
    rw [hstep] at hends ⊢
    rcases f.applyNamed_cases unit x with ⟨hadmits, hvalue⟩ | ⟨hrefused, fault, hfault, herror⟩
    · exact Or.inl ⟨hadmits, by rw [hvalue]; rfl⟩
    · exact Or.inr ⟨hrefused, fault, hfault, hends (by rw [herror]; rfl)⟩

/-- A step that goes on has been inside of the domain. -/
theorem defined_of_steps (h : Steps unit token stack stack') : Defined token stack := by
  cases h with
  | number | constant => exact ⟨nofun, nofun⟩
  | @call name x y below hvalue =>
      refine ⟨nofun, ?_⟩
      rintro f hname
      obtain rfl : name = f.name := congrArg Token.text hname
      rcases f.applyNamed_cases unit x with ⟨hadmits, -⟩ | ⟨-, fault, -, herror⟩
      · exact ⟨x, below, rfl, hadmits⟩
      · rw [herror] at hvalue
        cases hvalue
  | negation =>
      refine ⟨?_, nofun⟩
      rintro operation hsymbol
      have hnot : Token.negation.text ≠ operation.symbol := by cases operation <;> decide
      exact absurd (congrArg Token.text hsymbol) hnot
  | @binary symbol left right z below hsymbol hvalue =>
      refine ⟨?_, nofun⟩
      rintro operation hoperation
      obtain rfl : symbol = operation.symbol := congrArg Token.text hoperation
      rcases operation.applySymbol_cases left right with ⟨hadmits, -⟩ | ⟨-, herror⟩
      · exact ⟨right, left, below, rfl, hadmits⟩
      · rw [herror] at hvalue
        cases hvalue

/-- **All tokens** of an evaluation that comes to its end. -/
theorem exists_defined_of_evaluateFrom
    (h : evaluateFrom unit [] (before ++ token :: after) = .ok final) :
    ∃ stack, evaluateFrom unit [] before = .ok stack ∧ Defined token stack := by
  obtain ⟨stack, next, hbefore, hstep, -⟩ := exists_step_of_evaluateFrom h
  exact ⟨stack, hbefore, defined_of_steps (steps_of_evaluateStep hstep)⟩

/-- All operations of a row are defined at the operands that they find. -/
def Within (unit : AngleUnit) (tokens : List Token) : Prop :=
  ∀ before token after, tokens = before ++ token :: after →
    ∃ stack, evaluateFrom unit [] before = .ok stack ∧ Defined token stack

theorem within_of_evaluate {tokens : List Token} {x : Float} (h : evaluate unit tokens = .ok x) :
    Within unit tokens := by
  rintro before token after rfl
  exact exists_defined_of_evaluateFrom (evaluate_eq_ok h)

end Postfix

/-! ### Expressions -/

theorem exists_within_of_evaluate {unit : AngleUnit} {expression : Option String} {x : Float}
    (h : evaluate expression unit = .ok x) :
    ∃ trace, Trace.ofExpression expression unit = .ok trace ∧ trace.result = x ∧
      Postfix.Within unit trace.ordered := by
  obtain ⟨trace, htrace, hresult⟩ := bind_eq_ok_iff.1 h
  refine ⟨trace, htrace, Except.ok.inj hresult, ?_⟩
  obtain ⟨tokens, -, hordered⟩ := bind_eq_ok_iff.1 htrace
  obtain ⟨ordered, -, hvalue⟩ := bind_eq_ok_iff.1 hordered
  obtain ⟨result, hevaluate, hok⟩ := bind_eq_ok_iff.1 hvalue
  cases hok
  exact Postfix.within_of_evaluate hevaluate

/-- **Operations are computed only inside their domains.**

* Wherever the evaluation of a row gets to, an operation with its operands on the stack
  is computed if it is defined at them, and ends the evaluation if it is not.
* All operations of a row that has a value are defined at the operands that they find,
  and so are those of an expression that has a value.
* The functions that are not defined everywhere are not defined at what is undefined.
* An undefined divisor passes, and zeros of both signs do not. -/
theorem evaluate_domains (unit : AngleUnit) :
    (∀ before token after stack, Postfix.evaluateFrom unit [] before = .ok stack →
      Postfix.Confined unit before token after stack) ∧
    (∀ tokens x, Postfix.evaluate unit tokens = .ok x → Postfix.Within unit tokens) ∧
    (∀ expression x, evaluate expression unit = .ok x →
      ∃ trace, Trace.ofExpression expression unit = .ok trace ∧ trace.result = x ∧
        Postfix.Within unit trace.ordered) ∧
    (∀ f ∈ NamedFunction.restricted, ∀ x : Float, x.isNaN = true → ¬ f.Admits x) ∧
    ∀ (operation : BinaryOperation) (right : Float),
      (right.isNaN = true → operation.Admits right) ∧
        (operation.divides = true → right ∈ [0.0, -0.0] → ¬ operation.Admits right) := by
  refine ⟨fun before token after stack h => ?_, fun tokens x h => ?_, fun expression x h => ?_,
    fun f hf x h => ?_, fun operation right => ⟨fun h => ?_, fun hdivides hzero => ?_⟩⟩
  · exact Postfix.confined_of_evaluateFrom h token after
  · exact Postfix.within_of_evaluate h
  · exact exists_within_of_evaluate h
  · exact NamedFunction.not_admits_of_isNaN hf h
  · exact operation.admits_of_isNaN h
  · exact BinaryOperation.not_admits_zero hdivides hzero

/-- A divisor that is the negative of zero. -/
theorem evaluate_divisor_minus_zero :
    Postfix.evaluateFrom .degrees [] [⟨.number, "1"⟩, ⟨.number, "0"⟩, .negation] =
      .ok [-0.0, 1.0] ∧
    Postfix.evaluate .degrees
        [⟨.number, "1"⟩, ⟨.number, "0"⟩, .negation, ⟨.operator, "/"⟩] =
      .error (.fault (.zeroDivisor "/" 1.0)) := by
  have hreached : Postfix.evaluateFrom .degrees [] [⟨.number, "1"⟩, ⟨.number, "0"⟩, .negation] =
      .ok [-0.0, 1.0] := rfl
  obtain ⟨hconfined, -, -, -, hdivisors⟩ := evaluate_domains .degrees
  have hzero : ¬ BinaryOperation.divide.Admits (-0.0) :=
    (hdivisors .divide (-0.0)).2 rfl (by simp)
  rcases (hconfined _ ⟨.operator, "/"⟩ [] _ hreached).operation .divide _ _ _ rfl rfl with
    ⟨hadmits, -⟩ | ⟨-, hfault⟩
  · exact absurd hadmits hzero
  · exact ⟨hreached, hfault⟩

end Calculator
