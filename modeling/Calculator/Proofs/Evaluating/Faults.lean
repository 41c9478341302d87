import Calculator.Proofs.Lexing.Vocabulary
import Calculator.Proofs.Outcome
import Calculator.Tree

/-!
# How an evaluation can fail

Tokens that the evaluation knows are always found where they are looked up, so
what is left are faults of the expression.  A tree of such tokens has operands
for everything, and so only a function outside its domain or a zero divisor can
keep it from having a value.  A list of such tokens may also run out of
operands, or leave more than one value at the end.
-/

namespace Calculator

variable {unit : AngleUnit}

/-! ### Kinds of faults -/

theorem FailsOnly.of_kind {α : Type} {x : Except Failure α} {kind : FaultKind}
    (h : FailsOnly (fun fault => fault.kind = kind) x) (hkind : kind ≠ .form) :
    FailsOnly (fun fault => fault.kind ≠ .form) x :=
  h.mono fun _ hfault hform => hkind (hfault.symm.trans hform)

/-- What is no fault of form is a value, or the fault of a domain or of
arithmetic. -/
theorem FailsOnly.value_or_fault {α : Type} {x : Except Failure α}
    (h : FailsOnly (fun fault => fault.kind ≠ .form) x) :
    (∃ a, x = .ok a) ∨ ∃ fault, x = .error (.fault fault) ∧
      (fault.kind = .domain ∨ fault.kind = .arithmetic) := by
  cases x with
  | ok a => exact Or.inl ⟨a, rfl⟩
  | error failure =>
      obtain ⟨fault, rfl, hkind⟩ := h failure rfl
      refine Or.inr ⟨fault, rfl, ?_⟩
      cases hfault : fault.kind with
      | form => exact absurd hfault hkind
      | domain => exact Or.inl rfl
      | arithmetic => exact Or.inr rfl

/-! ### Operations on values -/

/-- The failure is no fault of the expression: something was looked up in vain. -/
def Failure.Unknown (failure : Failure) : Prop :=
  ∀ fault, failure ≠ .fault fault

theorem Failure.of_known {fault : Fault} {p : Fault → Prop} {q : Prop}
    (h : (∃ cause, Failure.fault fault = .fault cause ∧ p cause) ∨
      q ∧ (Failure.fault fault).Unknown) : p fault := by
  rcases h with ⟨cause, hcause, hp⟩ | ⟨-, hunknown⟩
  · cases hcause
    exact hp
  · exact absurd rfl (hunknown fault)

theorem NamedFunction.kind_of_domainFault? {f : NamedFunction} {x : Float} {fault : Fault}
    (h : f.domainFault? x = some fault) : fault.kind = .domain := by
  cases f with
  | asin | acos | log | ln | sqrt =>
      simp only [domainFault?] at h
      split at h
      · cases h
      · cases h
        rfl
  | sin | cos | tan | atan | abs | exp => cases h

/-- A function that is known fails outside its domain only. -/
theorem NamedFunction.applyNamed_failure {name : String} {x : Float} {failure : Failure}
    (h : applyNamed name unit x = .error failure) :
    (∃ fault, failure = .fault fault ∧ fault.kind = .domain) ∨
      (ofName? name).isSome = false ∧ failure.Unknown := by
  unfold applyNamed at h
  cases hname : ofName? name with
  | none =>
      rw [hname] at h
      cases h
      exact Or.inr ⟨rfl, nofun⟩
  | some f =>
      rw [hname] at h
      simp only [apply] at h
      cases hdomain : f.domainFault? x with
      | none =>
          rw [hdomain] at h
          cases h
      | some fault =>
          rw [hdomain] at h
          cases h
          exact Or.inl ⟨fault, rfl, kind_of_domainFault? hdomain⟩

theorem NamedFunction.failsOnly_applyNamed {name : String} (h : (ofName? name).isSome = true)
    (unit : AngleUnit) (x : Float) :
    FailsOnly (fun fault => fault.kind = .domain) (applyNamed name unit x) := by
  intro failure hfailure
  rcases applyNamed_failure hfailure with hfault | ⟨hnone, -⟩
  · exact hfault
  · rw [hnone] at h
    cases h

/-- An operation that is known fails at a zero divisor only. -/
theorem BinaryOperation.applySymbol_failure {symbol : String} {x y : Float} {failure : Failure}
    (h : applySymbol symbol x y = .error failure) :
    (∃ fault, failure = .fault fault ∧ fault.kind = .arithmetic) ∨
      (ofSymbol? symbol).isSome = false ∧ failure.Unknown := by
  unfold applySymbol at h
  cases hsymbol : ofSymbol? symbol with
  | none =>
      rw [hsymbol] at h
      cases h
      exact Or.inr ⟨rfl, nofun⟩
  | some operation =>
      rw [hsymbol] at h
      simp only [apply] at h
      split at h
      · cases h
        exact Or.inl ⟨_, rfl, rfl⟩
      · cases h

theorem BinaryOperation.failsOnly_applySymbol {symbol : String}
    (h : (ofSymbol? symbol).isSome = true) (x y : Float) :
    FailsOnly (fun fault => fault.kind = .arithmetic) (applySymbol symbol x y) := by
  intro failure hfailure
  rcases applySymbol_failure hfailure with hfault | ⟨hnone, -⟩
  · exact hfault
  · rw [hnone] at h
    cases h

theorem Constant.exists_valueOf {symbol : String} (h : (ofSymbol? symbol).isSome = true) :
    ∃ x, valueOf symbol = .ok x := by
  obtain ⟨constant, hconstant⟩ := Option.isSome_iff_exists.1 h
  refine ⟨constant.value, ?_⟩
  rw [valueOf, hconstant]

theorem Constant.valueOf_failure {symbol : String} {failure : Failure}
    (h : valueOf symbol = .error failure) :
    (ofSymbol? symbol).isSome = false ∧ failure.Unknown := by
  unfold valueOf at h
  split at h
  · cases h
  · next hsymbol =>
      cases h
      exact ⟨by rw [hsymbol]; rfl, nofun⟩

theorem Postfix.exists_literal {text : String} (h : (Number.ofText? text).isSome = true) :
    ∃ x, literal text = .ok x := by
  obtain ⟨x, hx⟩ := Option.isSome_iff_exists.1 h
  refine ⟨x, ?_⟩
  rw [literal, hx]

theorem Postfix.literal_failure {text : String} {failure : Failure}
    (h : literal text = .error failure) :
    (Number.ofText? text).isSome = false ∧ failure.Unknown := by
  unfold literal at h
  split at h
  · cases h
  · next htext =>
      cases h
      exact ⟨by rw [htext]; rfl, nofun⟩

/-! ### Trees -/

/-- A tree of known tokens fails only at a function outside its domain or at a
zero divisor. -/
theorem Tree.failsOnly_value {tree : Tree} (hunambiguous : tree.Unambiguous)
    (hknown : ∀ token ∈ tree.listing, token.isKnown = true) :
    FailsOnly (fun fault => fault.kind ≠ .form) (tree.value unit) := by
  induction tree with
  | number text =>
      have htext := hknown ⟨.number, text⟩ (List.mem_singleton.2 rfl)
      obtain ⟨x, hx⟩ := Postfix.exists_literal htext
      rw [value, hx]
      exact failsOnly_ok x
  | constant symbol =>
      have hsymbol := hknown ⟨.constant, symbol⟩ (List.mem_singleton.2 rfl)
      obtain ⟨x, hx⟩ := Constant.exists_valueOf hsymbol
      rw [value, hx]
      exact failsOnly_ok x
  | call name operand ih =>
      obtain ⟨hoperand, hname⟩ := List.forall_mem_append.1 hknown
      have hfunction := hname ⟨.function, name⟩ (List.mem_singleton.2 rfl)
      refine (ih hunambiguous hoperand).bind fun x _ => ?_
      exact (NamedFunction.failsOnly_applyNamed hfunction unit x).of_kind (by decide)
  | negation operand ih =>
      obtain ⟨hoperand, -⟩ := List.forall_mem_append.1 hknown
      exact (ih hunambiguous hoperand).bind fun x _ => failsOnly_ok _
  | binary symbol left right ihl ihr =>
      obtain ⟨hsymbol, hunambiguousLeft, hunambiguousRight⟩ := hunambiguous
      obtain ⟨hoperands, hoperator⟩ := List.forall_mem_append.1 hknown
      obtain ⟨hleft, hright⟩ := List.forall_mem_append.1 hoperands
      have hoperation := Token.isSome_ofSymbol? hsymbol (hoperator _ (List.mem_singleton.2 rfl))
      refine (ihl hunambiguousLeft hleft).bind fun x _ => ?_
      refine (ihr hunambiguousRight hright).bind fun y _ => ?_
      exact (BinaryOperation.failsOnly_applySymbol hoperation x y).of_kind (by decide)

/-! ### Lists of tokens -/

namespace Postfix

/-- What succeeds as a whole succeeds up to every token, and at the token. -/
theorem exists_step_of_evaluateFrom {before after : List Token} {token : Token}
    {stack final : List Float}
    (h : evaluateFrom unit stack (before ++ token :: after) = .ok final) :
    ∃ middle next, evaluateFrom unit stack before = .ok middle ∧
      evaluateStep unit middle token = .ok next ∧ evaluateFrom unit next after = .ok final := by
  rw [evaluateFrom_append] at h
  obtain ⟨middle, hmiddle, hrest⟩ := bind_eq_ok_iff.1 h
  obtain ⟨next, hnext, hafter⟩ := bind_eq_ok_iff.1 hrest
  exact ⟨middle, next, hmiddle, hnext, hafter⟩

/-- **The first token that fails ends the evaluation**, and nothing else does. -/
theorem evaluateFrom_eq_error_iff {tokens : List Token} {stack : List Float} {failure : Failure} :
    evaluateFrom unit stack tokens = .error failure ↔
      ∃ before token after middle, tokens = before ++ token :: after ∧
        evaluateFrom unit stack before = .ok middle ∧
          evaluateStep unit middle token = .error failure := by
  constructor
  · intro h
    induction tokens generalizing stack with
    | nil => cases h
    | cons token rest ih =>
        rcases bind_eq_error_iff.1 h with hstep | ⟨next, hstep, hrest⟩
        · exact ⟨[], token, rest, stack, rfl, rfl, hstep⟩
        · obtain ⟨before, failing, after, middle, rfl, hbefore, hfails⟩ := ih hrest
          exact ⟨token :: before, failing, after, middle, rfl,
            bind_eq_ok_iff.2 ⟨next, hstep, hbefore⟩, hfails⟩
  · rintro ⟨before, token, after, middle, rfl, hbefore, hstep⟩
    rw [evaluateFrom_append, hbefore]
    show evaluateFrom unit middle (token :: after) = _
    exact bind_eq_error_iff.2 (Or.inl hstep)

/-- An evaluation stops at a token, or finds at the end that the values left are not just
one. -/
theorem evaluate_eq_error_iff {tokens : List Token} {failure : Failure} :
    evaluate unit tokens = .error failure ↔
      (∃ before token after stack, tokens = before ++ token :: after ∧
        evaluateFrom unit [] before = .ok stack ∧
          evaluateStep unit stack token = .error failure) ∨
      ∃ stack, evaluateFrom unit [] tokens = .ok stack ∧ stack.length ≠ 1 ∧
        failure = .fault (.leftover stack.length) := by
  rw [← evaluateFrom_eq_error_iff, evaluate, bind_eq_error_iff]
  refine or_congr_right (exists_congr fun stack => and_congr_right fun _ => ?_)
  rcases stack with _ | ⟨x, _ | ⟨y, below⟩⟩
  · simp [eq_comm]
  · simp
  · simp [eq_comm]

/-- What one token may fail with: too few operands for it, or what it does with
them. -/
inductive StepFault (token : Token) : Fault → Prop
  | insufficient (h : token.isOperand = false) (needed available : Nat) :
      StepFault token (.insufficientOperands token needed available)
  | refused {fault : Fault} (h : fault.kind ≠ .form) : StepFault token fault

/-- No operation finds the expression malformed; only the end of the tokens
can. -/
theorem StepFault.reason_ne {token : Token} {fault : Fault} (h : StepFault token fault) :
    fault.reason ≠ .malformedExpression := by
  intro hreason
  cases h with
  | insufficient => cases hreason
  | refused h => exact h (by rw [Fault.kind, hreason]; rfl)

/-- **A step that fails** finds too few operands or refuses those it has, or the token is
not known.  Delimiters apart, a token is never out of place. -/
theorem evaluateStep_failure {token : Token} {stack : List Float} {failure : Failure}
    (hplain : token.isDelimiter = false) (h : evaluateStep unit stack token = .error failure) :
    (∃ fault, failure = .fault fault ∧ StepFault token fault) ∨
      token.isKnown = false ∧ failure.Unknown := by
  obtain ⟨kind, text⟩ := token
  cases kind with
  | number =>
      rcases bind_eq_error_iff.1 h with hliteral | ⟨x, -, hok⟩
      · exact Or.inr (literal_failure hliteral)
      · cases hok
  | constant =>
      rcases bind_eq_error_iff.1 h with hvalue | ⟨x, -, hok⟩
      · exact Or.inr (Constant.valueOf_failure hvalue)
      · cases hok
  | function =>
      cases stack with
      | nil =>
          cases h
          exact Or.inl ⟨_, rfl, .insufficient rfl 1 0⟩
      | cons x below =>
          rcases bind_eq_error_iff.1 h with happly | ⟨y, -, hok⟩
          · refine (NamedFunction.applyNamed_failure happly).imp_left ?_
            rintro ⟨fault, rfl, hkind⟩
            exact ⟨fault, rfl, .refused (by simp [hkind])⟩
          · cases hok
  | operator =>
      by_cases hsymbol : text = Token.negation.text
      · obtain rfl := hsymbol
        cases stack with
        | nil =>
            cases h
            exact Or.inl ⟨_, rfl, .insufficient rfl 1 0⟩
        | cons x below => cases h
      · have hknown : Token.isKnown ⟨.operator, text⟩ =
            (BinaryOperation.ofSymbol? text).isSome := by
          simp only [Token.isKnown, Token.isNegation_of_ne hsymbol, Bool.false_or]
        simp only [evaluateStep, Token.isNegation_of_ne hsymbol, Bool.false_eq_true, if_false] at h
        rw [hknown]
        rcases stack with _ | ⟨y, _ | ⟨x, below⟩⟩
        · cases h
          exact Or.inl ⟨_, rfl, .insufficient rfl 2 0⟩
        · cases h
          exact Or.inl ⟨_, rfl, .insufficient rfl 2 1⟩
        · rcases bind_eq_error_iff.1 h with happly | ⟨z, -, hok⟩
          · refine (BinaryOperation.applySymbol_failure happly).imp_left ?_
            rintro ⟨fault, rfl, hkind⟩
            exact ⟨fault, rfl, .refused (by simp [hkind])⟩
          · cases hok
  | leftParen | rightParen | bar => cases hplain

theorem failsOnly_evaluateStep {token : Token} (h : token.isOperation = true)
    (stack : List Float) : FailsOnly (StepFault token) (evaluateStep unit stack token) := by
  intro failure hfailure
  obtain ⟨hknown, hplain⟩ := Bool.and_eq_true_iff.1 h
  rcases evaluateStep_failure (by simpa using hplain) hfailure with hfault | ⟨hunknown, -⟩
  · exact hfault
  · rw [hknown] at hunknown
    cases hunknown

/-- The end of the tokens finds the expression malformed if the values left are
not just one. -/
theorem failsOnly_evaluate {tokens : List Token}
    (h : ∀ token ∈ tokens, token.isOperation = true) :
    FailsOnly
      (fun fault => (∃ token ∈ tokens, StepFault token fault) ∨
        ∃ stack, evaluateFrom unit [] tokens = .ok stack ∧ fault = .leftover stack.length)
      (evaluate unit tokens) := by
  intro failure hfailure
  rcases evaluate_eq_error_iff.1 hfailure with ⟨before, token, after, stack, rfl, -, hstep⟩ |
    ⟨stack, hstack, -, rfl⟩
  · have hmem : token ∈ before ++ token :: after := by simp
    obtain ⟨fault, rfl, hfault⟩ := failsOnly_evaluateStep (h token hmem) stack failure hstep
    exact ⟨fault, rfl, Or.inl ⟨token, hmem, hfault⟩⟩
  · exact ⟨_, rfl, Or.inr ⟨stack, hstack, rfl⟩⟩

end Postfix

end Calculator
