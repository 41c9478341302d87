import Calculator.Proofs.Evaluating.Faults
import Calculator.Proofs.Lexing.Products
import Calculator.Proofs.Ordering.Conservation
import Calculator.Proofs.Ordering.Refusals
import Calculator.Report
import Calculator.Trace

/-!
# Every failure of an expression is classified

Whatever the text, an evaluation ends in a value or in a fault of the
expression, and what is told of the fault fits together.  No look-up fails and
no number is unreadable, since the stages agree about the tokens they pass on:

* the scan finds lexemes, and the product that it writes out is known as well;
* signs and calls of the absolute value, which the preparation makes up, are
  known, so the ordering finds all operators in its table and refuses a row for its
  parentheses and bars only;
* the ordering sends tokens of the prepared row and no delimiter, and those are
  operations, which is all that the evaluation takes.

The last point is the reason why no token is ever out of place in the
evaluation, and why a fault names no token but an operation (`Fault.Arises`).
-/

namespace Calculator

/-! ### What is told of a fault -/

/-- The code of the reports of a kind of faults. -/
def FaultKind.code : FaultKind → String
  | form => "SYNTAX_ERROR"
  | domain => "DOMAIN_ERROR"
  | arithmetic => "ARITHMETIC_ERROR"

/-- The reasons of the faults of a kind. -/
def FaultKind.reasons : FaultKind → List FaultReason
  | form =>
    [.invalidCharacter, .invalidNumber, .mismatchedParentheses, .unbalancedBars,
      .insufficientOperands, .malformedExpression]
  | domain => [.negativeRoot, .nonPositiveLogarithm, .outsideUnitInterval]
  | arithmetic => [.zeroDivisor]

/-- What is told of a fault fits together. -/
structure Fault.Classified (fault : Fault) : Prop where
  category : (Report.ofFailure (.fault fault)).category = .classified fault.kind fault.reason
  code : (Report.ofFailure (.fault fault)).category.code = fault.kind.code
  reason : fault.reason ∈ fault.kind.reasons
  details : (Report.ofFailure (.fault fault)).details = fault.details
  kind_detail : fault.details.get? "kind" = some (.text fault.kind.name)
  reason_detail : fault.details.get? "reason" = some (.text fault.reason.name)

/-- The fault is not a token out of place. -/
def Fault.Placed (fault : Fault) : Prop :=
  ∀ token, fault ≠ .strayToken token

/-- The fault is of the text or of how its tokens are put together, and names none of
them. -/
def Fault.Tokenless : Fault → Prop
  | insufficientOperands .. | strayToken _ => False
  | _ => True

theorem Fault.tokenless_of_reason {fault : Fault}
    (h : fault.reason ∈ [FaultReason.mismatchedParentheses, .unbalancedBars]) :
    fault.Tokenless := by
  cases fault with
  | insufficientOperands | strayToken => simp [reason] at h
  | _ => trivial

theorem Fault.placed_of_tokenless {fault : Fault} (h : fault.Tokenless) : fault.Placed := by
  rintro token rfl
  exact h

/-- What an expression can fail with: the only tokens that faults name are operations,
when one is evaluated. -/
def Fault.Arises (fault : Fault) : Prop :=
  fault.Tokenless ∨ ∃ token, token.isOperation = true ∧ Postfix.StepFault token fault

/-- Only an expression that is malformed has a token out of place, and no step finds
that. -/
theorem Postfix.StepFault.placed {token : Token} {fault : Fault} (h : StepFault token fault) :
    fault.Placed := by
  rintro stray rfl
  exact h.reason_ne rfl

theorem Fault.placed_of_arises {fault : Fault} (h : fault.Arises) : fault.Placed := by
  rcases h with htokenless | ⟨token, -, hstep⟩
  · exact placed_of_tokenless htokenless
  · exact hstep.placed

/-- Only a token out of place has a particular that hides its kind. -/
theorem Fault.classified_of_placed {fault : Fault} (h : fault.Placed) : fault.Classified where
  category := rfl
  code := by
    show Report.Category.code (.classified fault.kind fault.reason) = _
    cases fault.kind <;> rfl
  reason := by
    show fault.reason ∈ fault.reason.kind.reasons
    cases fault.reason <;> decide
  details := rfl
  kind_detail := by
    cases fault with
    | strayToken token => exact absurd rfl (h token)
    | _ => rfl
  reason_detail := by
    cases fault with
    | strayToken token => exact absurd rfl (h token)
    | _ => rfl

/-! ### Lexemes and products -/

namespace Lexeme

theorem tokenless_unreadable (c : Char) (position : Nat) :
    (unreadable c position).Tokenless := by
  unfold unreadable
  split <;> trivial

theorem failsOnly_readFrom (position : Nat) (text : List Char) :
    FailsOnly Fault.Tokenless (readFrom position text) := by
  induction position, text using readFrom.induct with
  | case1 position =>
      rw [readFrom]
      exact failsOnly_ok _
  | case2 position c rest hblank ih =>
      rw [readFrom, if_pos hblank]
      exact ih
  | case3 position c rest hblank hnone =>
      rw [readFrom, if_neg hblank, hnone]
      exact failsOnly_fault (tokenless_unreadable c position)
  | case4 position c rest hblank token hsome more ih =>
      rw [readFrom, if_neg hblank, hsome]
      exact ih.bind fun tokens _ => failsOnly_ok _

end Lexeme

theorem failsOnly_tokenize (expression : Option String) :
    FailsOnly Fault.Tokenless (tokenize expression) :=
  (Lexeme.failsOnly_readFrom 0 _).bind fun _ _ => failsOnly_ok _

/-- The scan finds tokens that the evaluation knows. -/
theorem isKnown_of_tokenize {expression : Option String} {tokens : List Token}
    (h : tokenize expression = .ok tokens) : ∀ token ∈ tokens, token.isKnown = true := by
  obtain ⟨lexemes, hlexemes, hok⟩ := bind_eq_ok_iff.1 h
  cases hok
  have hscans := Lexeme.readFrom_eq_ok_iff.1 hlexemes
  exact forall_mem_writeProducts (by decide) fun token htoken =>
    Token.isKnown_of_isLexeme (Lexeme.isLexeme_of_scans hscans token htoken)

/-! ### The ordering -/

namespace Infix

/-- The preparation makes up only tokens that the evaluation knows. -/
theorem isKnown_settled {tokens : List Token} (h : ∀ token ∈ tokens, token.isKnown = true) :
    ∀ token ∈ settled tokens, token.isKnown = true :=
  forall_mem_settled (by decide) (by decide) (by decide) (by decide) h

theorem isKnown_of_prepare {tokens prepared : List Token}
    (h : ∀ token ∈ tokens, token.isKnown = true) (hprepare : prepare tokens = .ok prepared) :
    ∀ token ∈ prepared, token.isKnown = true := by
  obtain ⟨-, -, rfl⟩ := prepare_eq_ok_iff.1 hprepare
  exact isKnown_settled h

end Infix

namespace Postfix

variable {tokens ordered : List Token}

/-- The standard table has the operators among known tokens. -/
theorem listed_of_isKnown (h : ∀ token ∈ tokens, token.isKnown = true) :
    ∀ token ∈ tokens, Listed .standard token :=
  fun token hmem hkind => Token.exists_standard hkind (h token hmem)

/-- **An ordering that fails** refuses parentheses and bars, or the table does not have an
operator. -/
theorem ofInfix_failure {table : OperatorTable} {failure : Failure}
    (h : ofInfix table tokens = .error failure) :
    (∃ fault, failure = .fault fault ∧ fault.Tokenless) ∨
      (∃ token, FirstUnlisted table token (Infix.settled tokens)) ∧ failure.Unknown := by
  rcases ofInfix_cases table tokens with ⟨-, fault, hfault, hreason⟩ |
    ⟨-, -, fault, hfault, hreason⟩ | ⟨-, -, -, hcheck, hrow⟩
  · cases h.symm.trans hfault
    exact Or.inl ⟨fault, rfl, Fault.tokenless_of_reason (by simp [hreason])⟩
  · cases h.symm.trans hfault
    exact Or.inl ⟨fault, rfl, Fault.tokenless_of_reason (by simp [hreason])⟩
  · rw [hrow] at h
    rcases ofPrepared_cases table hcheck with ⟨-, sent, stack, -, -, hordered⟩ |
      ⟨token, hfirst, -, hmissing⟩
    · cases h.symm.trans hordered
    · cases h.symm.trans hmissing
      exact Or.inr ⟨⟨token, hfirst⟩, nofun⟩

theorem failsOnly_ofInfix (htokens : ∀ token ∈ tokens, token.isKnown = true) :
    FailsOnly Fault.Tokenless (ofInfix .standard tokens) := by
  intro failure hfailure
  rcases ofInfix_failure hfailure with hfault | ⟨⟨token, front, back, hrow, -, hkind, hnone⟩, -⟩
  · exact hfault
  · have hmem : token ∈ Infix.settled tokens := by simp [hrow]
    obtain ⟨found, hfound⟩ := listed_of_isKnown (Infix.isKnown_settled htokens) token hmem hkind
    rw [hnone] at hfound
    cases hfound

/-- No delimiter is left in the order. -/
theorem isOperation_of_ofInfix (htokens : ∀ token ∈ tokens, token.isKnown = true)
    (h : ofInfix .standard tokens = .ok ordered) :
    ∀ token ∈ ordered, token.isOperation = true := by
  obtain ⟨prepared, hprepared, hordered⟩ := bind_eq_ok_iff.1 h
  obtain ⟨-, hplain⟩ := operands_of_ofPrepared hordered
  intro token hmem
  -- it stands in the prepared row, since the ordering makes up no token
  have hfrom : token ∈ prepared :=
    List.mem_of_mem_filter ((perm_of_ofPrepared hordered).mem_iff.1 hmem)
  exact Token.isOperation_of_isKnown (Infix.isKnown_of_prepare htokens hprepared token hfrom)
    (hplain token hmem)

/-! ### The evaluation -/

theorem arises_evaluateOrder {unit : AngleUnit}
    (h : ∀ token ∈ ordered, token.isOperation = true) :
    FailsOnly Fault.Arises (evaluate unit ordered) := by
  refine (failsOnly_evaluate h).mono fun fault hfault => ?_
  rcases hfault with ⟨token, hmem, hstep⟩ | ⟨stack, -, rfl⟩
  · exact Or.inr ⟨token, h token hmem, hstep⟩
  · exact Or.inl trivial

end Postfix

theorem arises_ofExpression (expression : Option String) (unit : AngleUnit) :
    FailsOnly Fault.Arises (Trace.ofExpression expression unit) := by
  have htokenless : ∀ fault : Fault, fault.Tokenless → fault.Arises := fun _ => Or.inl
  refine ((failsOnly_tokenize _).mono htokenless).bind fun tokens htokens => ?_
  have hknown := isKnown_of_tokenize htokens
  refine ((Postfix.failsOnly_ofInfix hknown).mono htokenless).bind fun ordered hordered => ?_
  have hoperation := Postfix.isOperation_of_ofInfix hknown hordered
  exact (Postfix.arises_evaluateOrder hoperation).bind fun _ _ => failsOnly_ok _

theorem arises_evaluate (expression : Option String) (unit : AngleUnit) :
    FailsOnly Fault.Arises (evaluate expression unit) :=
  (arises_ofExpression expression unit).bind fun _ _ => failsOnly_ok _

theorem failsOnly_ofExpression (expression : Option String) (unit : AngleUnit) :
    FailsOnly Fault.Placed (Trace.ofExpression expression unit) :=
  (arises_ofExpression expression unit).mono fun _ => Fault.placed_of_arises

theorem failsOnly_evaluate (expression : Option String) (unit : AngleUnit) :
    FailsOnly Fault.Placed (evaluate expression unit) :=
  (arises_evaluate expression unit).mono fun _ => Fault.placed_of_arises

/-- **Every failure is classified.** Whatever the text of an expression, it has a
value or a fault; the fault is no token out of place, and its code, kind, reason
and details fit together. -/
theorem evaluate_classified (expression : Option String) (unit : AngleUnit) :
    (∃ x, evaluate expression unit = .ok x) ∨
      ∃ fault : Fault, evaluate expression unit = .error (.fault fault) ∧ fault.Classified ∧
        ∀ token, fault ≠ .strayToken token := by
  have hfails := failsOnly_evaluate expression unit
  cases houtcome : evaluate expression unit with
  | ok x => exact Or.inl ⟨x, rfl⟩
  | error failure =>
      obtain ⟨fault, rfl, hplaced⟩ := hfails failure houtcome
      exact Or.inr ⟨fault, rfl, fault.classified_of_placed hplaced, hplaced⟩

end Calculator
