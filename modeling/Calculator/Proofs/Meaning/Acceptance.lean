import Calculator.Proofs.Lexing.RoundTrip
import Calculator.Proofs.Meaning.Classified
import Calculator.Proofs.Meaning.Composition
import Calculator.Proofs.Ordering.Sequence

/-!
# Which expressions are refused

Nothing looks at the order of operands and operators before the evaluation, and
what the evaluation finds out is only whether there are operands enough.  How far
this goes in each direction:

* No sequence of operands and operators is refused for its form
  (`evaluate_of_isSequence`), but for signs behind a power.  A sign binds less
  tight than the power in front of it, so it would send the power before its right
  operand is there.
* A text may have a value without being a sequence: in `2 3 +` the operator is sent
  last, and finds both operands.  What a value does tell is that the places left
  empty balance, as many of operands as of operators (`missing_of_evaluate`).  So a
  text that has a value and leaves no place of one kind empty is a sequence.
-/

namespace Calculator

open Infix Postfix

variable {tokens : List Token} {text : String} {unit : AngleUnit}

/-! ### Sequences are evaluated -/

/-- Of the standard operators, a sign sends only the power. -/
theorem spares_standard {first second : Token}
    (h : first = ⟨.operator, "^"⟩ → second ≠ .negation) : Spares .standard first second := by
  have hpower : ∀ entry ∈ Operator.standard, entry.2.pops ⟨3, .right⟩ = true → entry.1 = "^" := by
    decide
  intro hsign coming hcoming hpops
  obtain rfl := Token.eq_negation_of_isNegation hsign
  obtain rfl : (⟨3, .right⟩ : Operator) = coming := Option.some.inj hcoming
  obtain ⟨hkind, waiting, hwaiting, hsent⟩ := hpops
  have hsymbol : first.text = "^" := hpower _ (Fields.mem_of_get? hwaiting) hsent
  have hfirst : first = ⟨.operator, "^"⟩ := by
    rw [← hkind, ← hsymbol]
  exact h hfirst rfl

/-- A sequence of known tokens is ordered, and its order lists a tree. -/
theorem exists_lists_of_isKnown (hknown : ∀ token ∈ tokens, token.isKnown = true)
    (hcheck : checkParentheses 0 tokens = .ok ()) (hsequence : isSequence .operand tokens = true)
    (hchain : tokens.IsChain fun first second => first = ⟨.operator, "^"⟩ → second ≠ .negation) :
    ∃ ordered, ofPrepared .standard tokens = .ok ordered ∧ ∃ tree : Tree, tree.Lists ordered := by
  have hspares : tokens.IsChain (Spares .standard) := hchain.imp fun _ _ h => spares_standard h
  obtain ⟨ordered, hordered⟩ := exists_ofPrepared (listed_of_isKnown hknown) hcheck
  exact ⟨ordered, hordered, exists_lists_of_isSequence hsequence hspares hordered⟩

/-- **No sequence is refused for its form**, whatever bars and functions it has, if
no sign stands directly behind a power. -/
theorem evaluate_of_isSequence (hknown : ∀ token ∈ tokens, token.isKnown = true)
    (hcheck : checkParentheses 0 tokens = .ok ())
    (hbars : (tokens.countP fun token => token.kind = .bar) % 2 = 0) (unit : AngleUnit) :
    ∃ prepared, expandBars false (markNegations none tokens) = .ok prepared ∧
      (isSequence .operand prepared = true →
        prepared.IsChain (fun first second => first = ⟨.operator, "^"⟩ → second ≠ .negation) →
          ∃ ordered, ofInfix .standard tokens = .ok ordered ∧
            ((∃ x, Postfix.evaluate unit ordered = .ok x) ∨
              ∃ fault, Postfix.evaluate unit ordered = .error (.fault fault) ∧
                (fault.kind = .domain ∨ fault.kind = .arithmetic))) := by
  have hclosed : barOpen false tokens = false := by
    rw [barOpen_eq_xor, hbars]
    rfl
  have hprepare : prepare tokens = .ok (settled tokens) :=
    prepare_eq_settled (balanced_of_checkParentheses hcheck) hclosed
  obtain ⟨-, -, hexpand⟩ := bind_eq_ok_iff.1 hprepare
  refine ⟨settled tokens, hexpand, fun hsequence hchain => ?_⟩
  obtain ⟨ordered, hordered, tree, htree⟩ := exists_lists_of_isKnown
    (isKnown_of_prepare hknown hprepare) (checkParentheses_settled hcheck hclosed) hsequence hchain
  have hinfix : ofInfix .standard tokens = .ok ordered :=
    bind_eq_ok_iff.2 ⟨settled tokens, hprepare, hordered⟩
  have hform : FailsOnly (fun fault => fault.kind ≠ .form) (Postfix.evaluate unit ordered) :=
    failsOnly_of_lists htree fun token hmem =>
      Token.isKnown_of_isOperation (isOperation_of_ofInfix hknown hinfix token hmem)
  exact ⟨ordered, hinfix, hform.value_or_fault⟩

/-- A sign, a function without parentheses and a pair of bars. -/
theorem evaluate_sign_of_function :
    ∃ ordered, ofInfix .standard [⟨.operator, "-"⟩, ⟨.function, "ln"⟩, .bar, ⟨.constant, "e"⟩,
        ⟨.operator, "^"⟩, ⟨.constant, "π"⟩, .bar] = .ok ordered ∧
      ((∃ x, Postfix.evaluate .radians ordered = .ok x) ∨
        ∃ fault, Postfix.evaluate .radians ordered = .error (.fault fault) ∧
          (fault.kind = .domain ∨ fault.kind = .arithmetic)) := by
  have hknown : ∀ token ∈ [⟨.operator, "-"⟩, ⟨.function, "ln"⟩, .bar, ⟨.constant, "e"⟩,
      ⟨.operator, "^"⟩, ⟨.constant, "π"⟩, .bar], Token.isKnown token = true := by decide
  obtain ⟨prepared, hprepared, haccepted⟩ :=
    evaluate_of_isSequence hknown rfl (by decide) .radians
  have hexpand : expandBars false (markNegations none [⟨.operator, "-"⟩, ⟨.function, "ln"⟩, .bar,
      ⟨.constant, "e"⟩, ⟨.operator, "^"⟩, ⟨.constant, "π"⟩, .bar]) =
      .ok [.negation, ⟨.function, "ln"⟩, .magnitude, .leftParen, ⟨.constant, "e"⟩,
        ⟨.operator, "^"⟩, ⟨.constant, "π"⟩, .rightParen] := rfl
  obtain rfl := Except.ok.inj (hexpand.symm.trans hprepared)
  exact haccepted (by decide) (by decide)

/-! ### Values of other rows -/

/-- **A value tells that empty places balance**: as many operands are missing as
operators.  So if none of one kind is missing, the row is a sequence. -/
theorem missing_of_evaluate {x : Float} (h : evaluate (some text) unit = .ok x) :
    ∃ tokens prepared, tokenize (some text) = .ok tokens ∧
      expandBars false (markNegations none tokens) = .ok prepared ∧
        missing .operand .operand prepared = missing .operator .operand prepared ∧
          (isSequence .operand prepared = true ↔ missing .operand .operand prepared = 0) := by
  obtain ⟨tokens, ordered, htokens, hordered, hvalue⟩ := exists_ordered_of_evaluate h
  obtain ⟨prepared, hprepare, hprepared⟩ := bind_eq_ok_iff.1 hordered
  obtain ⟨-, -, hexpand⟩ := bind_eq_ok_iff.1 hprepare
  have hheight := length_add_missing hprepared (evaluate_eq_ok hvalue)
  -- the value is the only one on the stack
  rw [List.length_singleton] at hheight
  have hmissing : missing .operand .operand prepared = missing .operator .operand prepared := by
    omega
  refine ⟨tokens, prepared, htokens, hexpand, hmissing, ?_⟩
  rw [isSequence_iff (not_bar_of_prepare hprepare), ← hmissing, and_self]

/-- Two numbers with an operator behind them denote the operation. -/
theorem denotes_operands_first {first second : String}
    (hfirst : Number.isPlainDecimal first.toList = true)
    (hsecond : Number.isPlainDecimal second.toList = true) (o : BinaryOperation) :
    Denotes (Token.line [⟨.number, first⟩, ⟨.number, second⟩, ⟨.operator, o.symbol⟩])
      (.binary o.symbol (.number first) (.number second)) := by
  have hlexeme : ∀ token ∈ [⟨.number, first⟩, ⟨.number, second⟩, ⟨.operator, o.symbol⟩],
      Token.isLexeme token = true := by
    have hoperator : Token.isLexeme ⟨.operator, o.symbol⟩ = true := by cases o <;> decide
    exact List.forall_mem_cons.2
      ⟨hfirst, List.forall_mem_cons.2 ⟨hsecond, List.forall_mem_singleton.2 hoperator⟩⟩
  have hexplicit : List.IsChain (fun left right => impliesProduct (some left) right = false)
      [⟨.number, first⟩, ⟨.number, second⟩, ⟨.operator, o.symbol⟩] :=
    List.isChain_cons_cons.2 ⟨rfl, List.isChain_cons_cons.2 ⟨rfl, List.isChain_singleton _⟩⟩
  have hsymbol : o.symbol ≠ Token.negation.text := by cases o <;> decide
  refine ⟨⟨hsymbol, trivial, trivial⟩, _, tokenize_line hlexeme hexplicit, ?_⟩
  cases o <;> rfl

/-- It has a value, unless the second number is a divisor. -/
theorem exists_value_operands_first {first second : String}
    (hfirst : Number.isPlainDecimal first.toList = true)
    (hsecond : Number.isPlainDecimal second.toList = true) {o : BinaryOperation}
    (ho : o.divides = false) (unit : AngleUnit) :
    ∃ x, evaluate
      (some (Token.line [⟨.number, first⟩, ⟨.number, second⟩, ⟨.operator, o.symbol⟩])) unit =
        .ok x := by
  obtain ⟨y, hy⟩ := exists_literal (Number.ofText?_isSome hfirst)
  obtain ⟨z, hz⟩ := exists_literal (Number.ofText?_isSome hsecond)
  have happly : BinaryOperation.applySymbol o.symbol y z = .ok (o.value y z) := by
    rw [BinaryOperation.applySymbol, BinaryOperation.ofSymbol?_symbol]
    show o.apply y z = _
    rw [BinaryOperation.apply, ho, Bool.false_and]
    rfl
  refine ⟨o.value y z, ?_⟩
  rw [(denotes_operands_first hfirst hsecond o).evaluate_eq, Tree.value, Tree.value, Tree.value,
    hy, hz]
  exact happly

/-- A text that has a value and is no sequence. -/
theorem evaluate_operands_first :
    (∃ x, evaluate (some "2 3 +") .degrees = .ok x) ∧
    tokenize (some "2 3 +") = .ok [⟨.number, "2"⟩, ⟨.number, "3"⟩, ⟨.operator, "+"⟩] ∧
    expandBars false (markNegations none [⟨.number, "2"⟩, ⟨.number, "3"⟩, ⟨.operator, "+"⟩]) =
      .ok [⟨.number, "2"⟩, ⟨.number, "3"⟩, ⟨.operator, "+"⟩] ∧
    isSequence .operand [⟨.number, "2"⟩, ⟨.number, "3"⟩, ⟨.operator, "+"⟩] = false := by
  have htokens : tokenize (some (Token.line
      [⟨.number, "2"⟩, ⟨.number, "3"⟩, ⟨.operator, "+"⟩])) =
      .ok [⟨.number, "2"⟩, ⟨.number, "3"⟩, ⟨.operator, "+"⟩] :=
    tokenize_line (by decide) (by decide)
  have hvalue : ∃ x, evaluate (some "2 3 +") .degrees = .ok x :=
    @exists_value_operands_first "2" "3" (by decide) (by decide) .add rfl .degrees
  exact ⟨hvalue, htokens, rfl, by decide⟩

/-- The same text leaves the place of an operator empty and that of an operand, one
each. -/
theorem missing_of_operands_first :
    (∃ x, evaluate (some "2 3 +") .degrees = .ok x) ∧
    ∃ tokens prepared, tokenize (some "2 3 +") = .ok tokens ∧
      expandBars false (markNegations none tokens) = .ok prepared ∧
        missing .operand .operand prepared = missing .operator .operand prepared ∧
          (isSequence .operand prepared = true ↔ missing .operand .operand prepared = 0) := by
  have hvalue : ∃ x, evaluate (some "2 3 +") .degrees = .ok x :=
    @exists_value_operands_first "2" "3" (by decide) (by decide) .add rfl .degrees
  obtain ⟨x, hx⟩ := hvalue
  exact ⟨⟨x, hx⟩, missing_of_evaluate hx⟩

end Calculator
