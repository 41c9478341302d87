import Calculator.Proofs.Meaning.Classified
import Calculator.Proofs.Serving.Strict

/-!
# What the details of a fault tell

The details of a fault begin with its kind and its reason.  The particulars come after
them, and a particular takes the place of an earlier detail of its name.  So the kind and
the reason can be read from the details as long as no particular has their names.

One has: a token out of place is told with its own kind, which then stands where the kind
of the fault should, and no kind of tokens has the name of a kind of faults
(`Fault.get?_kind_details_iff`).  What is left to find out is where that fault comes up.

* The scan, the ordering and the functions never find a token out of place, whatever
  the text, the table, the tokens or the name.
* The evaluation finds one as soon as it gets to a parenthesis or a bar, and for no other
  cause (`Postfix.placed_iff_of_evaluate`).
* An order that the ordering has made has neither, under any table.
-/

namespace Calculator

variable {unit : AngleUnit} {fault : Fault}

/-! ### Details -/

/-- The details of a fault tell its kind and its reason, and every double in them is
finite. -/
structure Fault.Described (fault : Fault) : Prop where
  kind : fault.details.get? "kind" = some (.text fault.kind.name)
  reason : fault.details.get? "reason" = some (.text fault.reason.name)
  finite : ∀ field ∈ fault.details, field.2.Strict

/-- No particular has the name that the reason stands under. -/
theorem Fault.get?_reason_details (fault : Fault) :
    fault.details.get? "reason" = some (.text fault.reason.name) := by
  cases fault <;> rfl

/-- The kind of a token out of place stands where the kind of the fault should. -/
theorem Fault.get?_kind_details_strayToken (token : Token) :
    (strayToken token).details.get? "kind" = some (.text token.kind.name) := rfl

theorem Token.Kind.name_ne_form (kind : Token.Kind) : kind.name ≠ FaultKind.form.name := by
  cases kind <;> decide

/-- **The details of all faults but one tell the kind of the fault.** -/
theorem Fault.get?_kind_details_iff :
    fault.details.get? "kind" = some (.text fault.kind.name) ↔ fault.Placed := by
  constructor
  · rintro hkind token rfl
    rw [get?_kind_details_strayToken] at hkind
    have hname : token.kind.name = FaultKind.form.name :=
      Value.text.inj (Option.some.inj hkind)
    exact token.kind.name_ne_form hname
  · intro hplaced
    exact (classified_of_placed hplaced).kind_detail

theorem Fault.described_of_placed (h : fault.Placed) : fault.Described :=
  ⟨get?_kind_details_iff.2 h, fault.get?_reason_details, fault.strict_details⟩

theorem Fault.placed_of_kind (h : fault.kind ≠ .form) : fault.Placed := by
  rintro token rfl
  exact h rfl

/-! ### Scan and ordering -/

theorem placed_of_tokenize {expression : Option String}
    (h : tokenize expression = .error (.fault fault)) : fault.Placed := by
  obtain ⟨_, hfault, htokenless⟩ := failsOnly_tokenize expression _ h
  cases hfault
  exact Fault.placed_of_tokenless htokenless

theorem Postfix.placed_of_ofInfix {table : OperatorTable} {tokens : List Token}
    (h : ofInfix table tokens = .error (.fault fault)) : fault.Placed := by
  have htokenless : fault.Tokenless := Failure.of_known (ofInfix_failure h)
  exact Fault.placed_of_tokenless htokenless

/-! ### Evaluation -/

theorem NamedFunction.placed_of_applyNamed {name : String} {x : Float}
    (h : applyNamed name unit x = .error (.fault fault)) : fault.Placed := by
  have hkind : fault.kind = .domain := Failure.of_known (applyNamed_failure h)
  exact Fault.placed_of_kind (by simp [hkind])

namespace Postfix

variable {token : Token} {tokens : List Token} {stack : List Float}

/-- A step finds a token out of place only if it is a delimiter. -/
theorem placed_of_evaluateStep (hplain : token.isDelimiter = false)
    (h : evaluateStep unit stack token = .error (.fault fault)) : fault.Placed := by
  have hstep : StepFault token fault := Failure.of_known (evaluateStep_failure hplain h)
  exact hstep.placed

theorem evaluateStep_of_isDelimiter (h : token.isDelimiter = true) (stack : List Float) :
    evaluateStep unit stack token = .error (.fault (.strayToken token)) := by
  obtain ⟨kind, text⟩ := token
  cases kind with
  | leftParen | rightParen | bar => rfl
  | number | constant | operator | function => cases h

/-- The evaluation gets to no parenthesis and no bar. -/
def Undelimited (unit : AngleUnit) (tokens : List Token) : Prop :=
  ∀ before token after stack, tokens = before ++ token :: after →
    evaluateFrom unit [] before = .ok stack → token.isDelimiter = false

theorem undelimited_of_forall (h : ∀ token ∈ tokens, token.isDelimiter = false) :
    Undelimited unit tokens := by
  rintro before token after stack rfl -
  exact h token (by simp)

/-- **Where a token is out of place.**  An evaluation that fails has found none just if it
has not got to a delimiter. -/
theorem placed_iff_of_evaluate (h : evaluate unit tokens = .error (.fault fault)) :
    fault.Placed ↔ Undelimited unit tokens := by
  constructor
  · rintro hplaced before token after stack rfl hbefore
    by_contra hdelimiter
    -- the delimiter ends the evaluation, so its fault is the one that was found
    have hstep : evaluateStep unit stack token = .error (.fault (.strayToken token)) :=
      evaluateStep_of_isDelimiter (by simpa using hdelimiter) stack
    have hends :=
      evaluate_eq_error_iff.2 (Or.inl ⟨before, token, after, stack, rfl, hbefore, hstep⟩)
    cases h.symm.trans hends
    exact hplaced token rfl
  · intro hundelimited
    rcases evaluate_eq_error_iff.1 h with ⟨before, token, after, stack, rfl, hbefore, hstep⟩ |
      ⟨stack, -, -, hleftover⟩
    · exact placed_of_evaluateStep (hundelimited before token after stack rfl hbefore) hstep
    · cases hleftover
      exact nofun

/-- An order that the ordering has made has no delimiters, under any table. -/
theorem undelimited_of_ofInfix {table : OperatorTable} {ordered : List Token}
    (h : ofInfix table tokens = .ok ordered) : Undelimited unit ordered := by
  obtain ⟨prepared, -, hordered⟩ := bind_eq_ok_iff.1 h
  exact undelimited_of_forall (operands_of_ofPrepared hordered).2

end Postfix

/-! ### All stages -/

/-- **What the details of a fault tell, wherever it comes up.**

* The scan of any text, the ordering of any row under any table and a function at any
  operand fail with faults whose details are right.
* So does the evaluation of what the ordering has made.
* The evaluation of any other row fails with a fault whose details tell its reason, and
  nothing that is not finite.  They tell its kind just if the evaluation has not got to a
  delimiter. -/
theorem Fault.details_by_stage (fault : Fault) :
    (∀ expression, tokenize expression = .error (.fault fault) → fault.Described) ∧
    (∀ table tokens, Postfix.ofInfix table tokens = .error (.fault fault) → fault.Described) ∧
    (∀ name unit x, NamedFunction.applyNamed name unit x = .error (.fault fault) →
      fault.Described) ∧
    (∀ table tokens ordered unit, Postfix.ofInfix table tokens = .ok ordered →
      Postfix.evaluate unit ordered = .error (.fault fault) → fault.Described) ∧
    ∀ unit tokens, Postfix.evaluate unit tokens = .error (.fault fault) →
      fault.details.get? "reason" = some (.text fault.reason.name) ∧
      (∀ field ∈ fault.details, field.2.Strict) ∧
      (fault.details.get? "kind" = some (.text fault.kind.name) ↔
        Postfix.Undelimited unit tokens) := by
  refine ⟨fun expression h => ?_, fun table tokens h => ?_, fun name unit x h => ?_,
    fun table tokens ordered unit hordered h => ?_, fun unit tokens h => ?_⟩
  · exact described_of_placed (placed_of_tokenize h)
  · exact described_of_placed (Postfix.placed_of_ofInfix h)
  · exact described_of_placed (NamedFunction.placed_of_applyNamed h)
  · have hundelimited : Postfix.Undelimited unit ordered :=
      Postfix.undelimited_of_ofInfix hordered
    exact described_of_placed ((Postfix.placed_iff_of_evaluate h).2 hundelimited)
  · refine ⟨fault.get?_reason_details, fault.strict_details, ?_⟩
    rw [get?_kind_details_iff, Postfix.placed_iff_of_evaluate h]

/-- The root of minus infinity: the operand is told by its word. -/
theorem details_of_root_of_minus_infinity :
    Postfix.evaluate .degrees [⟨.number, "inf"⟩, .negation, ⟨.function, "sqrt"⟩] =
      .error (.fault (.negativeRoot (-(1.0 / 0.0)))) ∧
    (Fault.negativeRoot (-(1.0 / 0.0))).details.get? "operand" = some (.text "-inf") ∧
    (Fault.negativeRoot (-(1.0 / 0.0))).Described := by
  have hevaluate : Postfix.evaluate .degrees
      [⟨.number, "inf"⟩, .negation, ⟨.function, "sqrt"⟩] =
        .error (.fault (.negativeRoot (-(1.0 / 0.0)))) := rfl
  have hundelimited : Postfix.Undelimited .degrees
      [⟨.number, "inf"⟩, .negation, ⟨.function, "sqrt"⟩] :=
    Postfix.undelimited_of_forall (by decide)
  obtain ⟨-, -, -, -, hrow⟩ := Fault.details_by_stage (.negativeRoot (-(1.0 / 0.0)))
  obtain ⟨hreason, hfinite, hkind⟩ := hrow _ _ hevaluate
  exact ⟨hevaluate, rfl, hkind.2 hundelimited, hreason, hfinite⟩

/-- A parenthesis among the tokens that are evaluated: the details tell the kind of the
token. -/
theorem not_described_of_leftParen :
    Postfix.evaluate .degrees [.leftParen] = .error (.fault (.strayToken .leftParen)) ∧
      (Fault.strayToken .leftParen).details =
        [("kind", .text "left_paren"), ("reason", .text "malformed_expression"),
          ("token", .text "(")] ∧
      ¬ (Fault.strayToken .leftParen).Described := by
  refine ⟨rfl, rfl, fun hdescribed => ?_⟩
  exact Fault.get?_kind_details_iff.1 hdescribed.kind .leftParen rfl

end Calculator
