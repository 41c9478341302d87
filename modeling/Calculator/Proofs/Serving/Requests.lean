import Calculator.Proofs.Meaning.Stages
import Calculator.Proofs.Serving.Units
import Calculator.Service.WebServer

/-!
# Requests for the value of an expression

A request is a record with the expression and, if wanted, the unit of angles
(`Asks`).  The tools read it field by field and leave other fields alone; the web server
checks it as a whole and lists all that is wrong with it.  It takes just the records
that ask for something and hold nothing else (`EvaluateRequest.ofDatum_eq_ok_iff`).  So
where both accept a request they come to the same expression and the same unit.
-/

namespace Calculator

open Calculator.Text Calculator.Json

variable {environment : Environment} {settings : Except Failure Settings}
  {fields : Fields Value} {expression : String} {field : UnitField}

/-- The fields ask for the value of an expression, under a unit given in some way. -/
structure Asks (fields : Fields Value) (expression : String) (field : UnitField) : Prop where
  expression_field : fields.get? "expression" = some (.text expression)
  unit_field : fields.get? "angle_mode" = field.value?

/-! ### The tools -/

namespace ExpressionTools

theorem argument_record (fields : Fields Value) (name : String) :
    argument (.record fields) name = .ok ((fields.get? name).getD .null) :=
  rfl

theorem requireExpression_of_asks (h : Asks fields expression field) :
    requireExpression (.record fields) = .ok expression := by
  simp only [requireExpression, argument_record, h.expression_field, Option.getD_some, bind,
    Except.bind]

/-- The tool that evaluates comes to the expression and the unit that are asked for. -/
theorem handle_evaluate (h : Asks fields expression field) :
    handle settings "calc_evaluate" (.record fields) =
      evaluate settings (some expression) field.value := by
  simp only [handle, if_pos, requireExpression_of_asks h, argument_record, h.unit_field, bind,
    Except.bind, UnitField.value]

/-- The tool that orders does not look at the unit. -/
theorem handle_toPostfix (h : Asks fields expression field) {tokens ordered : List Token}
    (htokens : tokenize (some expression) = .ok tokens)
    (hordered : Postfix.ofInfix .standard tokens = .ok ordered) :
    handle settings "calc_to_postfix" (.record fields) =
      .ok { result := .list ((Token.texts ordered).map .text), shape := [ordered.length],
            itemType := "token" } := by
  have hevaluate : ("calc_to_postfix" = "calc_evaluate") = False := by simp
  have htokenize : ("calc_to_postfix" = "calc_tokenize") = False := by simp
  simp only [handle, hevaluate, htokenize, if_false, if_pos, requireExpression_of_asks h, htokens,
    hordered, bind, Except.bind, pure, Except.pure]

/-- What an evaluation comes to, once the unit is found. -/
theorem evaluate_of_resolve {source : Option String} {given : Value} {unit : AngleUnit}
    (hunit : AngleUnit.resolve settings given = .ok unit) {tokens ordered : List Token} {x : Float}
    (hread : Trace.read source = .ok (tokens, ordered))
    (hvalue : Postfix.evaluate unit ordered = .ok x) :
    evaluate settings source given =
      .ok {
        result := .record
          [("value", .ofNumber x), ("is_finite", .truth x.isFinite),
            ("angle_mode", .text unit.label),
            ("postfix", .list ((Token.texts ordered).map .text))]
        shape := []
        itemType := "float64" } := by
  simp only [evaluate, hunit, Trace.ofExpression_eq, hread, hvalue, bind, Except.bind, pure,
    Except.pure, Except.map, Trace.isFinite]

/-- What an evaluation comes to. -/
theorem evaluate_eq_ok_iff {source : Option String} {given : Value} {outcome : Outcome} :
    evaluate settings source given = .ok outcome ↔
      ∃ unit tokens ordered x, AngleUnit.resolve settings given = .ok unit ∧
        Trace.read source = .ok (tokens, ordered) ∧ Postfix.evaluate unit ordered = .ok x ∧
          outcome = {
            result := .record
              [("value", .ofNumber x), ("is_finite", .truth x.isFinite),
                ("angle_mode", .text unit.label),
                ("postfix", .list ((Token.texts ordered).map .text))]
            shape := []
            itemType := "float64" } := by
  constructor
  · intro h
    obtain ⟨unit, hunit, hrest⟩ := bind_eq_ok_iff.1 h
    obtain ⟨trace, htrace, -⟩ := bind_eq_ok_iff.1 hrest
    have hvalue : Calculator.evaluate source unit = .ok trace.result :=
      bind_eq_ok_iff.2 ⟨trace, htrace, rfl⟩
    obtain ⟨tokens, ordered, hread, hx⟩ := exists_read_of_evaluate hvalue
    have houtcome := h.symm.trans (evaluate_of_resolve hunit hread hx)
    exact ⟨unit, tokens, ordered, _, hunit, hread, hx, Except.ok.inj houtcome⟩
  · rintro ⟨unit, tokens, ordered, x, hunit, hread, hx, rfl⟩
    exact evaluate_of_resolve hunit hread hx

/-- An evaluation fails where its unit is not found. -/
theorem evaluate_of_not_resolved {source : Option String} {given : Value} {failure : Failure}
    (hunit : AngleUnit.resolve settings given = .error failure) :
    evaluate settings source given = .error failure := by
  simp only [evaluate, hunit, bind, Except.bind]

/-- With the unit found, an evaluation fails as the value of the expression does. -/
theorem evaluate_of_fault {source : Option String} {given : Value} {unit : AngleUnit}
    {failure : Failure} (hunit : AngleUnit.resolve settings given = .ok unit)
    (hvalue : Calculator.evaluate source unit = .error failure) :
    evaluate settings source given = .error failure := by
  have htrace : Trace.ofExpression source unit = .error failure := by
    rcases bind_eq_error_iff.1 hvalue with htrace | ⟨trace, -, hok⟩
    · exact htrace
    · cases hok
  simp only [evaluate, hunit, htrace, bind, Except.bind]

end ExpressionTools

/-! ### The web server -/

namespace WebServer

variable {fields : Fields Datum}

theorem expressionProblems_eq_nil_iff :
    expressionProblems fields = [] ↔
      ∃ expression, fields.get? "expression" = some (.text expression) := by
  unfold expressionProblems
  constructor
  · intro h
    split at h
    · next expression hfound => exact ⟨expression, hfound⟩
    · cases h
    · cases h
  · rintro ⟨expression, hfound⟩
    simp only [hfound]

theorem unitField_eq_ok_iff {unit : Option AngleUnit} :
    unitField fields = .ok unit ↔
      ∃ field : UnitField, fields.get? "angle_mode" = field.value?.map .ofValue ∧
        field.unit? = unit := by
  unfold unitField
  constructor
  · intro h
    split at h
    · next hfound => exact ⟨.absent, hfound, Except.ok.inj h⟩
    · next hfound => exact ⟨.empty, hfound, Except.ok.inj h⟩
    · next name hfound =>
        split at h
        · next hname =>
            rw [plain?_eq_some_iff.1 hname] at hfound
            exact ⟨.named .degrees, hfound, Except.ok.inj h⟩
        · next hname =>
            rw [plain?_eq_some_iff.1 hname] at hfound
            exact ⟨.named .radians, hfound, Except.ok.inj h⟩
        · cases h
        · cases h
    · cases h
  · rintro ⟨field, hfound, rfl⟩
    rw [hfound]
    cases field with
    | absent | empty => rfl
    | named unit => cases unit <;> rfl

theorem excessProblems_eq_nil_iff :
    excessProblems fields = [] ↔
      ∀ name ∈ fields.names, name = "expression" ∨ name = "angle_mode" := by
  unfold excessProblems
  rw [List.map_eq_nil_iff, List.filter_eq_nil_iff]
  refine forall₂_congr fun name _ => ?_
  simp [imp_iff_not_or]

/-- The fields of a body ask for the value of an expression, under a unit given in some
way, and for nothing else. -/
structure AsksOnly (fields : Fields Datum) (expression : List Point) (field : UnitField) :
    Prop where
  expression_field : fields.get? "expression" = some (.text expression)
  unit_field : fields.get? "angle_mode" = field.value?.map .ofValue
  only : ∀ name ∈ fields.names, name = "expression" ∨ name = "angle_mode"

theorem EvaluateRequest.ofFields_eq_ok_iff {request : EvaluateRequest} :
    EvaluateRequest.ofFields fields = .ok request ↔
      ∃ field : UnitField, AsksOnly fields request.expression field ∧
        field.unit? = request.unit := by
  constructor
  · intro h
    simp only [EvaluateRequest.ofFields] at h
    split at h
    · next expression unit hproblems hexpression hunit =>
        rw [List.append_eq_nil_iff] at hproblems
        obtain ⟨field, hfield, hgiven⟩ := unitField_eq_ok_iff.1 hunit
        obtain rfl := Except.ok.inj h
        exact ⟨field, ⟨hexpression, hfield, excessProblems_eq_nil_iff.1 hproblems.2⟩, hgiven⟩
    · cases h
  · rintro ⟨field, hasks, hgiven⟩
    have hunit : unitField fields = .ok request.unit :=
      unitField_eq_ok_iff.2 ⟨field, hasks.unit_field, hgiven⟩
    have hexpression := expressionProblems_eq_nil_iff.2 ⟨_, hasks.expression_field⟩
    have hexcess := excessProblems_eq_nil_iff.2 hasks.only
    simp only [EvaluateRequest.ofFields, hexpression, unitProblems, hunit, hexcess,
      List.append_nil, hasks.expression_field]

/-- A datum conforms to the schema as a request: it is a record whose names are texts of
the program, and its fields ask for the expression and the unit of the request only. -/
def EvaluateRequest.Conforms (request : EvaluateRequest) (datum : Datum) : Prop :=
  ∃ (written : List (List Point × Datum)) (fields : Fields Datum) (field : UnitField),
    datum = .record written ∧ Datum.fields? written = some fields ∧
      AsksOnly fields request.expression field ∧ field.unit? = request.unit

/-- **The server takes just what conforms.** -/
theorem EvaluateRequest.ofDatum_eq_ok_iff {datum : Datum} {request : EvaluateRequest} :
    EvaluateRequest.ofDatum datum = .ok request ↔ request.Conforms datum := by
  constructor
  · intro h
    cases datum with
    | record written =>
        cases hfields : Datum.fields? written with
        | none => simp [EvaluateRequest.ofDatum, hfields] at h
        | some fields =>
            simp only [EvaluateRequest.ofDatum, hfields] at h
            obtain ⟨field, hasks, hgiven⟩ := ofFields_eq_ok_iff.1 h
            exact ⟨written, fields, field, rfl, hfields, hasks, hgiven⟩
    | null | truth | whole | number | text | list => cases h
  · rintro ⟨written, fields, field, rfl, hfields, hasks, hgiven⟩
    simp only [EvaluateRequest.ofDatum, hfields]
    exact ofFields_eq_ok_iff.2 ⟨field, hasks, hgiven⟩

/-- The server hands on the unit as it was given, but for an empty field, which it
takes for none. -/
theorem EvaluateRequest.given_eq {request : EvaluateRequest} (h : field.unit? = request.unit) :
    request.given = field.value := by
  unfold EvaluateRequest.given
  rw [← h]
  cases field <;> rfl

theorem EvaluateRequest.given_mk (expression : List Point) (field : UnitField) :
    EvaluateRequest.given ⟨expression, field.unit?⟩ = field.value :=
  given_eq rfl

theorem respond_evaluate (settings : Except Failure Settings) (words : List UInt8 → String)
    (body : List UInt8) : respond settings words "POST" "/evaluate" body =
      evaluate settings words body :=
  rfl

end WebServer

end Calculator
